import RevocationCheck.Proofs.DecodedChains
import RevocationCheck.Proofs.IssuerFiles
import RevocationCheck.Proofs.WrittenBundles

/-!
# Only the first block counts

A revocation list, and the certificate of an issuer, are the first PEM block of a text.  Here such a
text has any lines that begin no block in front, then a written block, and then any octets: further
blocks, damaged ones, or what is no text at all (`leading`).

The block is found (`first_leading`), and its contents alone decide what becomes of the text as a
list and as an issuer file; neither the label nor what stands around the block has a part in it
(`first_block_decides`).
-/

namespace RevocationCheck

namespace Pem

/-- Lines that begin no block, a block, and any octets behind it. -/
def leading (front : List PlainLine) (w : WrittenBlock) (back : Octets) : Octets :=
  unlines (front.map PlainLine.text ++ w.lines) ++ back

variable (front : List PlainLine) (w : WrittenBlock) (back : Octets)

theorem readBlock_leading :
    readBlock (lines (leading front w back)) = .ok (w.block, lines back) := by
  have hunbroken : ∀ l ∈ front.map PlainLine.text ++ w.lines, '\n' ∉ l := by
    intro l hl
    rcases List.mem_append.mp hl with hplain | hblock
    · obtain ⟨line, -, rfl⟩ := List.mem_map.mp hplain
      exact line.unbroken
    · exact w.lines_unbroken l hblock
  rw [leading, lines_unlines_append hunbroken, List.map_append, List.append_assoc,
    readBlock_plain, readBlock_written]

/-- The first block is the one that was written, whatever follows it. -/
theorem first_leading : first (leading front w back) = .ok w.block := by
  rw [first, readBlock_leading]
  rfl

theorem leading_ne_nil : leading front w back ≠ [] := by
  intro hnil
  have hfirst := first_leading front w back
  rw [hnil] at hfirst
  cases hfirst

end Pem

namespace Source

open Pem (PlainLine WrittenBlock leading)

variable {files : FileSystem} {role : IssuerRole} {path : String}

/-- What becomes of an issuer file once its first block has been found. -/
theorem load_of_first {data : Octets} {block : Pem.Block} (contents : Contains files path data)
    (scanned : Pem.first data = .ok block) :
    IssuerCertificate.load files role path =
      match X509.Certificate.decode block.contents with
      | .error fault =>
        .error (.issuerUndecodable role path (Failure.undecodable fault.message).message)
      | .ok _ => .ok (some ⟨block.contents⟩) := by
  cases hdecode : X509.Certificate.decode block.contents with
  | error fault => exact load_of_unusable (.undecodable contents scanned hdecode)
  | ok certificate => exact load_of_holds ⟨⟨data, contents, scanned⟩, hdecode⟩

theorem load_leading {front : List PlainLine} {w : WrittenBlock} {back : Octets}
    (configured : path ≠ "") (read : files path = .ok (leading front w back)) :
    IssuerCertificate.load files role path =
      match X509.Certificate.decode w.contents with
      | .error fault =>
        .error (.issuerUndecodable role path (Failure.undecodable fault.message).message)
      | .ok _ => .ok (some ⟨w.contents⟩) :=
  load_of_first ⟨configured, read, Pem.leading_ne_nil front w back⟩
    (Pem.first_leading front w back)

/-- **The contents of the first block decide.**  As a revocation list the text is what its first
block encodes.  As an issuer file it loads if and only if the block encodes a certificate, and then
the octets of the block are kept.  A text with another label, with other lines in front, and with
anything else behind has the same outcomes, those of a failure included. -/
theorem first_block_decides (front : List PlainLine) (w : WrittenBlock) (back : Octets) :
    RevocationList.ofPem (leading front w back) = RevocationList.ofDer w.contents ∧
    (∀ files role path, path ≠ "" → files path = .ok (leading front w back) →
      ((∃ issuer, IssuerCertificate.load files role path = .ok issuer) ↔
        ∃ certificate, X509.Certificate.decode w.contents = .ok certificate) ∧
      ∀ issuer, IssuerCertificate.load files role path = .ok issuer →
        issuer = some ⟨w.contents⟩) ∧
    ∀ (front' : List PlainLine) (w' : WrittenBlock) (back' : Octets), w'.contents = w.contents →
      RevocationList.ofPem (leading front' w' back') =
        RevocationList.ofPem (leading front w back) ∧
      ∀ files files' role path, path ≠ "" → files path = .ok (leading front w back) →
        files' path = .ok (leading front' w' back') →
          IssuerCertificate.load files' role path = IssuerCertificate.load files role path := by
  have hlist (front : List PlainLine) (w : WrittenBlock) (back : Octets) :
      RevocationList.ofPem (leading front w back) = RevocationList.ofDer w.contents := by
    rw [RevocationList.ofPem, Pem.first_leading]
    rfl
  refine ⟨hlist front w back, fun files role path configured read => ?_, ?_⟩
  · rw [load_leading configured read]
    cases X509.Certificate.decode w.contents with
    | error fault => exact ⟨by simp, by simp⟩
    | ok certificate => exact ⟨by simp, by simp⟩
  · intro front' w' back' hcontents
    refine ⟨by rw [hlist, hlist, hcontents], fun files files' role path configured read read' => ?_⟩
    rw [load_leading configured read, load_leading configured read', hcontents]

/-! ### A sample -/

namespace Sample

/-- A certificate under another label. -/
def mislabelled : WrittenBlock where
  label := "NOTE"
  contents := X509.plainCertificate
  width := 5
  closing := "OTHER".toList
  lineEnd := fun _ => .returnFeed
  label_noDash := by decide
  label_unbroken := by decide
  closing_unbroken := by decide

/-- A line in front of the block. -/
def heading : PlainLine := ⟨" -----BEGIN NOTE-----".toList, by decide, by decide⟩

/-- The block with a begin line behind it that is not closed, and an octet that is no text. -/
def crowded : Octets :=
  leading [heading] mislabelled (Text.Utf8.encodeChars "-----BEGIN NOTE\n".toList ++ [0xFF])

end Sample

/-- The certificate of the block is loaded, and the octets behind it spoil nothing. -/
theorem first_block_decides_sample :
    let files : FileSystem := fun _ => .ok Sample.crowded
    IssuerCertificate.load files .offlineList "issuer.pem" = .ok (some ⟨X509.plainCertificate⟩) ∧
      RevocationList.ofPem Sample.crowded = RevocationList.ofDer X509.plainCertificate ∧
      Pem.blocks Sample.crowded = .error .invalidHeader := by
  intro files
  obtain ⟨certificate, hdecode, -⟩ := X509.decode_plainCertificate
  obtain ⟨hlist, hfile, -⟩ := first_block_decides [Sample.heading] Sample.mislabelled
    (Text.Utf8.encodeChars "-----BEGIN NOTE\n".toList ++ [0xFF])
  obtain ⟨hloads, hkept⟩ := hfile files .offlineList "issuer.pem" (by decide) rfl
  obtain ⟨issuer, hload⟩ := hloads.mpr ⟨certificate, hdecode⟩
  refine ⟨?_, hlist, by decide +kernel⟩
  rw [hload, hkept issuer hload]
  rfl

end Source

end RevocationCheck
