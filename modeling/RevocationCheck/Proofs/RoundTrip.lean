import RevocationCheck.Failure
import RevocationCheck.Proofs.WrittenLists

/-!
# Lists and their encodings

A revocation list that has been written is decoded to what was written: `ofDer_encode` for the dates
and the entries, `issuer_of_encode` for the issuer.  So a certificate is revoked if and only if the
octets of its serial number are those of an entry, leading zeros apart.
-/

namespace RevocationCheck.RevocationList

open Octets (Fits dropZeros)
open X509 (ListDraft EntryDraft Instant)

/-- The list says what the draft says. -/
structure Follows (list : RevocationList) (d : ListDraft) (nextUpdate : Instant) : Prop where
  thisUpdate : list.thisUpdate = d.thisUpdate.timestamp
  nextUpdate : list.nextUpdate = nextUpdate.timestamp
  revoked : list.revoked = d.entries.map fun e => ⟨Octets.toNat e.serial, e.date.timestamp⟩
  lookup (certificate : X509.Certificate) :
    list.lookup certificate.serial = .revoked ↔
      ∃ e ∈ d.entries, dropZeros e.serial = dropZeros certificate.serialOctets

section Encoded

variable {d : ListDraft} (h : Fits d.encode)
include h

/-- What is decoded from a draft in writing. -/
theorem ofDer_encode_eq :
    ofDer d.encode = ofCertificateList d.encode
      (X509.CertificateList.ofParts d.signedElement.encode d.fields d.signature) := by
  rw [ofDer, ListDraft.decode_encode h]

/-- The issuer's name is read as it was written. -/
theorem issuer_of_encode (hissuer : d.issuer.IsWritable) {list : RevocationList}
    (hlist : ofDer d.encode = .ok list) : list.issuer = d.issuer.text := by
  have hfits : Fits d.issuer.element.encode :=
    (Der.fits_content (Der.fits_content h).left).right.right.left
  rw [ofDer_encode_eq h] at hlist
  unfold ofCertificateList at hlist
  split at hlist
  · cases hlist
  · cases hlist
    exact congrArg X509.Name.text (X509.Name.reread_eq hissuer hfits)

end Encoded

/-- The entries of a list that follows a draft revoke the serial numbers that were written. -/
theorem lookup_entries {list : RevocationList} {entries : List EntryDraft}
    (hrevoked : list.revoked = entries.map fun e => ⟨Octets.toNat e.serial, e.date.timestamp⟩)
    (certificate : X509.Certificate) :
    list.lookup certificate.serial = .revoked ↔
      ∃ e ∈ entries, dropZeros e.serial = dropZeros certificate.serialOctets := by
  rw [lookup_eq_revoked_iff, hrevoked]
  simp only [List.mem_map, exists_exists_and_eq_and, X509.Certificate.serial,
    Octets.toNat_eq_iff_dropZeros]

/-- A list in writing is refused if it has no next update, and otherwise decoded to the dates and
entries that were written. -/
theorem ofDer_encode (d : ListDraft) (h : Fits d.encode) :
    (d.nextUpdate = none →
      ofDer d.encode = .error .noNextUpdate ∧ (Failure.ofList .noNextUpdate).kind = .parse) ∧
    ∀ nextUpdate, d.nextUpdate = some nextUpdate →
      ∃ list, ofDer d.encode = .ok list ∧ Follows list d nextUpdate := by
  have hdecoded := ofDer_encode_eq h
  refine ⟨fun hnone => ⟨?_, rfl⟩, fun nextUpdate hsome => ?_⟩
  · rw [hdecoded, ofCertificateList, X509.CertificateList.ofParts, ListDraft.fields, hnone]
    rfl
  · have hrevoked : (d.entries.map EntryDraft.value).map entry =
        d.entries.map fun e => ⟨Octets.toNat e.serial, e.date.timestamp⟩ := by
      rw [List.map_map]
      rfl
    rw [ofCertificateList, X509.CertificateList.ofParts, ListDraft.fields, hsome] at hdecoded
    exact ⟨_, hdecoded, rfl, rfl, hrevoked, lookup_entries hrevoked⟩

/-! ### A sample -/

/-- The algorithm of Ed25519. -/
def edwardsAlgorithm : X509.AlgorithmIdentifier := ⟨Oid.ofArcs [1, 3, 101, 112], none⟩

/-- The name `CN=CA`. -/
def sampleIssuer : X509.Name := ⟨[[⟨Oid.ofArcs [2, 5, 4, 3], Der.primitive 12 [0x43, 0x41]⟩]]⟩

/-- The beginning of 2020. -/
def sampleUpdate : Instant := ⟨1577836800, by decide, by decide⟩

/-- Bits that stand for a signature. -/
def shortSignature : X509.SignatureValue := ⟨edwardsAlgorithm, ⟨4, [1, 2, 0x30]⟩⟩

theorem edwardsAlgorithm_isWritable : edwardsAlgorithm.IsWritable := by
  simp [edwardsAlgorithm, X509.AlgorithmIdentifier.IsWritable]

theorem shortSignature_isWritable : shortSignature.IsWritable :=
  ⟨edwardsAlgorithm_isWritable, by decide, by decide, by simp [shortSignature]⟩

/-- A list with three entries: a serial number with a zero in front, one without octets, and one
with an extension. -/
def sampleDraft : ListDraft where
  algorithm := edwardsAlgorithm
  issuer := sampleIssuer
  thisUpdate := sampleUpdate
  nextUpdate := some ⟨2524608000, by decide, by decide⟩
  entries :=
    [⟨[0, 0x80], ⟨-631152001, by decide, by decide⟩, none⟩,
      ⟨[], sampleUpdate, none⟩,
      ⟨[5], sampleUpdate, some [⟨Oid.ofArcs [2, 5, 29, 21], false, [10, 1, 1]⟩]⟩]
  extensions := some [⟨Oid.ofArcs [2, 5, 29, 20], true, [2, 1, 7]⟩]
  signature := shortSignature
  algorithm_isWritable := edwardsAlgorithm_isWritable
  signature_isWritable := shortSignature_isWritable

theorem ofDer_encode_samples :
    (Fits sampleDraft.encode ∧ ∃ list, ofDer sampleDraft.encode = .ok list ∧
      list.nextUpdate = .utc 2524608000 0 ∧ list.revoked.map RevokedEntry.serial = [128, 0, 5]) ∧
    Fits { sampleDraft with nextUpdate := none }.encode ∧
      ofDer { sampleDraft with nextUpdate := none }.encode = .error .noNextUpdate := by
  have hfits : Fits sampleDraft.encode := by decide +kernel
  have hfits' : Fits { sampleDraft with nextUpdate := none }.encode := by decide +kernel
  obtain ⟨list, hlist, hfollows⟩ := (ofDer_encode sampleDraft hfits).2 _ rfl
  obtain ⟨hrefused, -⟩ := (ofDer_encode { sampleDraft with nextUpdate := none } hfits').1 rfl
  refine ⟨⟨hfits, list, hlist, hfollows.nextUpdate, ?_⟩, hfits', hrefused⟩
  rw [hfollows.revoked]
  decide

end RevocationCheck.RevocationList
