import RevocationCheck.Proofs.ListParts
import RevocationCheck.Proofs.WrittenTimes

/-!
# Revocation lists in writing

The distinguished encoding of a list of version 2, from any issuer, algorithm, dates, entries and
extensions (`ListDraft`), and what the decoder makes of it.  The optional parts in the middle are
told apart by their tags: what is left out is not taken for what follows.

* `readTime?_tail` and `readRevoked_tail`: a part that is left out is not read, whatever follows;
* `decode_fields`: the signed part is decoded as it was drafted;
* `decode_encode`: so is the list.
-/

namespace RevocationCheck.X509

open Der (Element Takes constructed primitive encodeOption bind_eq_ok_iff)
open Octets (Fits)

/-! ### Names -/

/-- The tag number of object identifiers. -/
def tagObjectIdentifier : Nat := 6

/-- The element of an identifier. -/
def oidElement (oid : Oid) : Element := primitive tagObjectIdentifier oid.octets

/-- The element of an attribute. -/
def Attribute.element (a : Attribute) : Element :=
  constructed Der.tagSequence ((oidElement a.type).encode ++ a.value.encode)

/-- The element of a relative name. -/
def relativeNameElement (attributes : List Attribute) : Element :=
  constructed Der.tagSet (attributes.flatMap fun a => a.element.encode)

/-- The element of a name. -/
def Name.element (name : Name) : Element :=
  constructed Der.tagSequence (name.relativeNames.flatMap fun r => (relativeNameElement r).encode)

/-- No relative name is without attributes, and the values have tags that the reader knows. -/
def Name.IsWritable (name : Name) : Prop :=
  ∀ r ∈ name.relativeNames, r ≠ [] ∧ ∀ a ∈ r, a.value.tag < 2 ^ 32

/-- What is read where the name has been written. -/
def Name.reread (name : Name) : Name :=
  ⟨(Der.readMany readRelativeName name.element.content).1⟩

theorem takes_oidElement {oid : Oid} (h : Fits (oidElement oid).encode) :
    Takes readOid (oidElement oid).encode oid := by
  intro rest
  simp only [readOid, oidElement, Der.takes_primitive _ (by decide) h rest]
  rfl

theorem Attribute.takes_element {a : Attribute} (htag : a.value.tag < 2 ^ 32)
    (h : Fits a.element.encode) : Takes Attribute.read a.element.encode a := by
  intro rest
  have hcontent := Der.fits_content h
  have hvalue : Element.read a.value.encode = .ok (a.value, []) :=
    Takes.alone (Der.takes_encode htag (Der.fits_content hcontent.right))
  simp only [Attribute.read, Attribute.element, bind_eq_ok_iff, Prod.exists, Except.ok.injEq,
    Prod.mk.injEq]
  exact ⟨_, rest, Der.takes_constructed _ (by decide) h rest, a.type, _,
    takes_oidElement hcontent.left _, a.value, [], hvalue, rfl, rfl⟩

theorem takes_relativeNameElement {r : List Attribute} (hne : r ≠ [])
    (htags : ∀ a ∈ r, a.value.tag < 2 ^ 32) (h : Fits (relativeNameElement r).encode) :
    Takes readRelativeName (relativeNameElement r).encode r := by
  intro rest
  have htiled : Der.Tiled Attribute.read (r.flatMap fun a => a.element.encode)
      (r.map fun a => a) :=
    Der.tiled_flatMap
      (fun a ha => Attribute.takes_element (htags a ha) ((Der.fits_content h).mem_flatMap ha))
      (fun a _ => Der.encode_ne_nil a.element)
  simp only [readRelativeName, relativeNameElement, bind_eq_ok_iff, Prod.exists]
  refine ⟨_, rest, Der.takes_constructed _ (by decide) h rest, ?_⟩
  rw [Der.readMany_of_tiled htiled, List.map_id']
  cases r with
  | nil => exact absurd rfl hne
  | cons a r => rfl

theorem Name.read_element {name : Name} (h : Fits name.element.encode) (rest : Octets) :
    Name.read (name.element.encode ++ rest) = .ok (name.reread, rest) := by
  simp only [Name.read, bind_eq_ok_iff, Prod.exists]
  exact ⟨_, rest, Der.takes_constructed _ (by decide) h rest, rfl⟩

/-- A name is read as it was written. -/
theorem Name.reread_eq {name : Name} (hwritable : name.IsWritable)
    (h : Fits name.element.encode) : name.reread = name := by
  have htiled : Der.Tiled readRelativeName name.element.content
      (name.relativeNames.map fun r => r) :=
    Der.tiled_flatMap
      (fun r hr => takes_relativeNameElement (hwritable r hr).1 (hwritable r hr).2
        ((Der.fits_content h).mem_flatMap hr))
      (fun r _ => Der.encode_ne_nil (relativeNameElement r))
  rw [Name.reread, Der.readMany_of_tiled htiled, List.map_id']

/-! ### Algorithms and signatures -/

/-- The element of an algorithm identifier. -/
def AlgorithmIdentifier.element (a : AlgorithmIdentifier) : Element :=
  constructed Der.tagSequence ((oidElement a.algorithm).encode ++ encodeOption a.parameters)

/-- The parameters have a tag that the reader knows. -/
def AlgorithmIdentifier.IsWritable (a : AlgorithmIdentifier) : Prop :=
  ∀ p ∈ a.parameters, p.tag < 2 ^ 32

/-- The element of a bit string. -/
def bitsElement (bits : Der.BitString) : Element :=
  primitive Der.tagBitString (UInt8.ofNat bits.unused :: bits.octets)

/-- The unused bits are fewer than eight, belong to the last octet, and are zero. -/
def HasZeroPadding (bits : Der.BitString) : Prop :=
  bits.unused ≤ 7 ∧ (bits.octets = [] → bits.unused = 0) ∧
    ∀ last ∈ bits.octets.getLast?, last.toNat % 2 ^ bits.unused = 0

/-- The octets of a signature: its algorithm, and its bits. -/
def SignatureValue.encode (s : SignatureValue) : Octets :=
  s.algorithm.element.encode ++ (bitsElement s.bits).encode

/-- Algorithm and bits can be written. -/
structure SignatureValue.IsWritable (s : SignatureValue) : Prop where
  algorithm : s.algorithm.IsWritable
  bits : HasZeroPadding s.bits

theorem AlgorithmIdentifier.takes_element {a : AlgorithmIdentifier} (hwritable : a.IsWritable)
    (h : Fits a.element.encode) : Takes AlgorithmIdentifier.read a.element.encode a := by
  intro rest
  have hcontent := Der.fits_content h
  have hread := Der.takes_constructed _ (by decide) h rest
  have hoid := takes_oidElement hcontent.left (encodeOption a.parameters)
  obtain ⟨algorithm, parameters⟩ := a
  cases parameters with
  | none =>
      simp only [encodeOption] at hread hoid
      simp only [AlgorithmIdentifier.read, AlgorithmIdentifier.element, encodeOption, hread, hoid]
  | some p =>
      have hp : Element.read p.encode = .ok (p, []) :=
        Takes.alone (Der.takes_encode (hwritable p rfl) (Der.fits_content hcontent.right))
      -- Parameters are read only where something is left.
      obtain ⟨first, others, hcons⟩ := List.exists_cons_of_ne_nil (Der.encode_ne_nil p)
      simp only [encodeOption, hcons] at hread hoid hp
      simp only [AlgorithmIdentifier.read, AlgorithmIdentifier.element, encodeOption, hcons, hread,
        hoid, hp]

theorem le_trailingZeros {b : UInt8} {n : Nat} (hn : n ≤ 7) (h : b.toNat % 2 ^ n = 0) :
    n ≤ Der.trailingZeros b := by
  unfold Der.trailingZeros
  have hcases : n = 0 ∨ n = 1 ∨ n = 2 ∨ n = 3 ∨ n = 4 ∨ n = 5 ∨ n = 6 ∨ n = 7 := by omega
  rcases hcases with rfl | rfl | rfl | rfl | rfl | rfl | rfl | rfl <;> norm_num at h <;>
    split_ifs <;> omega

theorem ofContent?_bitsElement {bits : Der.BitString} (hpadding : HasZeroPadding bits) :
    Der.BitString.ofContent? (bitsElement bits).content = some bits := by
  obtain ⟨unused, octets⟩ := bits
  obtain ⟨hunused, hempty, hzero⟩ := hpadding
  have hoctet : (UInt8.ofNat unused).toNat = unused := by
    rw [UInt8.toNat_ofNat']
    have : unused ≤ 7 := hunused
    omega
  simp only [bitsElement, primitive, Der.BitString.ofContent?, hoctet]
  cases hlast : octets.getLast? with
  | none =>
      have hnil : octets = [] := List.getLast?_eq_none_iff.mp hlast
      subst hnil
      have hnone : unused = 0 := hempty rfl
      simp [hnone]
  | some last =>
      have hle := le_trailingZeros hunused (hzero last hlast)
      simp [hle]

theorem SignatureValue.takes_encode {s : SignatureValue} (hwritable : s.IsWritable)
    (h : Fits s.encode) : Takes SignatureValue.read s.encode s := by
  intro rest
  have halgorithm := AlgorithmIdentifier.takes_element hwritable.algorithm h.left
    ((bitsElement s.bits).encode ++ rest)
  have hbits : Der.BitString.read ((bitsElement s.bits).encode ++ rest) = .ok (s.bits, rest) := by
    simp only [Der.BitString.read, bind_eq_ok_iff, Prod.exists]
    refine ⟨bitsElement s.bits, rest, Der.takes_primitive _ (by decide) h.right rest, ?_⟩
    rw [if_pos ⟨rfl, rfl⟩, ofContent?_bitsElement hwritable.bits]
  rw [SignatureValue.encode, List.append_assoc]
  simp only [SignatureValue.read, bind_eq_ok_iff, Prod.exists, orFault_eq_ok_iff]
  exact ⟨_, _, halgorithm, _, rest, hbits, rfl⟩

/-! ### Extensions -/

/-- The element of an extension; the truth value is left out where it is false. -/
def Extension.element (e : Extension) : Element :=
  constructed Der.tagSequence
    ((oidElement e.type).encode ++
      (encodeOption (if e.critical then some (primitive Der.tagBoolean [255]) else none) ++
        (primitive Der.tagOctetString e.value).encode))

/-- The element of a sequence of extensions. -/
def extensionsElement (extensions : List Extension) : Element :=
  constructed Der.tagSequence (extensions.flatMap fun e => e.element.encode)

/-- The extensions of a list, under an explicit tag 0. -/
def explicitElement (extensions : List Extension) : Element :=
  ⟨.contextSpecific, true, 0, (extensionsElement extensions).encode⟩

theorem readCritical_written {critical : Bool} {value : Octets}
    (h : Fits (encodeOption (if critical then some (primitive Der.tagBoolean [255]) else none) ++
      (primitive Der.tagOctetString value).encode)) :
    Extension.readCritical
      (encodeOption (if critical then some (primitive Der.tagBoolean [255]) else none) ++
        (primitive Der.tagOctetString value).encode) =
      (critical, (primitive Der.tagOctetString value).encode) := by
  cases critical with
  | true =>
      have hread := Der.takes_primitive Der.tagBoolean (by decide) h.left
        (primitive Der.tagOctetString value).encode
      simp only [Extension.readCritical, if_true, encodeOption, hread]
      rfl
  | false =>
      -- Without a truth value, the octet string stands in its place.
      have hread := (Der.takes_primitive Der.tagOctetString (by decide) h.right).alone
      simp only [Extension.readCritical, Bool.false_eq_true, if_false, encodeOption,
        List.nil_append, hread]
      rfl

theorem Extension.takes_element {e : Extension} (h : Fits e.element.encode) :
    Takes Extension.read e.element.encode e := by
  intro rest
  have hcontent := Der.fits_content h
  have hvalue := (Der.takes_primitive Der.tagOctetString (by decide) hcontent.right.right).alone
  simp only [Extension.read, bind_eq_ok_iff, Prod.exists]
  refine ⟨_, rest, Der.takes_constructed _ (by decide) h rest, e.type, _,
    takes_oidElement hcontent.left _, ?_⟩
  rw [readCritical_written hcontent.right]
  refine ⟨_, [], hvalue, ?_⟩
  rw [if_pos ⟨rfl, rfl⟩]
  rfl

theorem readSequence_extensionsElement {extensions : List Extension}
    (h : Fits (extensionsElement extensions).encode) :
    Extension.readSequence (extensionsElement extensions).encode = .ok (extensions, []) := by
  have htiled : Der.Tiled Extension.read (extensions.flatMap fun e => e.element.encode)
      (extensions.map fun e => e) :=
    Der.tiled_flatMap
      (fun e he => Extension.takes_element ((Der.fits_content h).mem_flatMap he))
      (fun e _ => Der.encode_ne_nil e.element)
  rw [List.map_id'] at htiled
  have hread := (Der.takes_constructed Der.tagSequence (by decide) h).alone
  simp only [Extension.readSequence, bind_eq_ok_iff, Prod.exists]
  refine ⟨_, [], hread, ?_⟩
  rw [Der.readAll?_eq_some_iff.mpr htiled]

theorem ofRest_explicitElement {extensions : List Extension}
    (h : Fits (explicitElement extensions).encode) :
    Extension.ofRest 0 (explicitElement extensions).encode = .ok extensions := by
  have hne := Der.isEmpty_encode_append (explicitElement extensions) []
  have hheader := Der.readDefinite_encode (show 0 < 2 ^ 32 by decide) h []
  rw [List.append_nil] at hne hheader
  rw [List.append_nil] at hheader
  have hsequence : Extension.readSequence (explicitElement extensions).content =
      .ok (extensions, []) := readSequence_extensionsElement (Der.fits_content h)
  simp only [Extension.ofRest, hne, hheader, hsequence]
  rfl

/-! ### Entries -/

/-- An entry to be written: any octets as the serial number, a date, and extensions that may be
left out. -/
structure EntryDraft where
  serial : Octets
  date : Instant
  extensions : Option (List Extension)
deriving Repr, DecidableEq

namespace EntryDraft

/-- The element of an entry. -/
def element (e : EntryDraft) : Element :=
  constructed Der.tagSequence
    ((primitive Der.tagInteger e.serial).encode ++
      (e.date.element.encode ++ encodeOption (e.extensions.map extensionsElement)))

/-- The entry as it is decoded. -/
def value (e : EntryDraft) : RevokedCertificate := ⟨e.serial, e.date.timestamp⟩

theorem takes_element {e : EntryDraft} (h : Fits e.element.encode) :
    Takes RevokedCertificate.read e.element.encode e.value := by
  intro rest
  have hcontent := Der.fits_content h
  simp only [RevokedCertificate.read, bind_eq_ok_iff, Prod.exists, orFault_eq_ok_iff]
  exact ⟨_, rest, Der.takes_constructed _ (by decide) h rest, e.serial, _,
    Der.readSerial_encode hcontent.left, e.date.timestamp, _, readTime_encode e.date _, rfl⟩

/-- The last second of 1949 is written with four digits of the year. -/
example : (element ⟨[0, 0x80], ⟨-631152001, by decide, by decide⟩, none⟩).encode =
    [0x30, 21, 2, 2, 0, 0x80,
      24, 15, 49, 57, 52, 57, 49, 50, 51, 49, 50, 51, 53, 57, 53, 57, 90] := by
  decide +kernel

end EntryDraft

/-! ### Lists -/

/-- A list of version 2 to be written. -/
structure ListDraft where
  algorithm : AlgorithmIdentifier
  issuer : Name
  thisUpdate : Instant
  nextUpdate : Option Instant
  entries : List EntryDraft
  extensions : Option (List Extension)
  signature : SignatureValue
  algorithm_isWritable : algorithm.IsWritable
  signature_isWritable : signature.IsWritable

namespace ListDraft

variable (d : ListDraft)

/-- The version number of version 2. -/
def versionElement : Element := primitive Der.tagInteger [1]

/-- The sequence of entries, which is left out when there are none. -/
def entriesElement : Option Element :=
  if d.entries = [] then none
  else some (constructed Der.tagSequence (d.entries.flatMap fun e => e.element.encode))

/-- The extensions, which may be left out. -/
def extensionsOption : Option Element := d.extensions.map explicitElement

/-- What stands behind the dates. -/
def tail : Octets := encodeOption d.entriesElement ++ encodeOption d.extensionsOption

/-- The part of the list that is signed. -/
def signedElement : Element :=
  constructed Der.tagSequence
    (versionElement.encode ++ (d.algorithm.element.encode ++ (d.issuer.element.encode ++
      (d.thisUpdate.element.encode ++
        (encodeOption (d.nextUpdate.map Instant.element) ++ d.tail)))))

/-- The encoding of the list. -/
def encode : Octets :=
  (constructed Der.tagSequence (d.signedElement.encode ++ d.signature.encode)).encode

/-- The fields as they are decoded. -/
def fields : CertificateList.Fields :=
  ⟨d.issuer.reread, d.thisUpdate.timestamp, d.nextUpdate.map Instant.timestamp,
    d.entries.map EntryDraft.value, d.extensions.getD []⟩

theorem skipVersion_written (rest : Octets) :
    CertificateList.skipVersion (versionElement.encode ++ rest) = .ok rest := by
  have hfits : Fits versionElement.encode := by decide
  have hheader := Der.readDefinite_encode (e := versionElement) (by decide) hfits rest
  have hcontent := Der.readContent_append versionElement.content rest
  simp only [CertificateList.skipVersion, hheader, hcontent]
  rfl

variable {d}

/-- What stands behind the dates is nothing, or begins with an element that is no time. -/
theorem tail_cases (h : Fits d.tail) :
    d.tail = [] ∨ ∃ (e : Element) (rest : Octets), d.tail = e.encode ++ rest ∧ Fits e.encode ∧
      (e.tag = Der.tagSequence ∨ e.tag = 0) := by
  unfold tail at h ⊢
  cases hentries : d.entriesElement with
  | some e =>
      rw [hentries] at h
      refine .inr ⟨e, encodeOption d.extensionsOption, rfl, h.left, .inl ?_⟩
      unfold entriesElement at hentries
      split at hentries
      · cases hentries
      · cases hentries
        rfl
  | none =>
      rw [hentries] at h
      cases hextensions : d.extensionsOption with
      | none => exact .inl rfl
      | some e =>
          rw [hextensions] at h
          refine .inr ⟨e, [], by simp [encodeOption], h.right, .inr ?_⟩
          obtain ⟨extensions, -, rfl⟩ := Option.map_eq_some_iff.mp hextensions
          rfl

/-- A next update that is left out is not read from what follows. -/
theorem readTime?_tail (h : Fits d.tail) :
    readTime? (encodeOption (d.nextUpdate.map Instant.element) ++ d.tail) =
      .ok (d.nextUpdate.map Instant.timestamp, d.tail) := by
  cases d.nextUpdate with
  | some i => exact readTime?_encode i d.tail
  | none =>
      simp only [Option.map_none, encodeOption, List.nil_append]
      rcases tail_cases h with hnil | ⟨e, rest, htail, hfits, htag⟩
      · rw [hnil]
        rfl
      · rw [htail]
        refine readTime?_encode_other ?_ hfits ?_ ?_ rest <;> rcases htag with htag | htag <;>
          rw [htag] <;> decide

/-- Neither are entries that are left out. -/
theorem readRevoked_tail (h : Fits d.tail) :
    CertificateList.readRevoked d.tail =
      (d.entries.map EntryDraft.value, encodeOption d.extensionsOption) := by
  unfold tail entriesElement at h ⊢
  split at h
  · -- What comes first then is the extensions, whose tag is not that of a sequence.
    rename_i hnone
    simp only [hnone, if_true, encodeOption, List.nil_append, List.map_nil] at h ⊢
    cases hextensions : d.extensionsOption with
    | none => rfl
    | some e =>
        obtain ⟨extensions, -, rfl⟩ := Option.map_eq_some_iff.mp hextensions
        rw [hextensions] at h
        have hread := Der.readTagged_encode_ne (show 0 < 2 ^ 32 by decide) h []
          (show 0 ≠ Der.tagSequence by decide)
        rw [List.append_nil] at hread
        simp only [CertificateList.readRevoked, hread]
  · rename_i hsome
    have htiled : Der.Tiled RevokedCertificate.read
        (d.entries.flatMap fun e => e.element.encode) (d.entries.map EntryDraft.value) :=
      Der.tiled_flatMap
        (fun e he => EntryDraft.takes_element ((Der.fits_content h.left).mem_flatMap he))
        (fun e _ => Der.encode_ne_nil e.element)
    have hread := Der.takes_constructed _ (by decide) h.left
      (encodeOption d.extensionsOption)
    simp only [if_neg hsome, encodeOption] at hread ⊢
    simp only [CertificateList.readRevoked, hread, Der.readAll?_eq_some_iff.mpr htiled]

/-- The signed part is decoded as it was drafted. -/
theorem decode_fields (h : Fits d.signedElement.encode) :
    CertificateList.Fields.decode d.signedElement.content = .ok d.fields := by
  -- Each part is small enough because the whole is.
  have hcontent := Der.fits_content h
  have halgorithm := hcontent.right.left
  have hissuer := hcontent.right.right.left
  have htail := hcontent.right.right.right.right.right
  simp only [CertificateList.Fields.decode, bind_eq_ok_iff, Prod.exists, orFault_eq_ok_iff]
  refine ⟨_, skipVersion_written _, d.algorithm, _,
    AlgorithmIdentifier.takes_element d.algorithm_isWritable halgorithm _, d.issuer.reread, _,
    Name.read_element hissuer _, d.thisUpdate.timestamp, _, readTime_encode _ _, _, _,
    readTime?_tail htail, ?_⟩
  have hextensions : Extension.ofRest 0 (encodeOption d.extensionsOption) =
      .ok (d.extensions.getD []) := by
    have hfits := htail.right
    unfold extensionsOption at hfits ⊢
    cases hsome : d.extensions with
    | none => rfl
    | some extensions =>
        rw [hsome] at hfits
        exact ofRest_explicitElement hfits
  rw [readRevoked_tail htail]
  exact ⟨_, hextensions, rfl⟩

/-- A list is decoded as it was drafted. -/
theorem decode_encode (h : Fits d.encode) :
    CertificateList.decode d.encode =
      .ok (CertificateList.ofParts d.signedElement.encode d.fields d.signature) := by
  have hcontent := Der.fits_content h
  have houter : Element.read d.encode = .ok (constructed Der.tagSequence
      (d.signedElement.encode ++ d.signature.encode), []) := by
    have hread := Der.takes_encode (e := constructed Der.tagSequence
      (d.signedElement.encode ++ d.signature.encode)) (show Der.tagSequence < 2 ^ 32 by decide)
      hcontent
    exact hread.alone
  have hpart : Element.read (d.signedElement.encode ++ d.signature.encode) =
      .ok (d.signedElement, d.signature.encode) :=
    Der.read_encode (show Der.tagSequence < 2 ^ 32 by decide) hcontent.left _
  have hsignature : SignatureValue.read d.signature.encode = .ok (d.signature, []) :=
    Takes.alone (SignatureValue.takes_encode d.signature_isWritable hcontent.right)
  refine CertificateList.decode_eq_ok_iff.mpr ⟨[], CertificateList.read_eq_ok_iff.mpr
    ⟨_, d.signedElement, d.signature.encode, d.fields, d.signature, [], houter, rfl, hpart, rfl,
      decode_fields hcontent.left, hsignature, ?_⟩⟩
  simp [constructed]

end ListDraft

end RevocationCheck.X509
