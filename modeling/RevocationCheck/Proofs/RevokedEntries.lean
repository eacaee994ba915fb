import RevocationCheck.Failure
import RevocationCheck.Proofs.Elements
import RevocationCheck.RevocationList

/-!
# No revoked entry is lost

The signed part of a revocation list is a sequence of fields, and the revoked certificates are the
field behind the next update.  `revokedElement?` finds that field by counting elements, without a
look at what the elements hold.

Decoding reads the field as entries, and an entry that does not decode must not end the reading:

* `exists_behindNextUpdate?_of_decode`: decoding a list reads the field that the count finds;
* `readRevoked_cases`: the field is read as a whole or not at all;
* `ofRest_of_sequence`: a field that is not read is no extension, so the list is refused;
* `forall₂_spellsEntry`: an accepted list has one entry for each child of the field.
-/

namespace RevocationCheck

namespace X509

open Der (bind_eq_ok_iff)

/-- An element that spells a revoked certificate: a sequence with a serial number and a date. -/
def Spells (child : Der.Element) (certificate : RevokedCertificate) : Prop :=
  child.tag = Der.tagSequence ∧
    ∃ behindSerial behindDate,
      Der.readSerial child.content = .ok (certificate.serialOctets, behindSerial) ∧
      readTime behindSerial = .ok (certificate.date, behindDate)

theorem orFault_eq_ok_iff {α : Type} {fault : Fault} {result : Except Der.Fault α} {a : α} :
    orFault fault result = .ok a ↔ result = .ok a := by
  cases result with
  | error _ => simp [orFault]
  | ok _ => simp [orFault]

theorem readRevokedCertificate_eq_ok_iff (bs : Octets) (certificate : RevokedCertificate)
    (rest : Octets) :
    RevokedCertificate.read bs = .ok (certificate, rest) ↔
      ∃ element, Der.Element.read bs = .ok (element, rest) ∧ Spells element certificate := by
  simp only [RevokedCertificate.read, bind_eq_ok_iff, Prod.exists, orFault_eq_ok_iff,
    Der.readTagged_eq_ok_iff]
  constructor
  · rintro ⟨_, _, ⟨element, hread, htag, rfl⟩, serial, behindSerial, hserial, date, behindDate,
      hdate, heq⟩
    cases heq
    exact ⟨element, hread, htag, behindSerial, behindDate, hserial, hdate⟩
  · rintro ⟨element, hread, htag, behindSerial, behindDate, hserial, hdate⟩
    exact ⟨_, rest, ⟨element, hread, htag, rfl⟩, _, behindSerial, hserial, _, behindDate, hdate,
      rfl⟩

/-- The entries of a content are what its elements spell. -/
theorem readAll?_entries_iff {content : Octets} {certificates : List RevokedCertificate} :
    Der.readAll? RevokedCertificate.read content = some certificates ↔
      ∃ children, Der.readAll? Der.Element.read content = some children ∧
        List.Forall₂ Spells children certificates := by
  simp only [Der.readAll?_eq_some_iff]
  exact Der.tiled_iff_elements readRevokedCertificate_eq_ok_iff

/-! ### Readers of one element -/

theorem element_of_algorithm {bs rest : Octets} {algorithm : AlgorithmIdentifier}
    (h : AlgorithmIdentifier.read bs = .ok (algorithm, rest)) :
    ∃ element, Der.Element.read bs = .ok (element, rest) ∧ element.tag = Der.tagSequence := by
  unfold AlgorithmIdentifier.read at h
  split at h
  · cases h
  · rename_i content behind htagged
    obtain ⟨element, hread, htag, -⟩ := Der.readTagged_eq_ok_iff.mp htagged
    have hrest : behind = rest := by
      split at h
      · cases h
      · cases h
      · cases h
        rfl
      · split at h
        · cases h
        · cases h
          rfl
    exact ⟨element, hrest ▸ hread, htag⟩

theorem element_of_name {bs rest : Octets} {name : Name}
    (h : Name.read bs = .ok (name, rest)) :
    ∃ element, Der.Element.read bs = .ok (element, rest) := by
  obtain ⟨⟨content, behind⟩, htagged, heq⟩ := bind_eq_ok_iff.mp h
  obtain ⟨element, hread, -, -⟩ := Der.readTagged_eq_ok_iff.mp htagged
  cases heq
  exact ⟨element, hread⟩

theorem element_of_time {bs rest : Octets} {t : Timestamp}
    (h : readTime bs = .ok (t, rest)) :
    ∃ element, Der.Element.read bs = .ok (element, rest) := by
  unfold readTime at h
  split at h
  · cases h
  · rename_i element behind hread
    split at h
    · cases h
    · cases h
      exact ⟨element, hread⟩

theorem element_of_optionalTime {bs rest : Octets} {t : Timestamp}
    (h : readTime? bs = .ok (some t, rest)) :
    ∃ element, Der.Element.read bs = .ok (element, rest) := by
  unfold readTime? at h
  split at h
  · cases h
  · split at h
    · rename_i written behind hwritten
      unfold readTime?.readWritten? at hwritten
      split at hwritten
      · cases hwritten
      · rename_i element final hread
        obtain ⟨_, -, heq⟩ := Option.map_eq_some_iff.mp hwritten
        cases heq
        split at h
        · cases h
        · cases h
          exact ⟨element, hread⟩
    · -- Without a written time in this place, there is no time to give back.
      split at h
      · cases h
      · cases h
      · split at h
        · cases h
        · cases h

namespace CertificateList

theorem skipVersion_cases {bs fields : Octets} (h : skipVersion bs = .ok fields) :
    fields = bs ∨
      ∃ element, Der.Element.read bs = .ok (element, fields) ∧ element.tag = Der.tagInteger := by
  unfold skipVersion at h
  split at h
  · cases h
  · cases h
    exact .inl rfl
  · rename_i header n body hheader
    split at h
    · rename_i htag
      split at h
      · cases h
      · rename_i content rest hcontent
        split at h
        · cases h
          exact .inl rfl
        · cases h
          exact .inr ⟨_, Der.read_eq_ok_iff.mpr ⟨header, n, body, content, hheader, hcontent, rfl⟩,
            htag⟩
    · cases h
      exact .inl rfl

theorem decode_eq_ok_iff {bs : Octets} {list : CertificateList} :
    decode bs = .ok list ↔ ∃ rest, read bs = .ok (list, rest) := by
  unfold decode
  rw [Der.map_eq_ok_iff]
  simp only [Prod.exists, exists_and_right, exists_eq_right]

/-- The field of the revoked certificates is read as a whole or not at all. -/
theorem readRevoked_cases {bs rest : Octets} {element : Der.Element}
    (hread : Der.Element.read bs = .ok (element, rest)) (htag : element.tag = Der.tagSequence) :
    (∃ certificates, Der.readAll? RevokedCertificate.read element.content = some certificates ∧
        readRevoked bs = (certificates, rest)) ∨
      readRevoked bs = ([], bs) := by
  have htagged : Der.readTagged Der.tagSequence bs = .ok (element.content, rest) :=
    Der.readTagged_eq_ok_iff.mpr ⟨element, hread, htag, rfl⟩
  cases hall : Der.readAll? RevokedCertificate.read element.content with
  | none =>
      right
      simp only [readRevoked, htagged, hall]
  | some certificates =>
      left
      exact ⟨certificates, rfl, by simp only [readRevoked, htagged, hall]⟩

/-- A sequence is no extension. -/
theorem ofRest_of_sequence {bs rest : Octets} {element : Der.Element}
    (hread : Der.Element.read bs = .ok (element, rest)) (htag : element.tag = Der.tagSequence)
    (extensions : List Extension) : Extension.ofRest 0 bs ≠ .ok extensions := by
  obtain ⟨header, n, body, content, hheader, -, rfl⟩ := Der.read_eq_ok_iff.mp hread
  have htagHeader : header.tag ≠ 0 := by
    rw [show header.tag = Der.tagSequence from htag]
    decide
  intro h
  unfold Extension.ofRest at h
  split at h
  · -- There is an element, so there are octets.
    rename_i hempty
    rw [List.isEmpty_iff.mp hempty] at hread
    cases hread
  · simp [hheader, htagHeader] at h

end CertificateList

end X509

/-! ### The place of the revoked certificates -/

namespace RevocationList

/-- The element at the beginning of the octets, and the octets behind it. -/
def firstElement? (bs : Octets) : Option (Der.Element × Octets) := (Der.Element.read bs).toOption

/-- The octets behind the next update of a list that has one. -/
def behindNextUpdate? (der : Octets) : Option Octets := do
  let (list, _) ← firstElement? der
  let (signed, _) ← firstElement? list.content
  let (first, behindFirst) ← firstElement? signed.content
  -- The version number may be left out.
  let fields := if first.tag = Der.tagInteger then behindFirst else signed.content
  let (_algorithm, fields) ← firstElement? fields
  let (_issuer, fields) ← firstElement? fields
  let (_thisUpdate, fields) ← firstElement? fields
  let (_nextUpdate, fields) ← firstElement? fields
  some fields

/-- The sequence behind the next update. -/
def revokedElement? (der : Octets) : Option Der.Element := do
  let (element, _) ← firstElement? (← behindNextUpdate? der)
  if element.tag = Der.tagSequence then some element else none

/-- An element that spells an entry: a sequence with a serial number, whose content octets are an
unsigned number, and a date. -/
def SpellsEntry (child : Der.Element) (entry : RevokedEntry) : Prop :=
  ∃ certificate, X509.Spells child certificate ∧ RevocationList.entry certificate = entry

/-- A child spells at most one entry. -/
theorem SpellsEntry.unique {child : Der.Element} {e e' : RevokedEntry} (h : SpellsEntry child e)
    (h' : SpellsEntry child e') : e = e' := by
  obtain ⟨c, ⟨-, behind, rest, hserial, hdate⟩, rfl⟩ := h
  obtain ⟨c', ⟨-, behind', rest', hserial', hdate'⟩, rfl⟩ := h'
  obtain ⟨hoctets, rfl⟩ : c.serialOctets = c'.serialOctets ∧ behind = behind' := by
    simpa [hserial] using hserial'
  have hsame : c.date = c'.date := by
    rw [hdate] at hdate'
    simp only [Except.ok.injEq, Prod.mk.injEq] at hdate'
    exact hdate'.1
  rw [entry, entry, hoctets, hsame]

/-- A child that begins with an element of definite length spells an entry if and only if that
element is an INTEGER and a date follows. -/
theorem spellsEntry_iff_of_read {child first : Der.Element} {behind : Octets}
    (hread : Der.Element.read child.content = .ok (first, behind)) (e : RevokedEntry) :
    SpellsEntry child e ↔
      child.tag = Der.tagSequence ∧ first.tag = Der.tagInteger ∧
        Octets.toNat first.content = e.serial ∧
        ∃ behindDate, X509.readTime behind = .ok (e.date, behindDate) := by
  constructor
  · rintro ⟨c, ⟨htag, _, behindDate, hserial, hdate⟩, rfl⟩
    obtain ⟨hinteger, hoctets, rfl⟩ := (Der.readSerial_of_read hread).mp hserial
    exact ⟨htag, hinteger, congrArg Octets.toNat hoctets, behindDate, hdate⟩
  · rintro ⟨htag, hinteger, hserial, behindDate, hdate⟩
    refine ⟨⟨first.content, e.date⟩, ⟨htag, behind, behindDate, ?_, hdate⟩, ?_⟩
    · exact (Der.readSerial_of_read hread).mpr ⟨hinteger, rfl, rfl⟩
    · rw [entry, hserial]

theorem firstElement?_eq_some_iff {bs rest : Octets} {element : Der.Element} :
    firstElement? bs = some (element, rest) ↔ Der.Element.read bs = .ok (element, rest) := by
  unfold firstElement?
  cases Der.Element.read bs with
  | error fault => simp [Except.toOption]
  | ok parts => simp [Except.toOption]

/-- The version number is skipped as an element, or is not there. -/
theorem fields_of_skipVersion {bs fields rest : Octets} {algorithm : X509.AlgorithmIdentifier}
    (hskip : X509.CertificateList.skipVersion bs = .ok fields)
    (halgorithm : X509.AlgorithmIdentifier.read fields = .ok (algorithm, rest)) :
    ∃ first behindFirst element, Der.Element.read bs = .ok (first, behindFirst) ∧
      (if first.tag = Der.tagInteger then behindFirst else bs) = fields ∧
      Der.Element.read fields = .ok (element, rest) := by
  obtain ⟨element, hread, htag⟩ := X509.element_of_algorithm halgorithm
  rcases X509.CertificateList.skipVersion_cases hskip with rfl | ⟨version, hversion, hinteger⟩
  · -- The algorithm comes first, and its tag is not that of a number.
    have hfirst : element.tag ≠ Der.tagInteger := by
      rw [htag]
      decide
    exact ⟨element, rest, element, hread, if_neg hfirst, hread⟩
  · exact ⟨version, fields, element, hversion, if_pos hinteger, hread⟩

/-- Decoding reads the field that the count of elements finds, and what it does not take as revoked
certificates it takes as extensions. -/
theorem exists_behindNextUpdate?_of_decode {der : Octets} {list : X509.CertificateList}
    {nextUpdate : Timestamp} (h : X509.CertificateList.decode der = .ok list)
    (hnext : list.nextUpdate = some nextUpdate) :
    ∃ fields extensions, behindNextUpdate? der = some fields ∧
      (X509.CertificateList.readRevoked fields).1 = list.revoked ∧
      X509.Extension.ofRest 0 (X509.CertificateList.readRevoked fields).2 = .ok extensions := by
  obtain ⟨rest, hread⟩ := X509.CertificateList.decode_eq_ok_iff.mp h
  simp only [X509.CertificateList.read, Der.bind_eq_ok_iff, Prod.exists, X509.orFault_eq_ok_iff,
    Der.readTagged_eq_ok_iff] at hread
  obtain ⟨_, _, ⟨outer, houter, -, rfl⟩, hread⟩ := hread
  obtain ⟨_, behind, ⟨signed, hsigned, -, rfl⟩, hread⟩ := hread
  obtain ⟨fields, hskip, algorithm, behindAlgorithm, halgorithm, hread⟩ := hread
  obtain ⟨issuer, behindIssuer, hissuer, thisUpdate, behindThis, hthis, hread⟩ := hread
  obtain ⟨next, behindNext, hnextRead, extensions, hextensions, _, _, -, heq⟩ := hread
  cases heq
  obtain rfl : next = some nextUpdate := hnext
  obtain ⟨first, behindFirst, e₁, hfirst, hfields, h₁⟩ := fields_of_skipVersion hskip halgorithm
  obtain ⟨e₂, h₂⟩ := X509.element_of_name hissuer
  obtain ⟨e₃, h₃⟩ := X509.element_of_time hthis
  obtain ⟨e₄, h₄⟩ := X509.element_of_optionalTime hnextRead
  refine ⟨behindNext, extensions, ?_, rfl, hextensions⟩
  rw [← firstElement?_eq_some_iff] at houter hsigned hfirst h₁ h₂ h₃ h₄
  simp [behindNextUpdate?, houter, hsigned, hfirst, hfields, h₁, h₂, h₃, h₄]

theorem revokedElement?_eq_some_iff {der : Octets} {element : Der.Element} :
    revokedElement? der = some element ↔
      ∃ fields rest, behindNextUpdate? der = some fields ∧
        Der.Element.read fields = .ok (element, rest) ∧ element.tag = Der.tagSequence := by
  constructor
  · intro h
    simp only [revokedElement?, Option.bind_eq_bind, Option.bind_eq_some_iff, Prod.exists] at h
    obtain ⟨fields, hfields, first, rest, hfirst, h⟩ := h
    have hread := firstElement?_eq_some_iff.mp hfirst
    split at h
    · rename_i htag
      cases h
      exact ⟨fields, rest, hfields, hread, htag⟩
    · cases h
  · rintro ⟨fields, rest, hfields, hread, htag⟩
    simp [revokedElement?, hfields, firstElement?_eq_some_iff.mpr hread, htag]

/-- A decoded list has what the children of the field spell. -/
theorem entries_of_decode {der : Octets} {list : X509.CertificateList} {nextUpdate : Timestamp}
    {element : Der.Element} (h : X509.CertificateList.decode der = .ok list)
    (hnext : list.nextUpdate = some nextUpdate) (helement : revokedElement? der = some element) :
    Der.readAll? X509.RevokedCertificate.read element.content = some list.revoked := by
  obtain ⟨fields, extensions, hfields, hrevoked, hextensions⟩ :=
    exists_behindNextUpdate?_of_decode h hnext
  obtain ⟨fields', rest, hfields', hread, htag⟩ := revokedElement?_eq_some_iff.mp helement
  obtain rfl : fields = fields' := Option.some.inj (hfields.symm.trans hfields')
  rcases X509.CertificateList.readRevoked_cases hread htag with ⟨certificates, hall, hwhole⟩ | hnone
  · rw [hwhole] at hrevoked
    exact hrevoked ▸ hall
  · -- The field would be left to the extensions.
    rw [hnone] at hextensions
    exact absurd hextensions (X509.CertificateList.ofRest_of_sequence hread htag extensions)

/-- The children of the field and the entries of an accepted list correspond. -/
theorem forall₂_spellsEntry {der : Octets} {list : RevocationList} {element : Der.Element}
    (h : ofDer der = .ok list) (helement : revokedElement? der = some element) :
    ∃ children, Der.readAll? Der.Element.read element.content = some children ∧
      List.Forall₂ SpellsEntry children list.revoked := by
  obtain ⟨decoded, nextUpdate, hdecode, hnext, rfl⟩ := ofDer_eq_ok_iff.mp h
  have hall := entries_of_decode hdecode hnext helement
  obtain ⟨children, hchildren, hspells⟩ := X509.readAll?_entries_iff.mp hall
  refine ⟨children, hchildren, List.forall₂_map_right_iff.mpr ?_⟩
  exact hspells.imp fun child certificate hspell => ⟨certificate, hspell, rfl⟩

theorem exists_entry_of_child {der : Octets} {list : RevocationList} {element child : Der.Element}
    {children : List Der.Element} (h : ofDer der = .ok list)
    (helement : revokedElement? der = some element)
    (hchildren : Der.readAll? Der.Element.read element.content = some children)
    (hmem : child ∈ children) : ∃ entry ∈ list.revoked, SpellsEntry child entry := by
  obtain ⟨children', hchildren', hspells⟩ := forall₂_spellsEntry h helement
  obtain rfl : children = children' := Option.some.inj (hchildren.symm.trans hchildren')
  obtain ⟨i, hi, rfl⟩ := List.mem_iff_getElem.mp hmem
  have hi' : i < list.revoked.length := hspells.length_eq ▸ hi
  exact ⟨list.revoked[i], List.getElem_mem hi', hspells.get hi hi'⟩

/-- A lookup finds what a child of the field revokes. -/
theorem lookup_of_child {der : Octets} {list : RevocationList} {element child : Der.Element}
    {children : List Der.Element} {entry : RevokedEntry} (h : ofDer der = .ok list)
    (helement : revokedElement? der = some element)
    (hchildren : Der.readAll? Der.Element.read element.content = some children)
    (hmem : child ∈ children) (hspell : SpellsEntry child entry) :
    list.lookup entry.serial = .revoked := by
  obtain ⟨listed, hlisted, hspell'⟩ := exists_entry_of_child h helement hchildren hmem
  rw [hspell.unique hspell', lookup_eq_revoked_iff]
  exact ⟨listed, hlisted, rfl⟩

/-- Without a sequence in the place of the revoked certificates, nothing is revoked. -/
theorem revoked_eq_nil {der : Octets} {list : RevocationList} (h : ofDer der = .ok list)
    (hnone : revokedElement? der = none) : list.revoked = [] := by
  obtain ⟨decoded, nextUpdate, hdecode, hnext, rfl⟩ := ofDer_eq_ok_iff.mp h
  obtain ⟨fields, -, hfields, hread, -⟩ := exists_behindNextUpdate?_of_decode hdecode hnext
  have hnil : (X509.CertificateList.readRevoked fields).1 = [] := by
    unfold X509.CertificateList.readRevoked
    split
    · rfl
    · rename_i content rest htagged
      obtain ⟨element, helement, htag, -⟩ := Der.readTagged_eq_ok_iff.mp htagged
      have hsome := revokedElement?_eq_some_iff.mpr ⟨fields, rest, hfields, helement, htag⟩
      rw [hnone] at hsome
      cases hsome
  have hempty : decoded.revoked = [] := hread.symm.trans hnil
  simp [hempty]

/-- A short element with the identifier octet `id`. -/
def shortElement (id : UInt8) (content : Octets) : Octets :=
  id :: UInt8.ofNat content.length :: content

/-- The first of January 2024. -/
def sampleDate : Octets :=
  shortElement 0x17 [50, 52, 48, 49, 48, 49, 48, 48, 48, 48, 48, 48, 90]

/-- An entry with a given serial number. -/
def sampleEntry (serialOctets : Octets) : Octets :=
  shortElement 0x30 (shortElement 0x02 serialOctets ++ sampleDate)

/-- A list with a given content of its revoked certificates. -/
def sampleList (content : Octets) : Octets :=
  let algorithm := shortElement 0x30 [6, 1, 42]
  let signed := algorithm ++ shortElement 0x30 [] ++ sampleDate ++ sampleDate ++
    shortElement 0x30 content
  shortElement 0x30 (shortElement 0x30 signed ++ algorithm ++ shortElement 0x03 [0])

/-- No revoked entry is lost.  Let a list have a sequence in the place of the revoked certificates.
If the list is accepted, then it has one entry for each child of the sequence, in the same order,
with the serial number and the date that the child spells.  If the sequence does not consist of
children that all spell entries, then the list is refused. -/
theorem revoked_entries_complete {der : Octets} {element : Der.Element}
    (helement : revokedElement? der = some element) :
    (∀ list, ofDer der = .ok list →
      ∃ children, Der.readAll? Der.Element.read element.content = some children ∧
        List.Forall₂ SpellsEntry children list.revoked) ∧
    ((∀ children, Der.readAll? Der.Element.read element.content = some children →
        ∃ child ∈ children, ∀ entry, ¬ SpellsEntry child entry) →
      ∃ fault, ofDer der = .error fault ∧ (Failure.ofList fault).kind = .parse) := by
  refine ⟨fun list h => forall₂_spellsEntry h helement, fun hbad => ?_⟩
  cases h : ofDer der with
  | error fault => exact ⟨fault, rfl, rfl⟩
  | ok list =>
      obtain ⟨children, hchildren, -⟩ := forall₂_spellsEntry h helement
      obtain ⟨child, hmem, hnone⟩ := hbad children hchildren
      obtain ⟨entry, -, hspell⟩ := exists_entry_of_child h helement hchildren hmem
      exact absurd hspell (hnone entry)

/-- Two good entries are kept, and a list whose second entry has no date is refused. -/
theorem revoked_entries_of_samples :
    (∃ list children, ofDer (sampleList (sampleEntry [5] ++ sampleEntry [1, 0])) = .ok list ∧
      Der.readAll? Der.Element.read (sampleEntry [5] ++ sampleEntry [1, 0]) = some children ∧
      List.Forall₂ SpellsEntry children list.revoked ∧
      list.revoked.map RevokedEntry.serial = [5, 256]) ∧
    ∃ fault, ofDer (sampleList (sampleEntry [5] ++ shortElement 0x30 [2, 1, 7])) = .error fault ∧
      (Failure.ofList fault).kind = .parse := by
  constructor
  · have hplace : revokedElement? (sampleList (sampleEntry [5] ++ sampleEntry [1, 0])) =
        some ⟨.universal, true, 16, sampleEntry [5] ++ sampleEntry [1, 0]⟩ := by cbv
    have hlist : ofDer (sampleList (sampleEntry [5] ++ sampleEntry [1, 0])) =
        .ok ⟨sampleList (sampleEntry [5] ++ sampleEntry [1, 0]), "", ⟨1704067200, 0, 0⟩,
          ⟨1704067200, 0, 0⟩, [⟨5, ⟨1704067200, 0, 0⟩⟩, ⟨256, ⟨1704067200, 0, 0⟩⟩]⟩ := by cbv
    obtain ⟨children, hchildren, hspells⟩ := (revoked_entries_complete hplace).1 _ hlist
    exact ⟨_, children, hlist, hchildren, hspells, rfl⟩
  · have hplace : revokedElement?
        (sampleList (sampleEntry [5] ++ shortElement 0x30 [2, 1, 7])) =
        some ⟨.universal, true, 16, sampleEntry [5] ++ shortElement 0x30 [2, 1, 7]⟩ := by cbv
    have hchildren : Der.readAll? Der.Element.read
        (sampleEntry [5] ++ shortElement 0x30 [2, 1, 7]) =
        some [⟨.universal, true, 16, shortElement 0x02 [5] ++ sampleDate⟩,
          ⟨.universal, true, 16, [2, 1, 7]⟩] := by cbv
    refine (revoked_entries_complete hplace).2 fun children h => ?_
    obtain rfl := Option.some.inj (hchildren.symm.trans h)
    refine ⟨⟨.universal, true, 16, [2, 1, 7]⟩, by simp, fun e hspell => ?_⟩
    have hfirst : Der.Element.read [2, 1, 7] = .ok (⟨.universal, false, 2, [7]⟩, []) := by cbv
    obtain ⟨-, -, -, behindDate, hdate⟩ := (spellsEntry_iff_of_read hfirst e).mp hspell
    cases hdate

end RevocationList

end RevocationCheck
