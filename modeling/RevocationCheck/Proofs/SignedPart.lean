import RevocationCheck.Proofs.ListParts
import RevocationCheck.RevocationList.Validation

/-!
# What is signed is what is used

A list is decoded twice: once for what it says, and once more, from the stored octets, for the check
of its signature.  The octets that are handed to the signature scheme are the signed part of the
list (`HasSignedPart`), and the two readings agree on it:

* `fields_of_signed`: what a list says is read from its signed part and nothing else;
* `ofDer_append`: octets behind a list change nothing but what is stored;
* `verifySignature_congr`: the check of a signature depends on the second reading alone.
-/

namespace RevocationCheck.RevocationList

/-- The signed part of a list: the octets of the first element inside the first element. -/
def HasSignedPart (der signed : Octets) : Prop :=
  ∃ outer rest part behind, Der.Element.read der = .ok (outer, rest) ∧
    outer.content = signed ++ behind ∧ Der.Element.read signed = .ok (part, [])

theorem takes_of_read_eq_nil {signed : Octets} {part : Der.Element}
    (h : Der.Element.read signed = .ok (part, [])) : Der.Takes Der.Element.read signed part := by
  obtain ⟨front, hfront, htakes⟩ := Der.isLocal_elementRead _ _ _ h
  rw [List.append_nil] at hfront
  exact hfront ▸ htakes

/-- Octets have one signed part at most. -/
theorem HasSignedPart.unique {der signed signed' : Octets} (h : HasSignedPart der signed)
    (h' : HasSignedPart der signed') : signed = signed' := by
  obtain ⟨outer, rest, part, behind, houter, hcontent, hpart⟩ := h
  obtain ⟨outer', rest', part', behind', houter', hcontent', hpart'⟩ := h'
  obtain ⟨rfl, rfl⟩ : outer = outer' ∧ rest = rest' := by
    simpa [houter] using houter'
  exact ((takes_of_read_eq_nil hpart).unique (takes_of_read_eq_nil hpart')
    (hcontent.symm.trans hcontent')).1

/-- A decoded list says what the element in its signed part says, and this part is the one of the
octets that it was decoded from. -/
theorem fields_of_signed {der : Octets} {list : X509.CertificateList}
    (h : X509.CertificateList.decode der = .ok list) :
    HasSignedPart der list.signed ∧
      ∃ part fields, Der.Element.read list.signed = .ok (part, []) ∧
        X509.CertificateList.Fields.decode part.content = .ok fields ∧
        list = .ofParts list.signed fields list.signature := by
  obtain ⟨rest, hread⟩ := X509.CertificateList.decode_eq_ok_iff.mp h
  obtain ⟨outer, part, behind, fields, signature, _, houter, -, hpart, -, hfields, -, rfl⟩ :=
    X509.CertificateList.read_eq_ok_iff.mp hread
  obtain ⟨front, hcontent, htakes⟩ := Der.isLocal_elementRead _ _ _ hpart
  have hsigned : outer.content.take (outer.content.length - behind.length) = front := by
    rw [hcontent]
    simp
  rw [hsigned]
  exact ⟨⟨outer, rest, part, behind, houter, hcontent, htakes.alone⟩, part, fields, htakes.alone,
    hfields, rfl⟩

/-- Lists with the same signed part say the same. -/
theorem fields_eq_of_signed_eq {der der' : Octets} {list list' : X509.CertificateList}
    (h : X509.CertificateList.decode der = .ok list)
    (h' : X509.CertificateList.decode der' = .ok list') (hsigned : list.signed = list'.signed) :
    list' = { list with signature := list'.signature } := by
  obtain ⟨-, part, fields, hpart, hfields, hlist⟩ := fields_of_signed h
  obtain ⟨-, part', fields', hpart', hfields', hlist'⟩ := fields_of_signed h'
  obtain rfl : part = part' := by
    rw [← hsigned, hpart, Except.ok.injEq, Prod.mk.injEq] at hpart'
    exact hpart'.1
  obtain rfl : fields = fields' := Except.ok.inj (hfields.symm.trans hfields')
  rw [hlist, hlist', hsigned]
  rfl

theorem verifySignature_congr {list list' : RevocationList} (h : list.reread = list'.reread)
    (issuer : X509.Certificate) : list.verifySignature issuer = list'.verifySignature issuer := by
  rw [verifySignature, verifySignature, h]

/-- Octets behind a list are stored with it and change nothing else. -/
theorem ofDer_append {der : Octets} {list : RevocationList} (h : ofDer der = .ok list)
    (t : Octets) : ofDer (der ++ t) = .ok { list with encoded := der ++ t } := by
  obtain ⟨decoded, nextUpdate, hdecode, hnext, rfl⟩ := ofDer_eq_ok_iff.mp h
  exact ofDer_eq_ok_iff.mpr ⟨decoded, nextUpdate,
    X509.CertificateList.decode_append hdecode t, hnext, rfl⟩

/-- The second reading of an accepted list gives what the first one gave. -/
theorem reread_of_ofDer {der : Octets} {list : RevocationList} (h : ofDer der = .ok list) :
    ∃ inner, list.reread = .ok inner ∧ X509.CertificateList.decode der = .ok inner ∧
      ofCertificateList der inner = .ok list := by
  obtain ⟨inner, nextUpdate, hdecode, hnext, rfl⟩ := ofDer_eq_ok_iff.mp h
  exact ⟨inner, hdecode, hdecode, by simp only [ofCertificateList, hnext]⟩

/-- The octets that are handed to the signature scheme are the signed part of the list. -/
theorem hasSignedPart_iff_of_decode {der signed : Octets} {inner : X509.CertificateList}
    (h : X509.CertificateList.decode der = .ok inner) :
    HasSignedPart der signed ↔ signed = inner.signed := by
  have hsigned := (fields_of_signed h).1
  constructor
  · intro hother
    exact hother.unique hsigned
  · rintro rfl
    exact hsigned

/-- What is signed is what is used.  An accepted list is decoded once more for the check of its
signature, and what is handed to the signature scheme is its signed part.  If two accepted octet
strings have the same signed part, they give the same issuer, dates and entries, whatever the
signatures are and whatever follows.  And any octets may follow an accepted list: it is accepted
with the same issuer, dates and entries, and the check of its signature has the same result for
every certificate. -/
theorem signed_part_determines_list {der der' : Octets} {list list' : RevocationList}
    (h : ofDer der = .ok list) (h' : ofDer der' = .ok list') :
    (∃ inner, list.reread = .ok inner ∧
      ∀ signed, HasSignedPart der signed ↔ signed = inner.signed) ∧
    (∀ signed, HasSignedPart der signed → HasSignedPart der' signed →
      list.issuer = list'.issuer ∧ list.thisUpdate = list'.thisUpdate ∧
        list.nextUpdate = list'.nextUpdate ∧ list.revoked = list'.revoked) ∧
    ∀ t, ∃ longer, ofDer (der ++ t) = .ok longer ∧
      longer.issuer = list.issuer ∧ longer.thisUpdate = list.thisUpdate ∧
      longer.nextUpdate = list.nextUpdate ∧ longer.revoked = list.revoked ∧
      ∀ issuer, longer.verifySignature issuer = list.verifySignature issuer := by
  obtain ⟨inner, hreread, hdecode, hlist⟩ := reread_of_ofDer h
  obtain ⟨inner', -, hdecode', hlist'⟩ := reread_of_ofDer h'
  refine ⟨⟨inner, hreread, fun signed => hasSignedPart_iff_of_decode hdecode⟩, ?_, ?_⟩
  · intro signed hpart hpart'
    have hsigned : inner.signed = inner'.signed :=
      ((hasSignedPart_iff_of_decode hdecode).mp hpart).symm.trans
        ((hasSignedPart_iff_of_decode hdecode').mp hpart')
    -- Both lists are made of the same decoded fields.
    rw [fields_eq_of_signed_eq hdecode hdecode' hsigned] at hlist'
    unfold ofCertificateList at hlist hlist'
    cases hnext : inner.nextUpdate with
    | none => simp [hnext] at hlist
    | some nextUpdate =>
        simp only [hnext, Except.ok.injEq] at hlist hlist'
        subst hlist hlist'
        exact ⟨rfl, rfl, rfl, rfl⟩
  · intro t
    refine ⟨{ list with encoded := der ++ t }, ofDer_append h t, rfl, rfl, rfl, rfl, ?_⟩
    refine verifySignature_congr ?_
    rw [hreread]
    exact X509.CertificateList.decode_append hdecode t

/-- The signed part of a list that revokes the serial number 5. -/
def samplePart : Octets :=
  shortElement 0x30 (shortElement 0x30 [6, 1, 42] ++ shortElement 0x30 [] ++ sampleDate ++
    sampleDate ++ shortElement 0x30 (sampleEntry [5]))

/-- A list with that signed part and with a signature of one octet. -/
def sampleSigned (algorithm signature : UInt8) : Octets :=
  shortElement 0x30 (samplePart ++ shortElement 0x30 [6, 1, algorithm] ++
    shortElement 0x03 [0, signature])

/-- Two lists with one signed part, different signatures, and octets behind the second one. -/
theorem signed_part_determines_samples :
    ∃ list list', ofDer (sampleSigned 42 1) = .ok list ∧
      ofDer (sampleSigned 43 2 ++ [0, 1, 2]) = .ok list' ∧
      HasSignedPart (sampleSigned 42 1) samplePart ∧
      HasSignedPart (sampleSigned 43 2 ++ [0, 1, 2]) samplePart ∧
      list.revoked.map RevokedEntry.serial = [5] ∧ list.revoked = list'.revoked ∧
      ∃ longer, ofDer (sampleSigned 42 1 ++ [7]) = .ok longer ∧
        ∀ issuer, longer.verifySignature issuer = list.verifySignature issuer := by
  have hlist : ofDer (sampleSigned 42 1) = .ok ⟨sampleSigned 42 1, "", ⟨1704067200, 0, 0⟩,
      ⟨1704067200, 0, 0⟩, [⟨5, ⟨1704067200, 0, 0⟩⟩]⟩ := by cbv
  have hlist' : ofDer (sampleSigned 43 2 ++ [0, 1, 2]) = .ok ⟨sampleSigned 43 2 ++ [0, 1, 2], "",
      ⟨1704067200, 0, 0⟩, ⟨1704067200, 0, 0⟩, [⟨5, ⟨1704067200, 0, 0⟩⟩]⟩ := by cbv
  have hinner : Der.Element.read samplePart =
      .ok (⟨.universal, true, 16, samplePart.drop 2⟩, []) := by cbv
  have hpart : HasSignedPart (sampleSigned 42 1) samplePart := by
    refine ⟨⟨.universal, true, 16, (sampleSigned 42 1).drop 2⟩, [], _,
      shortElement 0x30 [6, 1, 42] ++ shortElement 0x03 [0, 1], ?_, ?_, hinner⟩ <;> cbv
  have hpart' : HasSignedPart (sampleSigned 43 2 ++ [0, 1, 2]) samplePart := by
    refine ⟨⟨.universal, true, 16, (sampleSigned 43 2).drop 2⟩, [0, 1, 2], _,
      shortElement 0x30 [6, 1, 43] ++ shortElement 0x03 [0, 2], ?_, ?_, hinner⟩ <;> cbv
  obtain ⟨-, hsame, hlonger⟩ := signed_part_determines_list hlist hlist'
  obtain ⟨longer, haccepted, -, -, -, -, hverify⟩ := hlonger [7]
  exact ⟨_, _, hlist, hlist', hpart, hpart', rfl, (hsame samplePart hpart hpart').2.2.2, longer,
    haccepted, hverify⟩

end RevocationCheck.RevocationList
