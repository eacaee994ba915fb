import RevocationCheck.Proofs.RoundTrip
import RevocationCheck.Proofs.SignedPart

/-!
# Who may sign a revocation list

`verifySignature_eq_ok_iff` says which certificates can vouch for a list: those whose key usage
allows it, whose basic constraints are those of an authority, and under whose key the signature
verifies.

Basic constraints that do not decode are taken for absent, and a certificate of another version than
3 may do without them.  So there is one more way in (`ConstraintsUnreadable`):
`unreadable_constraints_accepted` takes it.
-/

namespace RevocationCheck

namespace X509.Certificate

/-- A certificate has no extension of a kind, or one, or several. -/
theorem uniqueExtension_cases (c : Certificate) (type : Oid) :
    (c.extensionsOf type = [] ∧ c.uniqueExtension type = .ok none) ∨
    (∃ e, c.extensionsOf type = [e] ∧ c.uniqueExtension type = .ok (some e)) ∨
    (1 < (c.extensionsOf type).length ∧ c.uniqueExtension type = .error ()) := by
  unfold uniqueExtension
  cases hexts : c.extensionsOf type with
  | nil => exact .inl ⟨rfl, rfl⟩
  | cons e others =>
      cases others with
      | nil => exact .inr (.inl ⟨e, rfl, rfl⟩)
      | cons e' others => exact .inr (.inr ⟨by simp, rfl⟩)

theorem mem_extensionsOf {c : Certificate} {type : Oid} {e : Extension} :
    e ∈ c.extensionsOf type ↔ e ∈ c.extensions ∧ e.type = type := by
  simp [extensionsOf]

end X509.Certificate

namespace RevocationList

open X509 (Certificate Extension BasicConstraints KeyUsage)

/-! ### What the extensions allow -/

/-- The key usage of a certificate, if it has one, lets it sign revocation lists. -/
structure UsageAllows (c : Certificate) : Prop where
  /-- There is at most one. -/
  unique : (c.extensionsOf Extension.keyUsageType).length ≤ 1
  /-- All there are decode and have the bit for revocation lists. -/
  allows : ∀ e ∈ c.extensions, e.type = Extension.keyUsageType →
    ∃ usage, KeyUsage.decode? e.value = some usage ∧ usage.crlSign = true

/-- The basic constraints of a certificate are those of an authority; only a certificate of another
version than 3 may be without them. -/
structure ConstraintsAllow (c : Certificate) : Prop where
  /-- There is at most one extension of the kind. -/
  unique : (c.extensionsOf Extension.basicConstraintsType).length ≤ 1
  /-- All there are decode and say that this is an authority. -/
  allows : ∀ e ∈ c.extensions, e.type = Extension.basicConstraintsType →
    ∃ constraints, BasicConstraints.decode? e.value = some constraints ∧ constraints.ca = true
  /-- A certificate of version 3 has one. -/
  present : c.version = version3 → (c.extensionsOf Extension.basicConstraintsType).length = 1

/-- The certificate is not of version 3, and its one basic constraints extension does not decode. -/
structure ConstraintsUnreadable (c : Certificate) : Prop where
  version : c.version ≠ version3
  undecodable : ∃ e, c.extensionsOf Extension.basicConstraintsType = [e] ∧
    BasicConstraints.decode? e.value = none

theorem ConstraintsUnreadable.exists_mem {c : Certificate} (h : ConstraintsUnreadable c) :
    ∃ e ∈ c.extensions, e.type = Extension.basicConstraintsType ∧
      BasicConstraints.decode? e.value = none := by
  obtain ⟨e, hone, hundecodable⟩ := h.undecodable
  obtain ⟨hmem, htype⟩ := X509.Certificate.mem_extensionsOf.mp (hone ▸ List.mem_singleton_self e)
  exact ⟨e, hmem, htype, hundecodable⟩

section Single

variable {c : Certificate} {type : Oid}

theorem forall_mem_of_none (h : c.extensionsOf type = []) {P : Extension → Prop} :
    ∀ e ∈ c.extensions, e.type = type → P e := by
  intro e he htype
  have hmem := X509.Certificate.mem_extensionsOf.mpr ⟨he, htype⟩
  rw [h] at hmem
  cases hmem

theorem forall_mem_iff_of_one {e : Extension} (h : c.extensionsOf type = [e])
    {P : Extension → Prop} : (∀ e' ∈ c.extensions, e'.type = type → P e') ↔ P e := by
  constructor
  · intro hall
    have hmem : e ∈ c.extensionsOf type := by simp [h]
    obtain ⟨he, htype⟩ := X509.Certificate.mem_extensionsOf.mp hmem
    exact hall e he htype
  · intro hP e' he htype
    have hmem := X509.Certificate.mem_extensionsOf.mpr ⟨he, htype⟩
    rw [h, List.mem_singleton] at hmem
    exact hmem ▸ hP

end Single

theorem checkKeyUsage_eq_ok_iff (c : Certificate) : checkKeyUsage c = .ok () ↔ UsageAllows c := by
  rcases c.uniqueExtension_cases Extension.keyUsageType with
    ⟨hnone, hunique⟩ | ⟨e, hone, hunique⟩ | ⟨hmany, hunique⟩
  · have hcheck : checkKeyUsage c = .ok () := by
      simp only [checkKeyUsage, keyUsage, hunique]
      rfl
    exact iff_of_true hcheck ⟨by simp [hnone], forall_mem_of_none hnone⟩
  · have hallows : UsageAllows c ↔
        ∃ usage, KeyUsage.decode? e.value = some usage ∧ usage.crlSign = true :=
      ⟨fun h => (forall_mem_iff_of_one hone).mp h.allows,
        fun h => ⟨by simp [hone], (forall_mem_iff_of_one hone).mpr h⟩⟩
    rw [hallows]
    cases hdecode : KeyUsage.decode? e.value with
    | none => simp [checkKeyUsage, keyUsage, hunique, hdecode, bind, Except.bind]
    | some usage => simp [checkKeyUsage, keyUsage, hunique, hdecode, bind, Except.bind]
  · have hcheck : checkKeyUsage c = .error .duplicateExtensions := by
      simp only [checkKeyUsage, keyUsage, hunique]
      rfl
    rw [hcheck]
    exact iff_of_false (by simp) fun h => absurd h.unique (by omega)

theorem checkAuthority_eq_ok_iff (c : Certificate) :
    checkAuthority c = .ok () ↔ ConstraintsAllow c ∨ ConstraintsUnreadable c := by
  rcases c.uniqueExtension_cases Extension.basicConstraintsType with
    ⟨hnone, hunique⟩ | ⟨e, hone, hunique⟩ | ⟨hmany, hunique⟩
  · have hallows : ConstraintsAllow c ∨ ConstraintsUnreadable c ↔ c.version ≠ version3 := by
      constructor
      · rintro (h | h) hversion
        · have hlength := h.present hversion
          rw [hnone] at hlength
          cases hlength
        · exact h.version hversion
      · exact fun hversion => .inl ⟨by simp [hnone], forall_mem_of_none hnone,
          fun h => absurd h hversion⟩
    rw [hallows]
    by_cases hversion : c.version = version3
    · simp [checkAuthority, basicConstraints, hunique, hversion, bind, Except.bind]
    · simp [checkAuthority, basicConstraints, hunique, hversion, bind, Except.bind]
  · have hallows : ConstraintsAllow c ↔ ∃ constraints,
        BasicConstraints.decode? e.value = some constraints ∧ constraints.ca = true :=
      ⟨fun h => (forall_mem_iff_of_one hone).mp h.allows,
        fun h => ⟨by simp [hone], (forall_mem_iff_of_one hone).mpr h, fun _ => by simp [hone]⟩⟩
    have hunreadable : ConstraintsUnreadable c ↔
        c.version ≠ version3 ∧ BasicConstraints.decode? e.value = none := by
      constructor
      · rintro ⟨hversion, e', hone', hdecode⟩
        rw [hone, List.cons.injEq] at hone'
        exact ⟨hversion, hone'.1 ▸ hdecode⟩
      · exact fun h => ⟨h.1, e, hone, h.2⟩
    rw [hallows, hunreadable]
    -- An extension that does not decode is treated like one that is not there.
    cases hdecode : BasicConstraints.decode? e.value with
    | none => simp [checkAuthority, basicConstraints, hunique, hdecode, bind, Except.bind]
    | some constraints =>
        simp [checkAuthority, basicConstraints, hunique, hdecode, bind, Except.bind]
  · have hcheck : checkAuthority c = .error .duplicateExtensions := by
      simp only [checkAuthority, basicConstraints, hunique]
      rfl
    rw [hcheck]
    refine iff_of_false (by simp) ?_
    rintro (h | ⟨-, e, hone, -⟩)
    · exact absurd h.unique (by omega)
    · rw [hone] at hmany
      simp at hmany

/-! ### Who may sign -/

section Faults

variable (c : Certificate) (fault : X509.Fault)

theorem checkAuthority_ne_undecodable : checkAuthority c ≠ .error (.undecodable fault) := by
  intro h
  simp only [checkAuthority, basicConstraints, bind, Except.bind] at h
  grind

theorem checkKeyUsage_ne_undecodable : checkKeyUsage c ≠ .error (.undecodable fault) := by
  intro h
  simp only [checkKeyUsage, keyUsage, bind, Except.bind] at h
  grind

theorem checkSignature_ne_undecodable (signature : X509.SignatureValue) (signed : Octets) :
    checkSignature c signature signed ≠ .error (.undecodable fault) := by
  intro h
  unfold checkSignature at h
  grind

end Faults

/-- The faults in the signature of a list that was accepted are of the kind `signature`. -/
theorem kind_of_verifySignature {der : Octets} {list : RevocationList} (h : ofDer der = .ok list)
    {issuer : Certificate} {fault : SignatureFault}
    (hfault : list.verifySignature issuer = .error fault) :
    (Failure.ofInvalidity (.signature fault)).kind = .signature := by
  obtain ⟨inner, hreread, -⟩ := reread_of_ofDer h
  cases fault with
  | undecodable fault =>
      -- The list did decode, and no later step gives this fault.
      simp only [verifySignature, hreread, bind, Except.bind] at hfault
      have hauthority := checkAuthority_ne_undecodable issuer fault
      have husage := checkKeyUsage_ne_undecodable issuer fault
      have hsignature := checkSignature_ne_undecodable issuer fault inner.signature inner.signed
      grind
  | _ => rfl

/-- A signature counts if and only if the certificate may sign lists and the signature verifies
under its key. -/
theorem verifySignature_eq_ok_iff {list : RevocationList} {issuer : Certificate} :
    list.verifySignature issuer = .ok () ↔
      UsageAllows issuer ∧ (ConstraintsAllow issuer ∨ ConstraintsUnreadable issuer) ∧
        ∃ inner, list.reread = .ok inner ∧
          checkSignature issuer inner.signature inner.signed = .ok () := by
  rw [← checkKeyUsage_eq_ok_iff, ← checkAuthority_eq_ok_iff]
  unfold verifySignature
  cases hreread : list.reread with
  | error fault => simp
  | ok inner =>
      simp only [Der.bind_eq_ok_iff, Unique.exists_iff, PUnit.default_eq_unit, Except.ok.injEq,
        exists_eq_left']
      exact and_left_comm

theorem verifySignature_of_validate {list valid : RevocationList} {issuer : Option Certificate}
    {now : Timestamp} (h : list.validate issuer true now = .ok valid) :
    ∃ signer, issuer = some signer ∧ list.verifySignature signer = .ok () := by
  unfold validate at h
  grind

/-- Only a certificate that may sign lists can vouch for one.  What is asked of its extensions is
asked of all of them, and neither kind may occur twice.  A list is valid with its signature only if
the signature counts; and where the signature of an accepted list does not count, this is a fault in
the signature. -/
theorem signer_is_authorised (list : RevocationList) (issuer : Certificate) :
    (list.verifySignature issuer = .ok () ↔
      UsageAllows issuer ∧ (ConstraintsAllow issuer ∨ ConstraintsUnreadable issuer) ∧
        ∃ inner, list.reread = .ok inner ∧
          checkSignature issuer inner.signature inner.signed = .ok ()) ∧
    (∀ now valid, list.validate (some issuer) true now = .ok valid →
      list.verifySignature issuer = .ok ()) ∧
    ∀ der fault, ofDer der = .ok list → list.verifySignature issuer = .error fault →
      (Failure.ofInvalidity (.signature fault)).kind = .signature := by
  refine ⟨verifySignature_eq_ok_iff, fun now valid hvalid => ?_, fun der fault hlist hfault =>
    kind_of_verifySignature hlist hfault⟩
  obtain ⟨signer, hsigner, hverify⟩ := verifySignature_of_validate hvalid
  exact Option.some.inj hsigner ▸ hverify

/-! ### Constraints that do not decode -/

/-- The key of the issuer. -/
def sampleKey : Octets :=
  [138, 136, 227, 221, 116, 9, 241, 149, 253, 82, 219, 45, 60, 186, 93, 114, 202, 103, 9, 191,
   29, 148, 18, 27, 243, 116, 136, 1, 180, 15, 111, 92]

/-- The signature of `signedDraft` with that key. -/
def sampleSignature : X509.SignatureValue := ⟨edwardsAlgorithm, ⟨0,
  [185, 40, 14, 14, 165, 2, 66, 105, 190, 64, 224, 158, 238, 182, 204, 149, 250, 185, 59, 37,
   127, 228, 29, 215, 53, 226, 29, 175, 171, 88, 107, 145, 19, 22, 3, 230, 74, 31, 128, 10,
   236, 179, 240, 208, 101, 180, 71, 107, 195, 14, 251, 158, 95, 168, 153, 131, 100, 4, 118,
   226, 123, 249, 224, 7]⟩⟩

theorem sampleSignature_isWritable : sampleSignature.IsWritable :=
  ⟨edwardsAlgorithm_isWritable, by decide, by decide, by simp [sampleSignature]⟩

/-- A list without entries, signed with the key of the issuer. -/
def signedDraft : X509.ListDraft where
  algorithm := edwardsAlgorithm
  issuer := sampleIssuer
  thisUpdate := sampleUpdate
  nextUpdate := some ⟨2493072000, by decide, by decide⟩
  entries := []
  extensions := none
  signature := sampleSignature
  algorithm_isWritable := edwardsAlgorithm_isWritable
  signature_isWritable := sampleSignature_isWritable

/-- A certificate of version 1 whose basic constraints are a NULL. -/
def unreadableSigner : Octets :=
  [48, 129, 211, 48, 129, 134, 2, 1, 1, 48, 5, 6, 3, 43, 101, 112, 48, 13, 49, 11, 48, 9, 6, 3,
   85, 4, 3, 12, 2, 67, 65, 48, 30, 23, 13, 50, 48, 48, 49, 48, 49, 48, 48, 48, 48, 48, 48, 90,
   23, 13, 52, 57, 48, 49, 48, 49, 48, 48, 48, 48, 48, 48, 90, 48, 13, 49, 11, 48, 9, 6, 3, 85,
   4, 3, 12, 2, 67, 65, 48, 42, 48, 5, 6, 3, 43, 101, 112, 3, 33, 0, 138, 136, 227, 221, 116, 9,
   241, 149, 253, 82, 219, 45, 60, 186, 93, 114, 202, 103, 9, 191, 29, 148, 18, 27, 243, 116,
   136, 1, 180, 15, 111, 92, 163, 16, 48, 14, 48, 12, 6, 3, 85, 29, 19, 1, 1, 255, 4, 2, 5, 0,
   48, 5, 6, 3, 43, 101, 112, 3, 65, 0, 200, 129, 139, 107, 227, 158, 82, 75, 194, 227, 239, 116,
   182, 163, 138, 51, 2, 62, 81, 166, 8, 172, 210, 84, 176, 53, 89, 159, 217, 165, 174, 214, 103,
   195, 44, 254, 127, 55, 249, 233, 36, 214, 0, 21, 240, 35, 235, 45, 123, 181, 150, 79, 254,
   173, 120, 112, 194, 148, 79, 87, 87, 60, 154, 4]

theorem decode_unreadableSigner :
    ∃ c, X509.Certificate.decode unreadableSigner = .ok c ∧ c.version = 0 ∧
      c.extensions = [⟨Extension.basicConstraintsType, true, [5, 0]⟩] ∧
      c.publicKey = ⟨edwardsAlgorithm, ⟨0, sampleKey⟩⟩ := by
  have houter : Der.readTagged Der.tagSequence unreadableSigner =
      .ok (unreadableSigner.drop 3, []) := by decide +kernel
  have hpart : Der.readTagged Der.tagSequence (unreadableSigner.drop 3) =
      .ok ((unreadableSigner.drop 6).take 134, unreadableSigner.drop 140) := by decide +kernel
  have hversion : X509.Certificate.readVersion ((unreadableSigner.drop 6).take 134) =
      .ok (0, (unreadableSigner.drop 6).take 134) := by decide +kernel
  -- The reader of serial numbers does not evaluate in the kernel, and is passed by itself.
  have hserial : Der.readSerial ((unreadableSigner.drop 6).take 134) =
      .ok ([1], (unreadableSigner.drop 9).take 131) := by cbv
  have hread : (X509.Certificate.decode unreadableSigner).map
      (fun c => (c.version, c.extensions, c.publicKey)) =
      .ok (0, [⟨Extension.basicConstraintsType, true, [5, 0]⟩],
        ⟨edwardsAlgorithm, ⟨0, sampleKey⟩⟩) := by
    simp only [X509.Certificate.decode, X509.Certificate.read, houter, hpart, hversion, hserial,
      X509.orFault, bind, Except.bind]
    decide +kernel
  obtain ⟨c, hdecode, hparts⟩ := Der.map_eq_ok_iff.mp hread
  exact ⟨c, hdecode, congrArg Prod.fst hparts, congrArg (fun parts => parts.2.1) hparts,
    congrArg (fun parts => parts.2.2) hparts⟩

theorem decode_signedDraft :
    ∃ inner, X509.CertificateList.decode signedDraft.encode = .ok inner ∧
      inner.nextUpdate = some (.utc 2493072000 0) ∧
      inner.signature = signedDraft.signature ∧
      inner.signed = signedDraft.signedElement.encode :=
  ⟨_, X509.ListDraft.decode_encode (by decide +kernel), rfl, rfl, rfl⟩

/-- The list as it is accepted. -/
theorem ofDer_signedDraft :
    ∃ list, ofDer signedDraft.encode = .ok list ∧ list.encoded = signedDraft.encode ∧
      list.nextUpdate = .utc 2493072000 0 := by
  obtain ⟨inner, hdecode, hnext, -⟩ := decode_signedDraft
  exact ⟨_, ofDer_eq_ok_iff.mpr ⟨inner, .utc 2493072000 0, hdecode, hnext, rfl⟩, rfl, rfl⟩

/-- The certificate passes all that is asked of a signer of that list, by the constraints that do
not decode. -/
theorem unreadableSigner_passes :
    ∃ issuer inner, X509.Certificate.decode unreadableSigner = .ok issuer ∧ UsageAllows issuer ∧
      ConstraintsUnreadable issuer ∧
      X509.CertificateList.decode signedDraft.encode = .ok inner ∧
      checkSignature issuer inner.signature inner.signed = .ok () := by
  obtain ⟨issuer, hissuer, hversion, hextensions, hkey⟩ := decode_unreadableSigner
  obtain ⟨inner, hdecode, -, hsignature, hpart⟩ := decode_signedDraft
  have husage : issuer.extensionsOf Extension.keyUsageType = [] := by
    simp only [X509.Certificate.extensionsOf, hextensions]
    decide +kernel
  have hconstraints : issuer.extensionsOf Extension.basicConstraintsType =
      [⟨Extension.basicConstraintsType, true, [5, 0]⟩] := by
    simp only [X509.Certificate.extensionsOf, hextensions]
    decide +kernel
  have hunreadable : ConstraintsUnreadable issuer :=
    ⟨by rw [hversion]; decide, _, hconstraints, by decide +kernel⟩
  have hsigned : checkSignature issuer inner.signature inner.signed = .ok () := by
    rw [hsignature, hpart]
    simp only [checkSignature, hkey]
    decide +kernel
  exact ⟨issuer, inner, hissuer, ⟨by simp [husage], forall_mem_of_none husage⟩, hunreadable,
    hdecode, hsigned⟩

/-- A certificate whose basic constraints do not decode vouches for a list. -/
theorem unreadable_constraints_accepted :
    ∃ list issuer, ofDer signedDraft.encode = .ok list ∧
      X509.Certificate.decode unreadableSigner = .ok issuer ∧
      (∃ e ∈ issuer.extensions, e.type = Extension.basicConstraintsType ∧
        BasicConstraints.decode? e.value = none) ∧
      list.verifySignature issuer = .ok () := by
  obtain ⟨issuer, inner, hissuer, husage, hunreadable, hdecode, hsigned⟩ := unreadableSigner_passes
  obtain ⟨list, hlist, hencoded, -⟩ := ofDer_signedDraft
  have hreread : list.reread = .ok inner := by rw [reread, hencoded, hdecode]
  exact ⟨list, issuer, hlist, hissuer, hunreadable.exists_mem,
    verifySignature_eq_ok_iff.mpr ⟨husage, .inr hunreadable, inner, hreread, hsigned⟩⟩

end RevocationList

end RevocationCheck
