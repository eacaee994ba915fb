import RevocationCheck.Proofs.SignerAuthority

/-!
# The outcome of validation

A list that was accepted has one of three outcomes when it is validated, and `validate_outcome` says
which: it has expired, it is given back unchanged, or its signature does not count.  Expiry comes
first and is a matter of instants alone (`Timestamp.Precedes`): two timestamps that were written
with different offsets are compared by their nanoseconds in UTC.

The list is decoded once more for the check of its signature.  It has decoded before, so that this
never fails, and a signature that does not count is never reported as anything else.
-/

namespace RevocationCheck

/-! ### Instants -/

namespace Timestamp

/-- The nanoseconds of a second. -/
def nanosPerSecond : Nat := 1000000000

/-- The nanoseconds since 1970-01-01 00:00:00 UTC. -/
def nanoseconds (t : Timestamp) : Int := t.seconds * nanosPerSecond + t.nanos

/-- One instant is strictly before another one, whatever offsets they are written with. -/
def Precedes (a b : Timestamp) : Prop :=
  a.seconds < b.seconds ∨ (a.seconds = b.seconds ∧ a.nanos < b.nanos)

theorem isAfter_iff_precedes {a b : Timestamp} : b.isAfter a = true ↔ a.Precedes b := by
  rw [isAfter_eq_true_iff, Precedes, eq_comm (a := a.seconds)]

/-- Where fractions are less than a second, the order of instants is that of their nanoseconds. -/
theorem precedes_iff_nanoseconds_lt {a b : Timestamp} (ha : a.nanos < nanosPerSecond)
    (hb : b.nanos < nanosPerSecond) : a.Precedes b ↔ a.nanoseconds < b.nanoseconds := by
  unfold nanosPerSecond at ha hb
  unfold Precedes nanoseconds nanosPerSecond
  omega

end Timestamp

namespace X509

theorem milliseconds?_digit_le {b : UInt8} {place n : Nat}
    (h : milliseconds?.digit b place = some n) : n ≤ 9 * place := by
  unfold milliseconds?.digit at h
  split at h
  · rename_i hdigit
    have hvalue : (b.toNat - 48) * place ≤ 9 * place := Nat.mul_le_mul_right place (by omega)
    exact Option.some.inj h ▸ hvalue
  · cases h

/-- At most three digits are less than a second. -/
theorem milliseconds?_lt {bs : Octets} {n : Nat} (h : milliseconds? bs = some n) : n < 1000 := by
  unfold milliseconds? at h
  split at h
  · split at h
    · cases h
      omega
    · have := milliseconds?_digit_le h
      omega
    · simp only [Option.bind_eq_bind, Option.bind_eq_some_iff, Option.some.injEq] at h
      obtain ⟨x, hx, y, hy, rfl⟩ := h
      have := milliseconds?_digit_le hx
      have := milliseconds?_digit_le hy
      omega
    · simp only [Option.bind_eq_bind, Option.bind_eq_some_iff, Option.some.injEq] at h
      obtain ⟨x, hx, y, hy, z, hz, rfl⟩ := h
      have := milliseconds?_digit_le hx
      have := milliseconds?_digit_le hy
      have := milliseconds?_digit_le hz
      omega
    · cases h
  · cases h

theorem WrittenTime.millisecond_lt {element : Der.Element} {written : WrittenTime}
    (h : WrittenTime.ofElement? element = some written) : written.millisecond < 1000 := by
  unfold WrittenTime.ofElement? at h
  split at h
  · simp only [ofUtcText?, Option.bind_eq_bind, Option.bind_eq_some_iff, Option.some.injEq,
      Prod.exists] at h
    obtain ⟨_, _, -, _, _, _, _, _, _, -, _, _, -, rfl⟩ := h
    exact Nat.zero_lt_succ 999
  · split at h
    · simp only [ofGeneralizedText?, Option.bind_eq_bind, Option.bind_eq_some_iff,
        Prod.exists] at h
      obtain ⟨_, _, -, _, _, -, _, _, _, _, _, _, -, h⟩ := h
      -- The fraction is left out, or it is read behind a point.
      split at h
      · cases h
        exact Nat.zero_lt_succ 999
      · obtain ⟨n, hn, heq⟩ := Option.bind_eq_some_iff.mp h
        cases heq
        exact milliseconds?_lt hn
      · cases h
    · cases h

theorem WrittenTime.nanos_of_toTimestamp? {written : WrittenTime} {t : Timestamp}
    (h : written.toTimestamp? = some t) : t.nanos = written.millisecond * 1000000 := by
  unfold WrittenTime.toTimestamp? at h
  dsimp only at h
  split at h
  · cases h
    rfl
  · cases h

/-- An optional time that is there comes from a written one. -/
theorem written_of_optionalTime {bs rest : Octets} {t : Timestamp}
    (h : readTime? bs = .ok (some t, rest)) :
    ∃ element written, WrittenTime.ofElement? element = some written ∧
      written.toTimestamp? = some t := by
  unfold readTime? at h
  split at h
  · cases h
  · split at h
    · rename_i written behind hwritten
      unfold readTime?.readWritten? at hwritten
      split at hwritten
      · cases hwritten
      · rename_i element final hread
        obtain ⟨found, hfound, heq⟩ := Option.map_eq_some_iff.mp hwritten
        cases heq
        split at h
        · cases h
        · rename_i htimestamp
          cases h
          exact ⟨element, written, hfound, htimestamp⟩
    · split at h
      · cases h
      · cases h
      · split at h
        · cases h
        · cases h

/-- The next update of a decoded list has a fraction of less than a second. -/
theorem CertificateList.nanos_nextUpdate_lt {der : Octets} {list : CertificateList} {t : Timestamp}
    (h : CertificateList.decode der = .ok list) (hnext : list.nextUpdate = some t) :
    t.nanos < Timestamp.nanosPerSecond := by
  obtain ⟨-, part, fields, -, hfields, hlist⟩ := RevocationList.fields_of_signed h
  simp only [CertificateList.Fields.decode, Der.bind_eq_ok_iff, Prod.exists] at hfields
  obtain ⟨_, -, _, _, -, _, _, -, _, _, -, next, _, hread, _, -, heq⟩ := hfields
  cases heq
  rw [hlist] at hnext
  obtain rfl : next = some t := hnext
  obtain ⟨element, written, hwritten, htimestamp⟩ := written_of_optionalTime hread
  have hmillisecond := WrittenTime.millisecond_lt hwritten
  rw [WrittenTime.nanos_of_toTimestamp? htimestamp, Timestamp.nanosPerSecond]
  omega

end X509

namespace RevocationList

open X509 (Certificate Extension BasicConstraints)

theorem nanos_nextUpdate_lt {der : Octets} {list : RevocationList} (h : ofDer der = .ok list) :
    list.nextUpdate.nanos < Timestamp.nanosPerSecond := by
  obtain ⟨inner, nextUpdate, hdecode, hnext, rfl⟩ := ofDer_eq_ok_iff.mp h
  exact X509.CertificateList.nanos_nextUpdate_lt hdecode hnext

/-! ### The outcomes of any list -/

/-- The issuer is there and the list's signature counts as its own. -/
def IsSignedBy (list : RevocationList) (issuer : Option Certificate) : Prop :=
  ∃ signer, issuer = some signer ∧ list.verifySignature signer = .ok ()

/-- What is wrong with the signature of a list: there is no issuer, or the check of the signature
fails. -/
def IsSignatureFault (list : RevocationList) (issuer : Option Certificate)
    (fault : SignatureFault) : Prop :=
  fault = .noIssuer ∨ ∃ signer, issuer = some signer ∧ list.verifySignature signer = .error fault

section Outcomes

variable {list : RevocationList} {issuer : Option Certificate} {now : Timestamp}

theorem isCurrentAt_iff_precedes : list.isCurrentAt now = true ↔ now.Precedes list.nextUpdate :=
  Timestamp.isAfter_iff_precedes

/-- The three outcomes, and when they come. -/
theorem validate_cases (list : RevocationList) (issuer : Option Certificate)
    (signatureWanted : Bool) (now : Timestamp) :
    (¬ now.Precedes list.nextUpdate ∧
      list.validate issuer signatureWanted now = .error (.expired list.nextUpdate)) ∨
    (now.Precedes list.nextUpdate ∧ (signatureWanted = true → IsSignedBy list issuer) ∧
      list.validate issuer signatureWanted now = .ok list) ∨
    (now.Precedes list.nextUpdate ∧ signatureWanted = true ∧ ¬ IsSignedBy list issuer ∧
      ∃ fault, IsSignatureFault list issuer fault ∧
        list.validate issuer signatureWanted now = .error (.signature fault)) := by
  unfold validate
  by_cases hcurrent : now.Precedes list.nextUpdate
  · rw [if_pos (isCurrentAt_iff_precedes.mpr hcurrent)]
    cases signatureWanted with
    | false => exact .inr (.inl ⟨hcurrent, nofun, rfl⟩)
    | true =>
        rw [if_pos rfl]
        cases issuer with
        | none =>
            have hunsigned : ¬ IsSignedBy list none := by
              rintro ⟨_, heq, _⟩
              cases heq
            exact .inr (.inr ⟨hcurrent, rfl, hunsigned, .noIssuer, .inl rfl, rfl⟩)
        | some signer =>
            cases hverify : list.verifySignature signer with
            | ok _ => exact .inr (.inl ⟨hcurrent, fun _ => ⟨signer, rfl, hverify⟩, by simp [hverify]⟩)
            | error fault =>
                have hunsigned : ¬ IsSignedBy list (some signer) := by
                  rintro ⟨_, heq, hok⟩
                  rw [← Option.some.inj heq, hverify] at hok
                  cases hok
                exact .inr (.inr ⟨hcurrent, rfl, hunsigned, fault, .inr ⟨signer, rfl, hverify⟩,
                  by simp [hverify]⟩)
  · rw [if_neg (isCurrentAt_iff_precedes.not.mpr hcurrent)]
    exact .inl ⟨hcurrent, rfl⟩

theorem validate_eq_expired_iff {signatureWanted : Bool} {t : Timestamp} :
    list.validate issuer signatureWanted now = .error (.expired t) ↔
      t = list.nextUpdate ∧ ¬ now.Precedes list.nextUpdate := by
  rcases validate_cases list issuer signatureWanted now with
    ⟨hexpired, heq⟩ | ⟨hcurrent, -, heq⟩ | ⟨hcurrent, -, -, fault, -, heq⟩
  · simp [heq, hexpired, eq_comm]
  · simp [heq, hcurrent]
  · simp [heq, hcurrent]

theorem validate_eq_ok_iff {signatureWanted : Bool} {valid : RevocationList} :
    list.validate issuer signatureWanted now = .ok valid ↔
      valid = list ∧ now.Precedes list.nextUpdate ∧
        (signatureWanted = true → IsSignedBy list issuer) := by
  rcases validate_cases list issuer signatureWanted now with
    ⟨hexpired, heq⟩ | ⟨hcurrent, hsigned, heq⟩ | ⟨-, rfl, hunsigned, fault, -, heq⟩
  · simp [heq, hexpired]
  · rw [heq, Except.ok.injEq]
    exact ⟨fun hvalid => ⟨hvalid.symm, hcurrent, hsigned⟩, fun hvalid => hvalid.1.symm⟩
  · simp [heq, hunsigned]

theorem validate_eq_signature_iff {signatureWanted : Bool} :
    (∃ fault, list.validate issuer signatureWanted now = .error (.signature fault)) ↔
      now.Precedes list.nextUpdate ∧ signatureWanted = true ∧ ¬ IsSignedBy list issuer := by
  rcases validate_cases list issuer signatureWanted now with
    ⟨hexpired, heq⟩ | ⟨hcurrent, hsigned, heq⟩ | ⟨hcurrent, hwanted, hunsigned, fault, -, heq⟩
  · simp [heq, hexpired]
  · simpa [heq, hcurrent] using hsigned
  · exact iff_of_true ⟨fault, heq⟩ ⟨hcurrent, hwanted, hunsigned⟩

theorem isSignatureFault_of_validate {signatureWanted : Bool} {fault : SignatureFault}
    (h : list.validate issuer signatureWanted now = .error (.signature fault)) :
    IsSignatureFault list issuer fault := by
  rcases validate_cases list issuer signatureWanted now with
    ⟨-, heq⟩ | ⟨-, -, heq⟩ | ⟨-, -, -, found, hfound, heq⟩
  · simp [heq] at h
  · simp [heq] at h
  · obtain rfl : found = fault := by simpa [heq] using h
    exact hfound

end Outcomes

/-! ### The outcomes of an accepted list -/

/-- A certificate vouches for the list in an octet string.  Its key usage lets it sign lists, its
basic constraints are those of an authority or do not decode where they may be missing, and the
signature over the signed part of the list verifies under its key. -/
structure Vouches (der : Octets) (signer : Certificate) : Prop where
  usage : UsageAllows signer
  constraints : ConstraintsAllow signer ∨ ConstraintsUnreadable signer
  verifies : ∃ inner, X509.CertificateList.decode der = .ok inner ∧
    HasSignedPart der inner.signed ∧
      checkSignature signer inner.signature inner.signed = .ok ()

section Accepted

variable {der : Octets} {list : RevocationList}

/-- For an accepted list the second decoding is the first one. -/
theorem verifySignature_eq_ok_iff_vouches (h : ofDer der = .ok list) (signer : Certificate) :
    list.verifySignature signer = .ok () ↔ Vouches der signer := by
  obtain ⟨inner, hreread, hdecode, -⟩ := reread_of_ofDer h
  have hsigned : HasSignedPart der inner.signed := (hasSignedPart_iff_of_decode hdecode).mpr rfl
  rw [verifySignature_eq_ok_iff]
  constructor
  · rintro ⟨husage, hconstraints, found, hfound, hcheck⟩
    obtain rfl : inner = found := Except.ok.inj (hreread.symm.trans hfound)
    exact ⟨husage, hconstraints, inner, hdecode, hsigned, hcheck⟩
  · rintro ⟨husage, hconstraints, found, hfound, -, hcheck⟩
    obtain rfl : inner = found := Except.ok.inj (hdecode.symm.trans hfound)
    exact ⟨husage, hconstraints, inner, hreread, hcheck⟩

theorem isSignedBy_iff_vouches (h : ofDer der = .ok list) (issuer : Option Certificate) :
    IsSignedBy list issuer ↔ ∃ signer, issuer = some signer ∧ Vouches der signer := by
  unfold IsSignedBy
  simp only [verifySignature_eq_ok_iff_vouches h]

theorem kind_of_isSignatureFault (h : ofDer der = .ok list) {issuer : Option Certificate}
    {fault : SignatureFault} (hfault : IsSignatureFault list issuer fault) :
    (Failure.ofInvalidity (.signature fault)).kind = .signature := by
  rcases hfault with rfl | ⟨signer, -, hverify⟩
  · rfl
  · exact kind_of_verifySignature h hverify

/-- What becomes of an accepted list.

It has expired, with its next update as the reason, if and only if this is not strictly after the
present, whatever the issuer is and whether a signature is wanted.  It is given back unchanged if
and only if it has not expired and, where a signature is wanted, there is an issuer that vouches
for it.  In every other case its signature does not count, and that is how the failure is reported:
the list decodes a second time.  Instants are compared to the nanosecond. -/
theorem validate_outcome (h : ofDer der = .ok list) (issuer : Option Certificate)
    (signatureWanted : Bool) (now : Timestamp) :
    (∀ t, list.validate issuer signatureWanted now = .error (.expired t) ↔
      t = list.nextUpdate ∧ ¬ now.Precedes list.nextUpdate) ∧
    (∀ valid, list.validate issuer signatureWanted now = .ok valid ↔
      valid = list ∧ now.Precedes list.nextUpdate ∧
        (signatureWanted = true → ∃ signer, issuer = some signer ∧ Vouches der signer)) ∧
    ((∃ fault, list.validate issuer signatureWanted now = .error (.signature fault)) ↔
      now.Precedes list.nextUpdate ∧ signatureWanted = true ∧
        ¬ ∃ signer, issuer = some signer ∧ Vouches der signer) ∧
    (∀ fault, list.validate issuer signatureWanted now = .error (.signature fault) →
      (Failure.ofInvalidity (.signature fault)).kind = .signature) ∧
    (∃ inner, list.reread = .ok inner) ∧
    (now.nanos < Timestamp.nanosPerSecond →
      (now.Precedes list.nextUpdate ↔ now.nanoseconds < list.nextUpdate.nanoseconds)) := by
  rw [← isSignedBy_iff_vouches h]
  obtain ⟨inner, hreread, -⟩ := reread_of_ofDer h
  refine ⟨fun t => validate_eq_expired_iff, fun valid => validate_eq_ok_iff,
    validate_eq_signature_iff, ?_, ⟨inner, hreread⟩, ?_⟩
  · intro fault hfault
    exact kind_of_isSignatureFault h (isSignatureFault_of_validate hfault)
  · intro hnow
    exact Timestamp.precedes_iff_nanoseconds_lt hnow (nanos_nextUpdate_lt h)

end Accepted

/-! ### Constraints that do not decode -/

/-- The certificate whose basic constraints do not decode vouches for the list that was signed with
its key. -/
theorem vouches_unreadableSigner :
    ∃ issuer, X509.Certificate.decode unreadableSigner = .ok issuer ∧
      ConstraintsUnreadable issuer ∧ Vouches signedDraft.encode issuer := by
  obtain ⟨issuer, inner, hissuer, husage, hunreadable, hdecode, hsigned⟩ := unreadableSigner_passes
  have hpart : HasSignedPart signedDraft.encode inner.signed :=
    (hasSignedPart_iff_of_decode hdecode).mpr rfl
  exact ⟨issuer, hissuer, hunreadable, husage, .inr hunreadable, inner, hdecode, hpart, hsigned⟩

/-- The list is valid in 2026 with the certificate as its issuer, though this one's basic
constraints are neither readable, nor those of an authority, nor missing. -/
theorem unreadable_constraints_validate :
    ∃ list issuer, ofDer signedDraft.encode = .ok list ∧
      X509.Certificate.decode unreadableSigner = .ok issuer ∧
      (∃ e ∈ issuer.extensions, e.type = Extension.basicConstraintsType ∧
        BasicConstraints.decode? e.value = none) ∧
      ¬ ConstraintsAllow issuer ∧
      list.validate (some issuer) true (.utc 1767225600 0) = .ok list := by
  obtain ⟨issuer, hissuer, hunreadable, hvouches⟩ := vouches_unreadableSigner
  obtain ⟨list, hlist, -, hnext⟩ := ofDer_signedDraft
  obtain ⟨e, hmem, htype, hundecodable⟩ := hunreadable.exists_mem
  refine ⟨list, issuer, hlist, hissuer, ⟨e, hmem, htype, hundecodable⟩, ?_, ?_⟩
  · intro hallows
    obtain ⟨constraints, hdecode, -⟩ := hallows.allows e hmem htype
    rw [hundecodable] at hdecode
    cases hdecode
  · rw [validate_eq_ok_iff, isSignedBy_iff_vouches hlist, hnext]
    exact ⟨rfl, .inl (by decide), fun _ => ⟨issuer, rfl, hvouches⟩⟩

/-- The three outcomes of that list: it is valid in 2026, its signature does not count without an
issuer, and in the nanosecond of its next update it has expired. -/
theorem validate_outcome_samples :
    ∃ list issuer, ofDer signedDraft.encode = .ok list ∧
      X509.Certificate.decode unreadableSigner = .ok issuer ∧
      list.validate (some issuer) true (.utc 1767225600 0) = .ok list ∧
      (∃ fault, list.validate none true (.utc 2493071999 999999999) =
        .error (.signature fault)) ∧
      list.validate (some issuer) false (.utc 2493072000 0) = .error (.expired list.nextUpdate) := by
  obtain ⟨issuer, hissuer, -, hvouches⟩ := vouches_unreadableSigner
  obtain ⟨list, hlist, -, hnext⟩ := ofDer_signedDraft
  refine ⟨list, issuer, hlist, hissuer, ?_, ?_, ?_⟩
  · have hcurrent : (Timestamp.utc 1767225600 0).Precedes list.nextUpdate := by
      rw [hnext]
      exact .inl (by decide)
    exact ((validate_outcome hlist (some issuer) true (.utc 1767225600 0)).2.1 list).mpr
      ⟨rfl, hcurrent, fun _ => ⟨issuer, rfl, hvouches⟩⟩
  · have hcurrent : (Timestamp.utc 2493071999 999999999).Precedes list.nextUpdate := by
      rw [hnext]
      exact .inl (by decide)
    refine (validate_outcome hlist none true (.utc 2493071999 999999999)).2.2.1.mpr
      ⟨hcurrent, rfl, ?_⟩
    rintro ⟨signer, hsigner, -⟩
    cases hsigner
  · have hexpired : ¬ (Timestamp.utc 2493072000 0).Precedes list.nextUpdate := by
      rw [hnext]
      simp [Timestamp.Precedes]
    exact ((validate_outcome hlist (some issuer) false (.utc 2493072000 0)).1 _).mpr
      ⟨rfl, hexpired⟩

end RevocationList

end RevocationCheck
