import RevocationCheck.Proofs.RevokedEntries
import RevocationCheck.X509.Certificate

/-!
# Chains that decode

A chain is decoded certificate by certificate up to the first one that does not decode, which is
the one that is reported.  The statements below say what this means for the chain as a whole:

* `decodeChain_eq_ok_iff`: all certificates decode, each to the one in its place;
* `decodeChain_eq_error_iff`: one does not decode, and all in front of it do.
-/

namespace RevocationCheck.X509

section Map

variable {ε α β : Type} {f : α → Except ε β} {items : List α} {e : ε}

theorem mapM_eq_ok_iff {results : List β} :
    items.mapM f = .ok results ↔ List.Forall₂ (fun a b => f a = .ok b) items results := by
  induction items generalizing results with
  | nil => simp [Der.pure_eq_ok_iff]
  | cons a rest ih =>
      simp only [List.mapM_cons, Der.bind_eq_ok_iff, ih, Der.pure_eq_ok_iff]
      constructor
      · rintro ⟨b, hb, others, hothers, rfl⟩
        exact .cons hb hothers
      · rintro (_ | ⟨hb, hothers⟩)
        exact ⟨_, hb, _, hothers, rfl⟩

/-- What stands behind the first failure is not looked at. -/
theorem mapM_append_of_error {front back : List α} {a : α}
    (hfront : ∀ b ∈ front, ∃ c, f b = .ok c) (ha : f a = .error e) :
    (front ++ a :: back).mapM f = .error e := by
  induction front with
  | nil =>
      rw [List.nil_append, List.mapM_cons, ha]
      rfl
  | cons b front ih =>
      obtain ⟨⟨c, hc⟩, hrest⟩ := List.forall_mem_cons.mp hfront
      rw [List.cons_append, List.mapM_cons, hc, ih hrest]
      rfl

theorem exists_of_mapM_eq_error (h : items.mapM f = .error e) :
    ∃ front a back, items = front ++ a :: back ∧ (∀ b ∈ front, ∃ c, f b = .ok c) ∧
      f a = .error e := by
  induction items with
  | nil => cases h
  | cons first rest ih =>
      rw [List.mapM_cons] at h
      cases hfirst : f first with
      | error other =>
          rw [hfirst] at h
          cases h
          exact ⟨[], first, rest, rfl, by simp, hfirst⟩
      | ok b =>
          have hrest : rest.mapM f = .error e := by
            rw [hfirst] at h
            cases hothers : rest.mapM f with
            | error other =>
                rw [hothers] at h
                cases h
                rfl
            | ok others =>
                rw [hothers] at h
                cases h
          obtain ⟨front, a, back, rfl, hfront, ha⟩ := ih hrest
          exact ⟨first :: front, a, back, rfl,
            List.forall_mem_cons.mpr ⟨⟨b, hfirst⟩, hfront⟩, ha⟩

end Map

theorem decodeChain_eq_ok_iff {ders : List Octets} {certificates : List Certificate} :
    decodeChain ders = .ok certificates ↔
      List.Forall₂ (fun der certificate => Certificate.decode der = .ok certificate)
        ders certificates := mapM_eq_ok_iff

theorem decodeChain_eq_error_iff {ders : List Octets} {fault : Fault} :
    decodeChain ders = .error fault ↔
      ∃ front der back, ders = front ++ der :: back ∧
        (∀ other ∈ front, ∃ certificate, Certificate.decode other = .ok certificate) ∧
        Certificate.decode der = .error fault := by
  constructor
  · exact exists_of_mapM_eq_error
  · rintro ⟨front, der, back, rfl, hfront, hder⟩
    exact mapM_append_of_error hfront hder

/-! ### A sample -/

open RevocationList (shortElement)

/-- A certificate of version 1, which says nothing but its serial number. -/
def plainEncoding (serial : UInt8) : Octets :=
  let algorithm := shortElement 0x30 [6, 1, 42]
  let date := shortElement 0x17 [50, 52, 48, 49, 48, 49, 48, 48, 48, 48, 48, 48, 90]
  let bits := shortElement 0x03 [0]
  let signed := shortElement 0x02 [serial] ++ algorithm ++ shortElement 0x30 [] ++
    shortElement 0x30 (date ++ date) ++ shortElement 0x30 [] ++
    shortElement 0x30 (algorithm ++ bits)
  shortElement 0x30 (shortElement 0x30 signed ++ algorithm ++ bits)

theorem decode_plainEncoding (serial : UInt8) :
    ∃ c, Certificate.decode (plainEncoding serial) = .ok c ∧ c.serialOctets = [serial] ∧
      c.extensions = [] := by
  have hread : (Certificate.decode (plainEncoding serial)).map
      (fun c => (c.serialOctets, c.extensions)) = .ok ([serial], []) := by cbv
  obtain ⟨c, hdecode, hparts⟩ := Der.map_eq_ok_iff.mp hread
  exact ⟨c, hdecode, congrArg Prod.fst hparts, congrArg Prod.snd hparts⟩

/-- The one with the serial number 6. -/
def plainCertificate : Octets := plainEncoding 6

theorem decode_plainCertificate :
    ∃ c, Certificate.decode plainCertificate = .ok c ∧ c.serialOctets = [6] ∧
      c.extensions = [] := decode_plainEncoding 6

end RevocationCheck.X509
