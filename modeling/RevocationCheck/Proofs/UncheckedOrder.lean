import RevocationCheck.Proofs.IssuerRank
import RevocationCheck.Proofs.LinkedChains

/-!
# The order of the unchecked certificates

With a limited depth the certificates behind it are not checked; they can only be issuers of those
before it.  If no two of them are equally good issuers for a certificate that is checked, their
order has no influence on the check (`verifyRaw_eq_of_perm_unchecked`).

The search for an issuer goes through the whole list, so the argument is one about permutations of
all candidates (`find?_of_perm`).
-/

namespace RevocationCheck

namespace Issuer

/-- No two candidates are best matches for an issuer name. -/
def HasSingleBest (wanted : X509.Name) (candidates : List X509.Certificate) : Prop :=
  ∀ a b, IsBestMatch wanted candidates a → IsBestMatch wanted candidates b → a = b

section Matches

variable {wanted : X509.Name} {candidates : List X509.Certificate} {candidate : X509.Certificate}

/-- Where a candidate has the wanted serialNumber, the best matches are those that have it. -/
theorem isBestMatch_iff_of_serial (h : ∃ c ∈ candidates, matchesSerial wanted c = true) :
    IsBestMatch wanted candidates candidate ↔
      candidate ∈ candidates ∧ matchesSerial wanted candidate = true := by
  obtain ⟨first, hfirst, hserial⟩ := h
  constructor
  · rintro ⟨hmem, r, hr, hleast⟩
    have hzero : r ≤ 0 := hleast first hfirst 0 (rank?_eq_zero_iff.mpr hserial)
    obtain rfl := Nat.le_zero.mp hzero
    exact ⟨hmem, rank?_eq_zero_iff.mp hr⟩
  · rintro ⟨hmem, hmatch⟩
    exact ⟨hmem, 0, rank?_eq_zero_iff.mpr hmatch, fun _ _ s _ => Nat.zero_le s⟩

/-- Where no candidate has the wanted serialNumber, the best matches are those with the wanted
text. -/
theorem isBestMatch_iff_of_text (h : ∀ c ∈ candidates, matchesSerial wanted c = false) :
    IsBestMatch wanted candidates candidate ↔
      candidate ∈ candidates ∧ matchesText wanted candidate = true := by
  have hone : ∀ c ∈ candidates, ∀ s, rank? wanted c = some s → s = 1 := by
    intro c hmem s hs
    rcases rank?_cases wanted c with hrank | hrank | hrank
    · simp [hrank] at hs
    · rw [rank?_eq_zero_iff, h c hmem] at hrank
      cases hrank
    · exact Option.some.inj (hs.symm.trans hrank)
  constructor
  · rintro ⟨hmem, r, hr, -⟩
    obtain rfl := hone candidate hmem r hr
    exact ⟨hmem, rank?_eq_one_iff.mp hr⟩
  · rintro ⟨hmem, hmatch⟩
    refine ⟨hmem, 1, rank?_eq_one_iff.mpr hmatch, fun other hother s hs => ?_⟩
    exact (hone other hother s hs).ge

/-- There is a single best match if at most one candidate has the wanted serialNumber and, where
none has it, at most one has the wanted text. -/
theorem hasSingleBest_iff : HasSingleBest wanted candidates ↔
    (∀ a ∈ candidates, ∀ b ∈ candidates,
      matchesSerial wanted a = true → matchesSerial wanted b = true → a = b) ∧
    ((∀ c ∈ candidates, matchesSerial wanted c = false) → ∀ a ∈ candidates, ∀ b ∈ candidates,
      matchesText wanted a = true → matchesText wanted b = true → a = b) := by
  by_cases h : ∃ c ∈ candidates, matchesSerial wanted c = true
  · have hnot : ¬ ∀ c ∈ candidates, matchesSerial wanted c = false := by
      obtain ⟨c, hmem, hmatch⟩ := h
      intro hnone
      simp [hnone c hmem] at hmatch
    simp only [HasSingleBest, isBestMatch_iff_of_serial h, hnot, false_implies, and_true]
    grind
  · have hnone : ∀ c ∈ candidates, matchesSerial wanted c = false := by simpa using h
    simp only [HasSingleBest, isBestMatch_iff_of_text hnone]
    grind

end Matches

/-- A single best match is found in any order of the candidates. -/
theorem find?_of_perm {wanted : X509.Name} {candidates others : List X509.Certificate}
    (hperm : others.Perm candidates) (single : HasSingleBest wanted candidates) :
    find? wanted others = find? wanted candidates := by
  have hrank := rank_found_of_perm wanted hperm
  cases hfound : find? wanted candidates with
  | none => simpa [hfound] using hrank
  | some candidate =>
      cases hother : find? wanted others with
      | none => simp [hfound, hother] at hrank
      | some other =>
          have hbest : IsBestMatch wanted candidates candidate := isBestMatch_of_find? hfound
          have hbest' : IsBestMatch wanted candidates other :=
            (isBestMatch_iff_of_perm hperm).mp (isBestMatch_of_find? hother)
          rw [single other candidate hbest' hbest]

end Issuer

namespace Verification

/-- Lists that begin alike and go on with the same certificates in another order have the same
certificates. -/
theorem perm_of_take_of_drop {α : Type} {items others : List α} {n : Nat}
    (htake : others.take n = items.take n) (hdrop : (others.drop n).Perm (items.drop n)) :
    others.Perm items := by
  calc
    others = others.take n ++ others.drop n := (List.take_append_drop n others).symm
    _ = items.take n ++ others.drop n := by rw [htake]
    List.Perm _ (items.take n ++ items.drop n) := hdrop.append_left _
    _ = items := List.take_append_drop n items

/-- The order of the certificates behind the depth has no influence on the check of an unverified
list, on its result or on the URLs that it asks for, if the certificates before the depth have a
single best match each, or none. -/
theorem verifyRaw_eq_of_perm_unchecked (world : World) {policy : Policy}
    (limited : 1 ≤ policy.depth) {certificates others : List X509.Certificate}
    (checked : others.take policy.depth = certificates.take policy.depth)
    (unchecked : (others.drop policy.depth).Perm (certificates.drop policy.depth))
    (single : ∀ certificate ∈ certificates.take policy.depth,
      Issuer.HasSingleBest certificate.issuer certificates) :
    verifyRaw world policy others = verifyRaw world policy certificates := by
  have hdepth : policy.depth ≠ 0 := Nat.ne_of_gt limited
  have hwithin : ∀ list, withinDepth policy.depth list = list.take policy.depth :=
    fun _ => if_neg hdepth
  have hperm : others.Perm certificates := perm_of_take_of_drop checked unchecked
  refine verifyRaw_congr (rawTargets_congr ?_ ?_)
  · rw [hwithin, hwithin, checked]
  · intro certificate hmem
    rw [hwithin] at hmem
    exact Issuer.find?_of_perm hperm (single certificate hmem)

/-! ### A sample -/

namespace Sample

/-- A certificate with the text of the wanted name.  Its serialNumber is a string of a kind that
does not count, so that it is the second choice. -/
def decoy : X509.Certificate :=
  { certificate [] with
    subject := ⟨[[⟨Oid.ofArcs [2, 5, 4, 3], ⟨.universal, false, 12, [98]⟩⟩],
      [⟨Oid.ofArcs [2, 5, 4, 5], ⟨.universal, false, 20, [49]⟩⟩]]⟩ }

/-- The decoy, and behind it the issuer of the only certificate that is checked. -/
def decoyFirst : List X509.Certificate :=
  [{ named with subject := name 97 none, issuer := name 98 (some [49]) }, decoy,
    { certificate [] with subject := name 98 (some [49]), issuer := name 99 none }]

/-- The same certificates, the issuer in front of the decoy. -/
def issuerFirst : List X509.Certificate := decoyFirst.take 1 ++ (decoyFirst.drop 1).reverse

example : decoyFirst.map (Issuer.rank? (name 98 (some [49]))) = [none, some 1, some 0] := by
  decide +kernel

theorem hasSingleBest_decoyFirst :
    ∀ certificate ∈ decoyFirst.take 1, Issuer.HasSingleBest certificate.issuer decoyFirst := by
  intro certificate hmem
  obtain rfl := List.mem_singleton.mp hmem
  rw [Issuer.hasSingleBest_iff]
  decide +kernel

end Sample

/-- The decoy is not taken on either side of the issuer. -/
theorem verifyRaw_of_decoy :
    (∀ certificate ∈ Sample.decoyFirst.take 1,
      Issuer.HasSingleBest certificate.issuer Sample.decoyFirst) ∧
    Sample.issuerFirst ≠ Sample.decoyFirst ∧
    verifyRaw (Sample.world true) (Sample.policy true) Sample.issuerFirst =
      verifyRaw (Sample.world true) (Sample.policy true) Sample.decoyFirst := by
  have hdepth : (Sample.policy true).depth = 1 := rfl
  have unchecked : (Sample.issuerFirst.drop 1).Perm (Sample.decoyFirst.drop 1) :=
    List.reverse_perm _
  refine ⟨Sample.hasSingleBest_decoyFirst, by decide +kernel, ?_⟩
  exact verifyRaw_eq_of_perm_unchecked (Sample.world true) hdepth.ge rfl unchecked
    Sample.hasSingleBest_decoyFirst

end Verification

end RevocationCheck
