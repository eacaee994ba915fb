import Mathlib.Data.Prod.Lex
import RevocationCheck.Issuer

/-!
# The best match for an issuer name

The search for an issuer makes two passes over the candidates.  This module says the same as one
choice: a candidate has a rank (`rank?`), and the search takes the one whose rank, and then whose
index, is least (`isBest_iff`).

What follows does not mention the passes any more.  A serialNumber that contradicts the wanted one
leaves a candidate without a rank; more candidates behind the others can only better the rank; and
the rank of what is found is the least one in the list, whatever its order (`IsBestMatch`).
-/

namespace RevocationCheck.Issuer

/-- The rank of a candidate for an issuer name.  It is zero if both have a serialNumber and it is
the same; it is one if the texts are the same and at least one of the two has no serialNumber.  Any
other candidate has no rank. -/
def rank? (wanted : X509.Name) (candidate : X509.Certificate) : Option Nat :=
  if candidate.subject.serialNumber ≠ "" ∧ wanted.serialNumber ≠ "" ∧
      candidate.subject.serialNumber = wanted.serialNumber then some 0
  else if (candidate.subject.serialNumber = "" ∨ wanted.serialNumber = "") ∧
      candidate.subject.text = wanted.text then some 1
  else none

/-- The rank of the candidate at a position. -/
def rankAt? (wanted : X509.Name) (candidates : List X509.Certificate) (i : Nat) : Option Nat :=
  candidates[i]?.bind (rank? wanted)

/-- The candidate at position `i` has a rank, and no other one has a smaller rank, or the same rank
and a smaller position. -/
def IsBest (wanted : X509.Name) (candidates : List X509.Certificate) (i : Nat) : Prop :=
  ∃ r, rankAt? wanted candidates i = some r ∧
    ∀ j s, rankAt? wanted candidates j = some s → toLex (r, i) ≤ toLex (s, j)

/-- A candidate has a rank, and no candidate has a smaller one. -/
def IsBestMatch (wanted : X509.Name) (candidates : List X509.Certificate)
    (candidate : X509.Certificate) : Prop :=
  candidate ∈ candidates ∧ ∃ r, rank? wanted candidate = some r ∧
    ∀ other ∈ candidates, ∀ s, rank? wanted other = some s → r ≤ s

variable {wanted : X509.Name} {candidates : List X509.Certificate} {candidate : X509.Certificate}

/-! ### Ranks and the two ways to match -/

theorem rank?_eq_zero_iff : rank? wanted candidate = some 0 ↔ matchesSerial wanted candidate := by
  rw [matchesSerial_iff]
  unfold rank?
  grind

theorem rank?_eq_one_iff : rank? wanted candidate = some 1 ↔ matchesText wanted candidate := by
  rw [matchesText_iff]
  unfold rank?
  grind

theorem rank?_cases (wanted : X509.Name) (candidate : X509.Certificate) :
    rank? wanted candidate = none ∨ rank? wanted candidate = some 0 ∨
      rank? wanted candidate = some 1 := by
  unfold rank?
  grind

theorem rank?_eq_none_iff : rank? wanted candidate = none ↔
    matchesSerial wanted candidate = false ∧ matchesText wanted candidate = false := by
  rw [← Bool.not_eq_true, ← Bool.not_eq_true, ← rank?_eq_zero_iff, ← rank?_eq_one_iff]
  rcases rank?_cases wanted candidate with h | h | h <;> simp [h]

theorem rankAt?_eq_some_iff {i r : Nat} : rankAt? wanted candidates i = some r ↔
    ∃ h : i < candidates.length, rank? wanted candidates[i] = some r := by
  unfold rankAt?
  rw [Option.bind_eq_some_iff]
  simp only [List.getElem?_eq_some_iff]
  constructor
  · rintro ⟨candidate, ⟨h, rfl⟩, hrank⟩
    exact ⟨h, hrank⟩
  · rintro ⟨h, hrank⟩
    exact ⟨_, ⟨h, rfl⟩, hrank⟩

/-! ### The choice -/

/-- Only one position is the best. -/
theorem IsBest.unique {i j : Nat} (hi : IsBest wanted candidates i)
    (hj : IsBest wanted candidates j) : i = j := by
  obtain ⟨r, hr, hleast⟩ := hi
  obtain ⟨s, hs, hleast'⟩ := hj
  have heq := le_antisymm (hleast j s hs) (hleast' i r hr)
  exact (Prod.mk.inj (toLex.injective heq)).2

/-- The first candidate with the wanted serialNumber is the best one. -/
theorem isBest_of_serial {i : Nat}
    (h : candidates.findIdx? (matchesSerial wanted) = some i) : IsBest wanted candidates i := by
  obtain ⟨hi, hmatch, hfirst⟩ := List.findIdx?_eq_some_iff_getElem.mp h
  refine ⟨0, rankAt?_eq_some_iff.mpr ⟨hi, rank?_eq_zero_iff.mpr hmatch⟩, fun j s hs => ?_⟩
  obtain ⟨hj, hrank⟩ := rankAt?_eq_some_iff.mp hs
  rw [Prod.Lex.toLex_le_toLex]
  rcases Nat.eq_zero_or_pos s with rfl | hpos
  · refine .inr ⟨rfl, Nat.le_of_not_lt fun hlt => ?_⟩
    exact hfirst j hlt (rank?_eq_zero_iff.mp hrank)
  · exact .inl hpos

/-- Where no candidate has the wanted serialNumber, the first one with the wanted text is the best
one. -/
theorem isBest_of_text {i : Nat} (hnone : candidates.findIdx? (matchesSerial wanted) = none)
    (h : candidates.findIdx? (matchesText wanted) = some i) : IsBest wanted candidates i := by
  obtain ⟨hi, hmatch, hfirst⟩ := List.findIdx?_eq_some_iff_getElem.mp h
  refine ⟨1, rankAt?_eq_some_iff.mpr ⟨hi, rank?_eq_one_iff.mpr hmatch⟩, fun j s hs => ?_⟩
  obtain ⟨hj, hrank⟩ := rankAt?_eq_some_iff.mp hs
  have hserial : matchesSerial wanted candidates[j] = false :=
    List.findIdx?_eq_none_iff.mp hnone _ (List.getElem_mem hj)
  rw [Prod.Lex.toLex_le_toLex]
  -- The rank zero is not given in this list, so that positions decide.
  rcases rank?_cases wanted candidates[j] with hother | hother | hother
  · simp [hother] at hrank
  · simp [rank?_eq_zero_iff.mp hother] at hserial
  · obtain rfl : 1 = s := Option.some.inj (hother.symm.trans hrank)
    refine .inr ⟨rfl, Nat.le_of_not_lt fun hlt => ?_⟩
    exact hfirst j hlt (rank?_eq_one_iff.mp hother)

theorem isBest_of_findIndex? {i : Nat} (h : findIndex? wanted candidates = some i) :
    IsBest wanted candidates i := by
  rw [findIndex?_eq_or] at h
  cases hserial : candidates.findIdx? (matchesSerial wanted) with
  | some k =>
      rw [hserial, Option.some_or] at h
      exact Option.some.inj h ▸ isBest_of_serial hserial
  | none =>
      rw [hserial, Option.none_or] at h
      exact isBest_of_text hserial h

theorem findIndex?_eq_none_iff : findIndex? wanted candidates = none ↔
    ∀ candidate ∈ candidates, rank? wanted candidate = none := by
  rw [findIndex?_eq_or, Option.or_eq_none_iff, List.findIdx?_eq_none_iff,
    List.findIdx?_eq_none_iff]
  simp only [rank?_eq_none_iff]
  exact forall₂_and.symm

/-- Where some candidate has a rank, the search ends at one. -/
theorem exists_findIndex?_of_rank {r : Nat} (hmem : candidate ∈ candidates)
    (hrank : rank? wanted candidate = some r) : ∃ i, findIndex? wanted candidates = some i := by
  rw [← Option.isSome_iff_exists, Option.isSome_iff_ne_none]
  intro hnone
  rw [findIndex?_eq_none_iff.mp hnone candidate hmem] at hrank
  cases hrank

/-- The search takes the best position. -/
theorem isBest_iff {i : Nat} :
    findIndex? wanted candidates = some i ↔ IsBest wanted candidates i := by
  constructor
  · exact isBest_of_findIndex?
  · intro hbest
    have ⟨r, hr, _⟩ := hbest
    obtain ⟨hi, hrank⟩ := rankAt?_eq_some_iff.mp hr
    obtain ⟨k, hk⟩ := exists_findIndex?_of_rank (List.getElem_mem hi) hrank
    rw [hk, (isBest_of_findIndex? hk).unique hbest]

/-! ### What is found -/

theorem find?_of_findIndex? {i : Nat} (h : findIndex? wanted candidates = some i) :
    ∃ hi : i < candidates.length, find? wanted candidates = some candidates[i] := by
  obtain ⟨r, hr, -⟩ := isBest_iff.mp h
  obtain ⟨hi, -⟩ := rankAt?_eq_some_iff.mp hr
  exact ⟨hi, by simp [find?_eq_bind, h, hi]⟩

theorem find?_eq_none_iff : find? wanted candidates = none ↔
    ∀ candidate ∈ candidates, rank? wanted candidate = none := by
  rw [← findIndex?_eq_none_iff]
  cases h : findIndex? wanted candidates with
  | none => simp [find?_eq_bind, h]
  | some i =>
      obtain ⟨hi, hfind⟩ := find?_of_findIndex? h
      simp [hfind]

/-- What is found is the best of the candidates. -/
theorem isBestMatch_of_find? (h : find? wanted candidates = some candidate) :
    IsBestMatch wanted candidates candidate := by
  cases hindex : findIndex? wanted candidates with
  | none => simp [find?_eq_bind, hindex] at h
  | some i =>
      obtain ⟨hi, hfind⟩ := find?_of_findIndex? hindex
      obtain rfl : candidates[i] = candidate := Option.some.inj (hfind.symm.trans h)
      obtain ⟨r, hr, hleast⟩ := isBest_iff.mp hindex
      obtain ⟨_, hrank⟩ := rankAt?_eq_some_iff.mp hr
      refine ⟨List.getElem_mem hi, r, hrank, fun other hother s hs => ?_⟩
      obtain ⟨j, hj, rfl⟩ := List.mem_iff_getElem.mp hother
      have hle := hleast j s (rankAt?_eq_some_iff.mpr ⟨hj, hs⟩)
      rw [Prod.Lex.toLex_le_toLex] at hle
      omega

/-- The best matches are found in any order of the candidates. -/
theorem isBestMatch_iff_of_perm {others : List X509.Certificate} (h : others.Perm candidates) :
    IsBestMatch wanted others candidate ↔ IsBestMatch wanted candidates candidate := by
  simp only [IsBestMatch, h.mem_iff]

/-- Best matches have the same rank. -/
theorem IsBestMatch.rank?_eq {other : X509.Certificate}
    (h : IsBestMatch wanted candidates candidate) (h' : IsBestMatch wanted candidates other) :
    rank? wanted candidate = rank? wanted other := by
  obtain ⟨hmem, r, hr, hleast⟩ := h
  obtain ⟨hmem', s, hs, hleast'⟩ := h'
  rw [hr, hs, le_antisymm (hleast other hmem' s hs) (hleast' candidate hmem r hr)]

/-- The rank of what is found does not depend on the order of the candidates. -/
theorem rank_found_of_perm (wanted : X509.Name) {others : List X509.Certificate}
    (h : others.Perm candidates) :
    (find? wanted others).map (rank? wanted) = (find? wanted candidates).map (rank? wanted) := by
  cases hfound : find? wanted candidates with
  | none =>
      have hnone : find? wanted others = none := by
        rw [find?_eq_none_iff] at hfound ⊢
        exact fun candidate hmem => hfound candidate (h.mem_iff.mp hmem)
      rw [hnone]
  | some candidate =>
      have hbest := isBestMatch_of_find? hfound
      cases hother : find? wanted others with
      | none =>
          obtain ⟨hmem, r, hr, -⟩ := hbest
          rw [find?_eq_none_iff.mp hother candidate (h.mem_iff.mpr hmem)] at hr
          cases hr
      | some other =>
          have hbest' := (isBestMatch_iff_of_perm h).mp (isBestMatch_of_find? hother)
          rw [Option.map_some, Option.map_some, hbest'.rank?_eq hbest]

/-- A match by serialNumber stays the best one when candidates are put behind the others. -/
theorem isBest_append_of_serial {i : Nat} (h : IsBest wanted candidates i)
    (hserial : rankAt? wanted candidates i = some 0) (more : List X509.Certificate) :
    IsBest wanted (candidates ++ more) i := by
  obtain ⟨r, hr, hleast⟩ := h
  obtain rfl : 0 = r := Option.some.inj (hserial.symm.trans hr)
  obtain ⟨hi, hrank⟩ := rankAt?_eq_some_iff.mp hr
  refine ⟨0, rankAt?_eq_some_iff.mpr ⟨by simp; omega, by simpa [hi] using hrank⟩, fun j s hs => ?_⟩
  by_cases hj : j < candidates.length
  · have hsame : rankAt? wanted (candidates ++ more) j = rankAt? wanted candidates j := by
      simp [rankAt?, List.getElem?_append_left hj]
    exact hleast j s (hsame ▸ hs)
  · rw [Prod.Lex.toLex_le_toLex]
    dsimp only
    omega

/-- The search for an issuer takes the candidate whose rank, and then whose position, is least, and
finds none if and only if no candidate has a rank.

So a candidate whose serialNumber contradicts the wanted one is never taken.  Candidates behind the
others do not turn a match into none, and do not change a match by serialNumber.  And whether there
is a match, and which rank it has, does not depend on the order of the candidates. -/
theorem search_takes_least_rank (wanted : X509.Name) (candidates : List X509.Certificate) :
    (∀ i, findIndex? wanted candidates = some i ↔ IsBest wanted candidates i) ∧
    (findIndex? wanted candidates = none ↔
      ∀ candidate ∈ candidates, rank? wanted candidate = none) ∧
    (find? wanted candidates = (findIndex? wanted candidates).bind fun i => candidates[i]?) ∧
    (∀ candidate, candidate.subject.serialNumber ≠ "" → wanted.serialNumber ≠ "" →
      candidate.subject.serialNumber ≠ wanted.serialNumber →
        find? wanted candidates ≠ some candidate) ∧
    (∀ more i, findIndex? wanted candidates = some i →
      (∃ j, findIndex? wanted (candidates ++ more) = some j) ∧
      (rankAt? wanted candidates i = some 0 →
        findIndex? wanted (candidates ++ more) = some i)) ∧
    ∀ others, others.Perm candidates →
      (find? wanted others).isSome = (find? wanted candidates).isSome ∧
      (find? wanted others).map (rank? wanted) = (find? wanted candidates).map (rank? wanted) := by
  refine ⟨fun i => isBest_iff, findIndex?_eq_none_iff, rfl, ?_, ?_, ?_⟩
  · intro candidate hserial hwanted hne hfound
    obtain ⟨-, r, hrank, -⟩ := isBestMatch_of_find? hfound
    simp [rank?, hserial, hwanted, hne] at hrank
  · intro more i hindex
    have hbest := isBest_iff.mp hindex
    refine ⟨?_, fun hserial => isBest_iff.mpr (isBest_append_of_serial hbest hserial more)⟩
    obtain ⟨r, hr, -⟩ := hbest
    obtain ⟨hi, hrank⟩ := rankAt?_eq_some_iff.mp hr
    exact exists_findIndex?_of_rank (List.mem_append_left more (List.getElem_mem hi)) hrank
  · intro others hperm
    have hrank := rank_found_of_perm wanted hperm
    refine ⟨?_, hrank⟩
    simpa using congrArg Option.isSome hrank

end RevocationCheck.Issuer
