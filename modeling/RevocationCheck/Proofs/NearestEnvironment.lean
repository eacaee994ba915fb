import Mathlib.Tactic.ByContra
import RevocationCheck.CommandLine

/-!
# The nearest environment file

A run takes up one environment file, from its working directory or from a directory above.  The
search goes upwards and ends at the first level that is not passed over (`IsPassed`); it comes to a
file if and only if that file is the nearest one (`findEnvironment?_levels_eq_some_iff`).  What
becomes of the environment is `Surrounds`, and `surroundings?_eq_iff` says that nothing else does.
-/

namespace RevocationCheck.CommandLine

/-- The search for an environment file passes a level over: there is none, or a directory of its
name. -/
def IsPassed (files : FileSystem) (level : Nat) : Prop :=
  files (environmentFile level) = .error .notFound ∨
    files (environmentFile level) = .error .isADirectory

/-- The nearest environment file: all levels below it are passed over. -/
def IsNearest (files : FileSystem) (parents : Nat) (data : Octets) : Prop :=
  ∃ level ≤ parents, files (environmentFile level) = .ok data ∧
    ∀ nearer < level, IsPassed files nearer

/-- What becomes of the environment: the nearest environment file adds to it, which may be more than
it can hold, and without such a file it stays as it is. -/
inductive Surrounds (files : FileSystem) (parents : Nat) (environment : Settings.Environment) :
    Option Settings.Environment → Prop
  | file {data : Octets} (nearest : IsNearest files parents data) :
      Surrounds files parents environment (Settings.EnvironmentFile.load? data environment)
  | noFile (none : ∀ data, ¬ IsNearest files parents data) :
      Surrounds files parents environment (some environment)

/-! ### The search -/

variable {files : FileSystem} {parents : Nat} {environment : Settings.Environment}

theorem findEnvironment?_cons_of_passed {level : Nat} {above : List Nat}
    (h : IsPassed files level) :
    findEnvironment? files (level :: above) = findEnvironment? files above := by
  rw [findEnvironment?]
  rcases h with h | h <;> rw [h]

theorem findEnvironment?_cons_of_error {level : Nat} {above : List Nat} {fault : FileFault}
    (hread : files (environmentFile level) = .error fault) (h : ¬ IsPassed files level) :
    findEnvironment? files (level :: above) = none := by
  rw [findEnvironment?, hread]
  split
  case h_1 heq => cases heq
  case h_2 heq => exact absurd (.inl (hread.trans heq)) h
  case h_3 heq => exact absurd (.inr (hread.trans heq)) h
  case h_4 => rfl

/-- The search ends at the first level that is not passed over, and finds something if there is a
file. -/
theorem findEnvironment?_range'_eq_some_iff {start count : Nat} {data : Octets} :
    findEnvironment? files (List.range' start count) = some data ↔
      ∃ level, start ≤ level ∧ level < start + count ∧
        files (environmentFile level) = .ok data ∧
        ∀ nearer, start ≤ nearer → nearer < level → IsPassed files nearer := by
  induction count generalizing start with
  | zero =>
      refine iff_of_false nofun ?_
      rintro ⟨level, hstart, hend, -⟩
      omega
  | succ count ih =>
      rw [List.range'_succ]
      by_cases hpassed : IsPassed files start
      · rw [findEnvironment?_cons_of_passed hpassed, ih]
        refine exists_congr fun level => ⟨?_, ?_⟩
        · rintro ⟨hstart, hend, hread, hall⟩
          refine ⟨by omega, by omega, hread, fun nearer hle hlt => ?_⟩
          rcases Nat.eq_or_lt_of_le hle with rfl | hlt'
          · exact hpassed
          · exact hall nearer hlt' hlt
        · rintro ⟨hstart, hend, hread, hall⟩
          have hne : start ≠ level := by
            rintro rfl
            rcases hpassed with hpassed | hpassed <;> simp [hread] at hpassed
          exact ⟨by omega, by omega, hread, fun nearer hle => hall nearer (by omega)⟩
      · -- The level where the search starts is the last one that counts.
        have hhere : ∀ level, start ≤ level →
            (∀ nearer, start ≤ nearer → nearer < level → IsPassed files nearer) →
            level = start := by
          intro level hle hall
          by_contra hne
          exact hpassed (hall start (Nat.le_refl start) (by omega))
        cases hread : files (environmentFile start) with
        | ok found =>
            rw [findEnvironment?, hread]
            constructor
            · intro h
              exact ⟨start, by omega, by omega, hread.trans (congrArg _ (Option.some.inj h)),
                fun nearer hle hlt => by omega⟩
            · rintro ⟨level, hle, -, hdata, hall⟩
              rw [hhere level hle hall, hread] at hdata
              exact congrArg some (Except.ok.inj hdata)
        | error fault =>
            rw [findEnvironment?_cons_of_error hread hpassed]
            refine iff_of_false nofun ?_
            rintro ⟨level, hle, -, hdata, hall⟩
            rw [hhere level hle hall, hread] at hdata
            cases hdata

theorem findEnvironment?_levels_eq_some_iff {data : Octets} :
    findEnvironment? files (levels parents) = some data ↔ IsNearest files parents data := by
  rw [levels, List.range_eq_range', findEnvironment?_range'_eq_some_iff, IsNearest]
  simp only [Nat.zero_le, true_and, true_implies, Nat.zero_add, Nat.lt_succ_iff]

theorem surroundings?_eq_iff {result : Option Settings.Environment} :
    surroundings? files parents environment = result ↔
      Surrounds files parents environment result := by
  unfold surroundings?
  cases hfound : findEnvironment? files (levels parents) with
  | none =>
      have hnone : ∀ data, ¬ IsNearest files parents data := by
        intro data hnearest
        rw [findEnvironment?_levels_eq_some_iff.mpr hnearest] at hfound
        cases hfound
      constructor
      · rintro rfl
        exact .noFile hnone
      · intro h
        cases h with
        | file nearest => exact absurd nearest (hnone _)
        | noFile => rfl
  | some data =>
      have hnearest := findEnvironment?_levels_eq_some_iff.mp hfound
      constructor
      · rintro rfl
        exact .file hnearest
      · intro h
        cases h with
        | file nearest =>
            cases (findEnvironment?_levels_eq_some_iff.mpr nearest).symm.trans hfound
            rfl
        | noFile none => exact absurd hnearest (none data)

end RevocationCheck.CommandLine
