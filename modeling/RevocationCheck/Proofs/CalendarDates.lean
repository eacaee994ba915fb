import RevocationCheck.Calendar

/-!
# Dates and days

`Date.ofDays` gives each day its date, and `Date.toDays` finds the day again:

* `isValid_ofDays`: the date of a day is one that the calendar has;
* `toDays_ofDays`: no two days have the same date;
* `year_ofDays`: the days from 0000-01-01 to 9999-12-31 are those of the years with four digits.

All of them come from the place of a day in the cycle of 400 years (`exists_place`).  A year of the
cycle begins in March, so that its last day is the leap day if it has one.
-/

namespace RevocationCheck.Calendar

/-! ### Years of the cycle -/

/-- The days of a cycle before the year `y` of the cycle. -/
def daysBefore (y : Int) : Int := 365 * y + y / 4 - y / 100

/-- The year of the cycle to which the day `d` of the cycle belongs. -/
def yearOfDay (d : Int) : Int := (d - d / 1460 + d / 36524 - d / 146096) / 365

section Cycle

variable {d : Int}

theorem yearOfDay_bounds (h0 : 0 ≤ d) (h1 : d ≤ 146096) :
    0 ≤ yearOfDay d ∧ yearOfDay d ≤ 399 := by
  unfold yearOfDay
  omega

/-- A day belongs to the year that has begun on it or before, and is one of its 366 days. -/
theorem dayOfYear_bounds (h0 : 0 ≤ d) (h1 : d ≤ 146096) :
    0 ≤ d - daysBefore (yearOfDay d) ∧ d - daysBefore (yearOfDay d) ≤ 365 := by
  unfold daysBefore
  generalize hy : yearOfDay d = y
  unfold yearOfDay at hy
  have hlast : d / 146096 = 0 ∨ d = 146096 := by omega
  have hcentury : y / 100 = 0 ∨ y / 100 = 1 ∨ y / 100 = 2 ∨ y / 100 = 3 := by omega
  rcases hlast with hlast | rfl
  · have hpassed : d / 36524 = 0 ∨ d / 36524 = 1 ∨ d / 36524 = 2 ∨ d / 36524 = 3 ∨
        d / 36524 = 4 := by omega
    -- With the two counts of centuries fixed, what is left is linear.
    rcases hpassed with hpassed | hpassed | hpassed | hpassed | hpassed <;>
      rcases hcentury with hcentury | hcentury | hcentury | hcentury <;>
      rw [hpassed, hlast] at hy <;> rw [hcentury] <;> omega
  · omega

/-- A year with a 366th day ends with a leap day: the January and February that end it belong to a
leap year. -/
theorem leap_of_dayOfYear (h0 : 0 ≤ d) (h1 : d ≤ 146096)
    (h : d - daysBefore (yearOfDay d) = 365) :
    (yearOfDay d + 1) % 4 = 0 ∧ ((yearOfDay d + 1) % 100 ≠ 0 ∨ (yearOfDay d + 1) % 400 = 0) := by
  unfold daysBefore at h
  generalize hy : yearOfDay d = y at h
  unfold yearOfDay at hy
  have hcentenary : y ≠ 99 ∧ y ≠ 199 ∧ y ≠ 299 := by
    refine ⟨?_, ?_, ?_⟩ <;> rintro rfl <;> omega
  have hlast : d / 146096 = 0 ∨ d = 146096 := by omega
  have hcentury : y / 100 = 0 ∨ y / 100 = 1 ∨ y / 100 = 2 ∨ y / 100 = 3 := by omega
  rcases hlast with hlast | rfl
  · have hpassed : d / 36524 = y / 100 := by
      rcases hcentury with hcentury | hcentury | hcentury | hcentury <;> omega
    have hfourth : (y + 1) % 4 = 0 := by
      obtain ⟨q, r, rfl, hr⟩ : ∃ q r : Int, y = 4 * q + r ∧ (r = 0 ∨ r = 1 ∨ r = 2 ∨ r = 3) :=
        ⟨y / 4, y % 4, by omega, by omega⟩
      rcases hr with rfl | rfl | rfl | rfl <;> omega
    omega
  · omega

end Cycle

/-! ### The place of a day -/

/-- The days of a year, counted from March, before its month `m`. -/
def daysBeforeMonth (m : Int) : Int := (153 * m + 2) / 5

/-- The date of a day from its place: the cycle, the year of the cycle, and the day of the year,
which is one of the month `m`. -/
def dateOfPlace (cycle y day m : Int) : Date :=
  ⟨400 * cycle + y + (if m < 10 then 0 else 1), (if m < 10 then m + 3 else m - 9).toNat,
    (day - daysBeforeMonth m + 1).toNat⟩

theorem month_bounds {day m : Int} (h0 : 0 ≤ day) (h1 : day ≤ 365)
    (hm : m = (5 * day + 2) / 153) :
    0 ≤ m ∧ m ≤ 11 ∧ daysBeforeMonth m ≤ day ∧ day < daysBeforeMonth (m + 1) := by
  unfold daysBeforeMonth
  omega

/-- The date of a day is the date of its place. -/
theorem ofDays_eq_dateOfPlace (days : Int) :
    let cycle := (days + 719468) / 146097
    let d := days + 719468 - cycle * 146097
    let day := d - daysBefore (yearOfDay d)
    Date.ofDays days = dateOfPlace cycle (yearOfDay d) day ((5 * day + 2) / 153) := by
  intro cycle d day
  have hcycle : Int.fdiv (days + 719468) 146097 = cycle :=
    Int.fdiv_eq_ediv_of_nonneg _ (by decide)
  have hmonths : 0 ≤ (5 * day + 2) / 153 ∧ (5 * day + 2) / 153 ≤ 11 := by
    obtain ⟨h0, h1⟩ := dayOfYear_bounds (d := d) (by omega) (by omega)
    omega
  have hofDays : Date.ofDays days =
      (let m := (5 * day + 2) / 153
       let month := if m < 10 then m + 3 else m - 9
       let year := yearOfDay d + cycle * 400
       ⟨if month ≤ 2 then year + 1 else year, month.toNat,
        (day - (153 * m + 2) / 5 + 1).toNat⟩) := by
    simp only [Date.ofDays, hcycle]
    rfl
  rw [hofDays]
  generalize (5 * day + 2) / 153 = m at hmonths
  generalize yearOfDay d = y
  unfold dateOfPlace daysBeforeMonth
  -- From March on the calendar year is the one of the cycle.
  by_cases hspring : m < 10
  · have hmonth : ¬ m + 3 ≤ 2 := by omega
    simp only [if_pos hspring, if_neg hmonth, Date.mk.injEq, and_true]
    omega
  · have hmonth : m - 9 ≤ 2 := by omega
    simp only [if_neg hspring, if_pos hmonth, Date.mk.injEq, and_true]
    omega

/-- Every day has a place. -/
theorem exists_place (days : Int) :
    ∃ cycle y day : Int, 0 ≤ y ∧ y ≤ 399 ∧ 0 ≤ day ∧ day ≤ 365 ∧
      (day = 365 → (y + 1) % 4 = 0 ∧ ((y + 1) % 100 ≠ 0 ∨ (y + 1) % 400 = 0)) ∧
      days + 719468 = 146097 * cycle + daysBefore y + day ∧
      Date.ofDays days = dateOfPlace cycle y day ((5 * day + 2) / 153) := by
  have heq := ofDays_eq_dateOfPlace days
  dsimp only at heq
  generalize hcycle : (days + 719468) / 146097 = cycle at heq
  generalize hd : days + 719468 - cycle * 146097 = d at heq
  have h0 : 0 ≤ d := by omega
  have h1 : d ≤ 146096 := by omega
  obtain ⟨hy0, hy1⟩ := yearOfDay_bounds h0 h1
  obtain ⟨hday0, hday1⟩ := dayOfYear_bounds h0 h1
  exact ⟨cycle, yearOfDay d, d - daysBefore (yearOfDay d), hy0, hy1, hday0, hday1,
    leap_of_dayOfYear h0 h1, by omega, heq⟩

/-! ### Dates of days -/

theorem toDays_dateOfPlace {cycle y day m : Int} (hy0 : 0 ≤ y) (hy1 : y ≤ 399) (hm0 : 0 ≤ m)
    (hm1 : m ≤ 11) (hfrom : daysBeforeMonth m ≤ day) :
    (dateOfPlace cycle y day m).toDays = 146097 * cycle + daysBefore y + day - 719468 := by
  -- January and February are in the next calendar year, and counted back to the one before.
  obtain ⟨date, hdate⟩ : ∃ date, date = dateOfPlace cycle y day m := ⟨_, rfl⟩
  have hmonth : (((date.month + 9) % 12 : Nat) : Int) = m := by
    simp only [hdate, dateOfPlace]
    split <;> omega
  have hyear : (if date.month ≤ 2 then date.year - 1 else date.year) = 400 * cycle + y := by
    simp only [hdate, dateOfPlace]
    split <;> split <;> omega
  have hcycle : Int.fdiv (400 * cycle + y) 400 = cycle := by
    rw [Int.fdiv_eq_ediv_of_nonneg _ (by decide)]
    omega
  have hday : (date.day : Int) = day - (153 * m + 2) / 5 + 1 := by
    unfold daysBeforeMonth at hfrom
    simp only [hdate, dateOfPlace, daysBeforeMonth]
    omega
  have hy : 400 * cycle + y - cycle * 400 = y := by omega
  rw [← hdate]
  simp only [Date.toDays, hmonth, hyear, hcycle, hday, hy, daysBefore]
  omega

theorem toDays_ofDays (days : Int) : (Date.ofDays days).toDays = days := by
  obtain ⟨cycle, y, day, hy0, hy1, hday0, hday1, -, hdays, heq⟩ := exists_place days
  obtain ⟨hm0, hm1, hfrom, -⟩ := month_bounds hday0 hday1 rfl
  rw [heq, toDays_dateOfPlace hy0 hy1 hm0 hm1 hfrom]
  omega

/-- The days of the month `m` of a year that begins in March: all of them but those of the last
month are the days before the next one. -/
theorem daysInMonth_dateOfPlace (cycle y day : Int) {m : Int} (hm0 : 0 ≤ m) (hm1 : m ≤ 11) :
    (daysInMonth (dateOfPlace cycle y day m).year (dateOfPlace cycle y day m).month : Int) =
      if m = 11 then (if isLeapYear (400 * cycle + y + 1) then 29 else 28)
      else daysBeforeMonth (m + 1) - daysBeforeMonth m := by
  have hcases : m = 0 ∨ m = 1 ∨ m = 2 ∨ m = 3 ∨ m = 4 ∨ m = 5 ∨ m = 6 ∨ m = 7 ∨ m = 8 ∨ m = 9 ∨
      m = 10 ∨ m = 11 := by omega
  -- Only the length of February depends on the year.
  have hfebruary : (((if isLeapYear (400 * cycle + y + 1) then 29 else 28 : Nat)) : Int) =
      if isLeapYear (400 * cycle + y + 1) then 29 else 28 := by
    split <;> rfl
  rcases hcases with rfl | rfl | rfl | rfl | rfl | rfl | rfl | rfl | rfl | rfl | rfl | rfl <;>
    first | exact hfebruary | rfl

theorem isLeapYear_place {cycle y : Int} (h4 : (y + 1) % 4 = 0)
    (h100 : (y + 1) % 100 ≠ 0 ∨ (y + 1) % 400 = 0) : isLeapYear (400 * cycle + y + 1) = true := by
  simp only [isLeapYear, Bool.and_eq_true, Bool.or_eq_true, decide_eq_true_eq]
  omega

theorem isValid_ofDays (days : Int) : (Date.ofDays days).isValid = true := by
  obtain ⟨cycle, y, day, hy0, hy1, hday0, hday1, hleap, -, heq⟩ := exists_place days
  obtain ⟨hm0, hm1, hfrom, hto⟩ := month_bounds hday0 hday1 rfl
  rw [heq]
  generalize (5 * day + 2) / 153 = m at hm0 hm1 hfrom hto
  have hlast := daysInMonth_dateOfPlace cycle y day hm0 hm1
  have hday : (dateOfPlace cycle y day m).day = (day - daysBeforeMonth m + 1).toNat := rfl
  simp only [Date.isValid, Bool.and_eq_true, decide_eq_true_eq]
  refine ⟨by omega, ?_⟩
  -- A day of another month comes before the next month; the last day of the year needs a leap year.
  by_cases hfebruary : m = 11
  · subst hfebruary
    rw [if_pos rfl] at hlast
    have hbefore : daysBeforeMonth 11 = 337 := rfl
    by_cases hend : day = 365
    · obtain ⟨h4, h100⟩ := hleap hend
      rw [if_pos (isLeapYear_place h4 h100)] at hlast
      omega
    · have hshort : (28 : Int) ≤ if isLeapYear (400 * cycle + y + 1) then 29 else 28 := by
        split <;> omega
      omega
  · rw [if_neg hfebruary] at hlast
    omega

/-- The days from 0000-01-01 to 9999-12-31 are those of the years with four digits. -/
theorem year_ofDays {days : Int} (h0 : -719528 ≤ days) (h1 : days ≤ 2932896) :
    0 ≤ (Date.ofDays days).year ∧ (Date.ofDays days).year ≤ 9999 := by
  obtain ⟨cycle, y, day, hy0, hy1, hday0, hday1, -, hdays, heq⟩ := exists_place days
  obtain ⟨hm0, hm1, hfrom, hto⟩ := month_bounds hday0 hday1 rfl
  rw [heq]
  generalize (5 * day + 2) / 153 = m at hm0 hm1 hfrom hto
  have hcycle : cycle = -1 ∨ (0 ≤ cycle ∧ cycle ≤ 23) ∨ cycle = 24 := by
    unfold daysBefore at hdays
    omega
  have hcentury : y / 100 = 0 ∨ y / 100 = 1 ∨ y / 100 = 2 ∨ y / 100 = 3 := by omega
  unfold daysBefore at hdays
  unfold daysBeforeMonth at hfrom hto
  simp only [dateOfPlace]
  -- Only the first cycle and the last one are cut by the bounds.
  rcases hcycle with rfl | hcycle | rfl <;>
    rcases hcentury with hcentury | hcentury | hcentury | hcentury <;> rw [hcentury] at hdays <;>
    split <;> omega

/-! ### Months and days of dates -/

theorem month_of_isValid {date : Date} (h : date.isValid = true) :
    1 ≤ date.month ∧ date.month ≤ 12 := by
  simp only [Date.isValid, Bool.and_eq_true, decide_eq_true_eq] at h
  by_cases hmonth : 1 ≤ date.month ∧ date.month ≤ 12
  · exact hmonth
  · -- A number that is no month has no days.
    have hdays : daysInMonth date.year date.month = 0 := by
      unfold daysInMonth
      split <;> first | rfl | omega
    omega

theorem daysInMonth_le (year : Int) (month : Nat) : daysInMonth year month ≤ 31 := by
  unfold daysInMonth
  cases isLeapYear year <;> split <;> decide

theorem day_of_isValid {date : Date} (h : date.isValid = true) :
    1 ≤ date.day ∧ date.day ≤ 31 := by
  simp only [Date.isValid, Bool.and_eq_true, decide_eq_true_eq] at h
  have hmonth := daysInMonth_le date.year date.month
  omega

end RevocationCheck.Calendar
