import RevocationCheck.Proofs.CalendarDates
import RevocationCheck.Proofs.WrittenElements
import RevocationCheck.X509.Time

/-!
# Times in writing

A time in a certificate or a revocation list is a whole second of the years 0 to 9999, written in
UTC: as a UTCTime from 1950 to 2049, as a GeneralizedTime otherwise.  Both readers of times find the
same instant again (`readTime_encode`, `readTime?_encode`), and an optional time counts as left out
in front of any element with another tag (`readTime?_encode_other`).
-/

namespace RevocationCheck.X509

open Calendar (Date)
open Octets (Fits)

/-- An instant that can be written: its seconds after 1970-01-01 lie in the years with four
digits. -/
structure Instant where
  seconds : Int
  not_before : -62167219200 ≤ seconds
  before : seconds < 253402300800
deriving Repr, DecidableEq

namespace Instant

/-- The instant, written in UTC. -/
def timestamp (i : Instant) : Timestamp := .utc i.seconds 0

/-- The date of an instant. -/
def date (i : Instant) : Date := Date.ofDays (i.seconds / 86400)

/-- The seconds since midnight. -/
def secondOfDay (i : Instant) : Nat := (i.seconds % 86400).toNat

/-- The parts of the written instant. -/
def written (i : Instant) : WrittenTime :=
  ⟨i.date.year.toNat, i.date.month, i.date.day, i.secondOfDay / 3600, i.secondOfDay / 60 % 60,
    i.secondOfDay % 60, 0, 0, 0⟩

end Instant

/-- A number below 100 in two digits. -/
def digitPair (n : Nat) : Octets := [UInt8.ofNat (48 + n / 10), UInt8.ofNat (48 + n % 10)]

/-- Month to second in digits, and `Z`. -/
def WrittenTime.clockText (t : WrittenTime) : Octets :=
  digitPair t.month ++ (digitPair t.day ++ (digitPair t.hour ++ (digitPair t.minute ++
    (digitPair t.second ++ [90]))))

/-- The element in which an instant is written. -/
def Instant.element (i : Instant) : Der.Element :=
  let year := i.written.year
  if 1950 ≤ year ∧ year ≤ 2049 then
    Der.primitive Der.tagUtcTime (digitPair (year % 100) ++ i.written.clockText)
  else
    Der.primitive Der.tagGeneralizedTime
      (digitPair (year / 100) ++ (digitPair (year % 100) ++ i.written.clockText))

/-! ### The parts of an instant -/

section Parts

variable (i : Instant)

theorem Instant.year_bounds : 0 ≤ i.date.year ∧ i.date.year ≤ 9999 := by
  have hbefore := i.not_before
  have hafter := i.before
  exact Calendar.year_ofDays (by omega) (by omega)

theorem Instant.date_isValid : i.date.isValid = true := Calendar.isValid_ofDays _

theorem Instant.month_bounds : 1 ≤ i.date.month ∧ i.date.month ≤ 12 :=
  Calendar.month_of_isValid i.date_isValid

theorem Instant.day_bounds : 1 ≤ i.date.day ∧ i.date.day ≤ 31 :=
  Calendar.day_of_isValid i.date_isValid

theorem Instant.secondOfDay_lt : i.secondOfDay < 86400 := by
  unfold Instant.secondOfDay
  omega

/-- The parts of an instant are those of no other instant. -/
theorem Instant.toTimestamp?_written : i.written.toTimestamp? = some i.timestamp := by
  have hyear : ((i.date.year.toNat : Nat) : Int) = i.date.year :=
    Int.toNat_of_nonneg i.year_bounds.1
  have hdate : (⟨(i.written.year : Int), i.written.month, i.written.day⟩ : Date) = i.date := by
    simp only [Instant.written, hyear]
  have hseconds : i.date.toDays * 86400 + (i.secondOfDay / 3600 : Nat) * 3600 +
      (i.secondOfDay / 60 % 60 : Nat) * 60 + (i.secondOfDay % 60 : Nat) - 0 = i.seconds := by
    have hday : (i.secondOfDay : Int) = i.seconds % 86400 := by
      unfold Instant.secondOfDay
      omega
    rw [Instant.date, Calendar.toDays_ofDays]
    omega
  -- A written time is in UTC, so that nothing is taken off for an offset.
  unfold WrittenTime.toTimestamp?
  simp only [hdate]
  rw [if_pos ⟨i.date_isValid, Nat.zero_le _, Nat.zero_le _⟩]
  simp only [Instant.written, Timestamp.ofLocal, Instant.timestamp, Timestamp.utc]
  rw [Option.some.injEq, Timestamp.mk.injEq]
  exact ⟨hseconds, rfl, rfl⟩

end Parts

/-! ### The text of an instant -/

theorem twoDigits?_digitPair {n : Nat} (h : n < 100) (rest : Octets) :
    twoDigits? (digitPair n ++ rest) = some (n, rest) := by
  have htens : (UInt8.ofNat (48 + n / 10)).toNat = 48 + n / 10 := by
    rw [UInt8.toNat_ofNat']
    omega
  have hones : (UInt8.ofNat (48 + n % 10)).toNat = 48 + n % 10 := by
    rw [UInt8.toNat_ofNat']
    omega
  simp only [digitPair, List.cons_append, List.nil_append, twoDigits?, htens, hones]
  rw [if_pos (by omega), Option.some.injEq, Prod.mk.injEq]
  exact ⟨by omega, rfl⟩

theorem monthToSecond?_clockText (i : Instant) :
    monthToSecond? i.written.clockText =
      some (i.written.month, i.written.day, i.written.hour, i.written.minute, i.written.second,
        [90]) := by
  have hmonth : i.written.month ≤ 12 := i.month_bounds.2
  have hday : i.written.day ≤ 31 := i.day_bounds.2
  have hhour : i.written.hour ≤ 23 := by
    have := i.secondOfDay_lt
    simp only [Instant.written]
    omega
  have hminute : i.written.minute ≤ 59 := by
    simp only [Instant.written]
    omega
  have hsecond : i.written.second ≤ 59 := by
    simp only [Instant.written]
    omega
  -- With `Z` behind them, the seconds are too long to count as left out.
  have hseconds : seconds? (digitPair i.written.second ++ [90]) =
      twoDigits? (digitPair i.written.second ++ [90]) := rfl
  simp only [monthToSecond?, WrittenTime.clockText, hseconds,
    twoDigits?_digitPair (Nat.lt_of_le_of_lt hmonth (by decide)),
    twoDigits?_digitPair (Nat.lt_of_le_of_lt hday (by decide)),
    twoDigits?_digitPair (Nat.lt_of_le_of_lt hhour (by decide)),
    twoDigits?_digitPair (Nat.lt_of_le_of_lt hminute (by decide)),
    twoDigits?_digitPair (Nat.lt_of_le_of_lt hsecond (by decide)), Option.bind_eq_bind,
    Option.bind_some]
  rw [if_pos ⟨hmonth, hday, hhour, hminute, hsecond⟩]

theorem ofElement?_utc (content : Octets) :
    WrittenTime.ofElement? (Der.primitive Der.tagUtcTime content) =
      WrittenTime.ofUtcText? content := rfl

theorem ofElement?_generalized (content : Octets) :
    WrittenTime.ofElement? (Der.primitive Der.tagGeneralizedTime content) =
      WrittenTime.ofGeneralizedText? content := rfl

/-- The element of an instant holds its parts. -/
theorem ofElement?_element (i : Instant) :
    WrittenTime.ofElement? i.element = some i.written := by
  have hyear : i.written.year ≤ 9999 := by
    have := i.year_bounds
    simp only [Instant.written]
    omega
  have hparts : ∀ year millisecond : Nat, year = i.written.year → millisecond = 0 →
      some (⟨year, i.written.month, i.written.day, i.written.hour, i.written.minute,
        i.written.second, millisecond, 0, 0⟩ : WrittenTime) = some i.written := by
    rintro _ _ rfl rfl
    rfl
  unfold Instant.element
  dsimp only
  split
  · -- The two digits of a year from 1950 to 2049 stand for this year.
    have hcentury : (if 50 ≤ i.written.year % 100 then 1900 + i.written.year % 100
        else 2000 + i.written.year % 100) = i.written.year := by
      split <;> omega
    rw [ofElement?_utc]
    simp only [WrittenTime.ofUtcText?, Option.bind_eq_bind,
      twoDigits?_digitPair (Nat.mod_lt _ (by decide)), monthToSecond?_clockText, Option.bind_some,
      zone?]
    exact hparts _ _ hcentury rfl
  · rw [ofElement?_generalized]
    simp only [WrittenTime.ofGeneralizedText?, Option.bind_eq_bind,
      twoDigits?_digitPair (Nat.mod_lt _ (by decide)),
      twoDigits?_digitPair (n := i.written.year / 100) (by omega), monthToSecond?_clockText,
      Option.bind_some]
    exact hparts _ _ (by omega) rfl

/-! ### Reading a written time -/

theorem Instant.tag_element (i : Instant) :
    i.element.tag = Der.tagUtcTime ∨ i.element.tag = Der.tagGeneralizedTime := by
  unfold Instant.element
  dsimp only
  split
  · exact .inl rfl
  · exact .inr rfl

/-- A written time is short, whatever it is. -/
theorem Instant.takes_element (i : Instant) :
    Der.Takes Der.Element.read i.element.encode i.element := by
  have htag : i.element.tag < 2 ^ 32 := by
    rcases i.tag_element with h | h <;> rw [h] <;> decide
  refine Der.takes_encode htag ?_
  unfold Instant.element
  dsimp only
  split <;> simp [Der.primitive, WrittenTime.clockText, digitPair, Fits, Word.bound]

section Reading

variable (i : Instant) (rest : Octets)

theorem readTime_encode : readTime (i.element.encode ++ rest) = .ok (i.timestamp, rest) := by
  simp only [readTime, i.takes_element rest, ofElement?_element, Option.bind_some,
    i.toTimestamp?_written]

theorem readTime?_encode :
    readTime? (i.element.encode ++ rest) = .ok (some i.timestamp, rest) := by
  simp only [readTime?, Der.isEmpty_encode_append, readTime?.readWritten?, i.takes_element rest,
    ofElement?_element, Option.map_some, i.toTimestamp?_written, Bool.false_eq_true, if_false]

end Reading

/-- An optional time is left out where an element with another tag stands. -/
theorem readTime?_encode_other {e : Der.Element} (htag : e.tag < 2 ^ 32) (hfits : Fits e.encode)
    (hutc : e.tag ≠ Der.tagUtcTime) (hgeneralized : e.tag ≠ Der.tagGeneralizedTime)
    (rest : Octets) : readTime? (e.encode ++ rest) = .ok (none, e.encode ++ rest) := by
  have hnone : WrittenTime.ofElement? e = none := by
    rw [WrittenTime.ofElement?, if_neg hutc, if_neg hgeneralized]
  -- Nothing else is looked at than the header and how many octets there are.
  have hlength : ¬ (e.encode ++ rest).length < e.content.length := by
    simp only [Der.Element.encode, List.length_append]
    omega
  simp only [readTime?, Der.isEmpty_encode_append, readTime?.readWritten?,
    Der.read_encode htag hfits, hnone, Option.map_none, Der.readDefinite_encode htag hfits,
    Bool.false_eq_true, if_false]
  rw [if_neg (not_or.mpr ⟨hlength, hutc⟩)]

end RevocationCheck.X509
