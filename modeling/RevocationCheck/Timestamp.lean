import RevocationCheck.Calendar

/-!
# Points in time

A timestamp is an instant to the nanosecond together with the offset from UTC in which it was
written.  The offset matters for the text alone; comparison looks at the instant.
-/

namespace RevocationCheck

/-- An instant, counted from 1970-01-01 00:00:00 UTC, and the offset it is written with. -/
structure Timestamp where
  /-- Whole seconds, rounded down. -/
  seconds : Int
  /-- Nanoseconds after the whole second. -/
  nanos : Nat
  /-- Seconds that local time is ahead of UTC. -/
  offset : Int
deriving Repr, DecidableEq

namespace Timestamp

/-- An instant written in UTC. -/
def utc (seconds : Int) (nanos : Nat) : Timestamp := ⟨seconds, nanos, 0⟩

/-- The instant of a local date and time of day. -/
def ofLocal (date : Calendar.Date) (hour minute second nanos : Nat) (offset : Int) :
    Timestamp :=
  ⟨date.toDays * 86400 + hour * 3600 + minute * 60 + second - offset, nanos, offset⟩

/-- Is the instant strictly after another one? -/
def isAfter (a b : Timestamp) : Bool :=
  b.seconds < a.seconds || (a.seconds = b.seconds && b.nanos < a.nanos)

/-- The order of instants, whatever offsets they are written with. -/
theorem isAfter_eq_true_iff (a b : Timestamp) :
    a.isAfter b = true ↔
      b.seconds < a.seconds ∨ (a.seconds = b.seconds ∧ b.nanos < a.nanos) := by
  simp [isAfter]

/-- A number with zeros put in front up to a width. -/
def padded (width n : Nat) : String :=
  let digits := toString n
  String.ofList (List.replicate (width - digits.length) '0') ++ digits

/-- The fraction of a second: up to nine digits, of which trailing zeros but not the first are
left out. -/
def fractionText (nanos : Nat) : String :=
  match (padded 9 nanos).toList with
  | [] => "0"
  | first :: rest => String.ofList (first :: (rest.reverse.dropWhile (· = '0')).reverse)

/-- The year with at least four digits, a minus in front of a negative one, and a plus in front
of one with more than four digits. -/
def yearText (year : Int) : String :=
  let digits := padded 4 year.natAbs
  if year < 0 then "-" ++ digits
  else if 9999 < year then "+" ++ digits
  else digits

/-- The offset with its sign, to the second. -/
def offsetText (offset : Int) : String :=
  let n := offset.natAbs
  let sign := if offset < 0 then "-" else "+"
  sign ++ padded 2 (n / 3600) ++ ":" ++ padded 2 (n / 60 % 60) ++ ":" ++ padded 2 (n % 60)

/-- Local date and time, and the offset: `2026-01-01 0:00:00.0 +00:00:00`.  The hour is written
without a leading zero. -/
def text (t : Timestamp) : String :=
  let shifted := t.seconds + t.offset
  let days := Int.fdiv shifted 86400
  let secondOfDay := (shifted - days * 86400).toNat
  let date := Calendar.Date.ofDays days
  yearText date.year ++ "-" ++ padded 2 date.month ++ "-" ++ padded 2 date.day ++ " " ++
    toString (secondOfDay / 3600) ++ ":" ++ padded 2 (secondOfDay / 60 % 60) ++ ":" ++
    padded 2 (secondOfDay % 60) ++ "." ++ fractionText t.nanos ++ " " ++ offsetText t.offset

end Timestamp

end RevocationCheck
