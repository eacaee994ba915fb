import RevocationCheck.Calendar
import RevocationCheck.Number.Digits

/-!
# Dates and times in documents

A date, a time of day, or both, and with both possibly how far the clock is from universal time.
The letter between date and time may be small or a space, seconds may be left out, and a fraction
may have any number of digits, of which nine count.  Written back, a date and time have one form.
-/

namespace RevocationCheck.Document

/-- A time of day.  Nothing stands for seconds that are not written. -/
structure ClockTime where
  hour : Nat
  minute : Nat
  second : Option Nat
  /-- The digits of the fraction without zeros at the end. -/
  fraction : Option (List Char)
deriving Repr, DecidableEq

/-- How far a clock is from universal time. -/
inductive ClockShift
  | universal
  | minutes (n : Int)
deriving Repr, DecidableEq

/-- A date, a time, or both. -/
structure DateTime where
  date : Option Calendar.Date
  time : Option ClockTime
  shift : Option ClockShift
deriving Repr, DecidableEq

namespace DateTime

/-- A number of `count` digits. -/
def readNumber? (count : Nat) (cs : List Char) : Option (Nat × List Char) :=
  let digits := cs.take count
  if digits.length = count && digits.all Char.isDigit then
    some (Digits.value digits, cs.drop count)
  else none

/-- A mark and a number of two digits up to a bound behind it. -/
def readPart? (mark : Char) (bound : Nat) (cs : List Char) : Option (Nat × List Char) :=
  match cs with
  | c :: rest =>
    if c = mark then (readNumber? 2 rest).filter fun part => part.1 ≤ bound else none
  | [] => none

/-- Read a date. -/
def readDate? (cs : List Char) : Option (Calendar.Date × List Char) := do
  let (year, rest) ← readNumber? 4 cs
  let (month, rest) ← readPart? '-' 12 rest
  let (day, rest) ← readPart? '-' 31 rest
  let date : Calendar.Date := ⟨year, month, day⟩
  if date.isValid then some (date, rest) else none

/-- The digits of a fraction that count. -/
def fractionOf (digits : List Char) : List Char :=
  match ((digits.take 9).reverse.dropWhile (· = '0')).reverse with
  | [] => ['0']
  | counted => counted

/-- Read a time of day. -/
def readTime? (cs : List Char) : Option (ClockTime × List Char) := do
  let (hour, rest) ← (readNumber? 2 cs).filter fun part => part.1 ≤ 23
  let (minute, rest) ← readPart? ':' 59 rest
  match rest with
  | ':' :: _ =>
    let (second, rest) ← readPart? ':' 60 rest
    match rest with
    | '.' :: tail =>
      let digits := tail.takeWhile Char.isDigit
      if digits.isEmpty then none
      else
        some (⟨hour, minute, some second, some (fractionOf digits)⟩, tail.dropWhile Char.isDigit)
    | _ => some (⟨hour, minute, some second, none⟩, rest)
  | _ => some (⟨hour, minute, none, none⟩, rest)

/-- Read how far a clock is from universal time, if that is written. -/
def readShift? (cs : List Char) : Option (Option ClockShift × List Char) :=
  match cs with
  | [] => some (none, [])
  | c :: rest =>
    if c = 'Z' || c = 'z' then some (some .universal, rest)
    else if c = '+' || c = '-' then do
      let (hours, rest) ← readPart? c 23 cs
      let (minutes, rest) ← readPart? ':' 59 rest
      let n : Int := 60 * hours + minutes
      some (some (.minutes (if c = '-' then -n else n)), rest)
    else some (none, cs)

/-- Does a character behind a date announce a time? -/
def announcesTime : List Char → Bool
  | 'T' :: _ | 't' :: _ => true
  | ' ' :: c :: _ => c.isDigit
  | _ => false

/-- Read a date, a time, or both. -/
def read? (cs : List Char) : Option (DateTime × List Char) :=
  match readDate? cs with
  | none => (readTime? cs).map fun (time, rest) => (⟨none, some time, none⟩, rest)
  | some (date, rest) =>
    if announcesTime rest then do
      let (time, rest) ← readTime? (rest.drop 1)
      let (shift, rest) ← readShift? rest
      some (⟨some date, some time, shift⟩, rest)
    else some (⟨some date, none, none⟩, rest)

/-- A number with zeros in front up to a width. -/
def padded (width n : Nat) : List Char :=
  let digits := Nat.toDigits 10 n
  List.replicate (width - digits.length) '0' ++ digits

/-- The text of a date. -/
def dateText (date : Calendar.Date) : List Char :=
  padded 4 date.year.toNat ++ '-' :: padded 2 date.month ++ '-' :: padded 2 date.day

/-- The text of a time of day. -/
def timeText (time : ClockTime) : List Char :=
  padded 2 time.hour ++ ':' :: padded 2 time.minute ++
    (time.second.map fun second => ':' :: padded 2 second).getD [] ++
    (time.fraction.map ('.' :: ·)).getD []

/-- The text of how far a clock is from universal time. -/
def shiftText : ClockShift → List Char
  | .universal => ['Z']
  | .minutes n =>
    (if n < 0 then '-' else '+') :: padded 2 (n.natAbs / 60) ++ ':' :: padded 2 (n.natAbs % 60)

/-- The text of a date, a time, or both. -/
def text (d : DateTime) : String :=
  String.ofList <|
    (d.date.map dateText).getD [] ++
      (if d.date.isSome && d.time.isSome then ['T'] else []) ++
      (d.time.map timeText).getD [] ++ (d.shift.map shiftText).getD []

/-- The text of what is read, if nothing is left. -/
def normalized? (s : String) : Option String :=
  match read? s.toList with
  | some (d, []) => some d.text
  | _ => none

example : normalized? "2020-01-02 03:04:05.120z" = some "2020-01-02T03:04:05.12Z" := by
  decide +kernel
example : normalized? "2100-02-29" = none := by decide +kernel

end DateTime

end RevocationCheck.Document
