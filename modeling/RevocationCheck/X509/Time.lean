import RevocationCheck.Der.Value
import RevocationCheck.Timestamp
import RevocationCheck.X509.Fault

/-!
# Times in certificates and revocation lists

A UTCTime has a two-digit year, which stands for 1950 to 2049, and ends in `Z` or in an offset.
A GeneralizedTime has a four-digit year, may have a fraction of up to three digits, and ends in
`Z`.  Both may leave out the seconds.

A text can be wrong in two ways that matter to an optional time: it may not have the form of a
time at all, or it may name a date that the calendar does not have.
-/

namespace RevocationCheck.X509

/-- The parts of a written time. -/
structure WrittenTime where
  year : Nat
  month : Nat
  day : Nat
  hour : Nat
  minute : Nat
  second : Nat
  millisecond : Nat
  offsetHours : Int
  offsetMinutes : Nat
deriving Repr, DecidableEq

/-- Two decimal digits. -/
def twoDigits? : Octets → Option (Nat × Octets)
  | a :: b :: rest =>
    if 48 ≤ a.toNat ∧ a.toNat ≤ 57 ∧ 48 ≤ b.toNat ∧ b.toNat ≤ 57 then
      some (10 * (a.toNat - 48) + (b.toNat - 48), rest)
    else none
  | _ => none

/-- The seconds, which may be left out when at most one octet follows the minutes. -/
def seconds? : Octets → Option (Nat × Octets)
  | [] => some (0, [])
  | [a] => some (0, [a])
  | bs => twoDigits? bs

/-- Month to second, and what follows. -/
def monthToSecond? (bs : Octets) : Option (Nat × Nat × Nat × Nat × Nat × Octets) := do
  let (month, bs) ← twoDigits? bs
  let (day, bs) ← twoDigits? bs
  let (hour, bs) ← twoDigits? bs
  let (minute, bs) ← twoDigits? bs
  let (second, bs) ← seconds? bs
  if month ≤ 12 ∧ day ≤ 31 ∧ hour ≤ 23 ∧ minute ≤ 59 ∧ second ≤ 59 then
    some (month, day, hour, minute, second, bs)
  else none

/-- The zone of a UTCTime: `Z`, or a sign and four digits.  The sign belongs to the hours, so a
negative offset of less than an hour counts as positive. -/
def zone? : Octets → Option (Int × Nat)
  | [90] => some (0, 0)
  | sign :: rest => do
    let (hours, rest) ← twoDigits? rest
    let (minutes, rest) ← twoDigits? rest
    match rest with
    | _ :: _ => none
    | [] =>
      if sign = 43 then some (hours, minutes)
      else if sign = 45 then some (-hours, minutes)
      else none
  | [] => none

/-- Read the text of a UTCTime. -/
def WrittenTime.ofUtcText? (bs : Octets) : Option WrittenTime := do
  let (year, bs) ← twoDigits? bs
  let (month, day, hour, minute, second, bs) ← monthToSecond? bs
  let (offsetHours, offsetMinutes) ← zone? bs
  some ⟨if 50 ≤ year then 1900 + year else 2000 + year, month, day, hour, minute, second, 0,
    offsetHours, offsetMinutes⟩

/-- The milliseconds after a decimal point: at most three digits, then `Z`. -/
def milliseconds? (bs : Octets) : Option Nat :=
  if bs.getLast? = some 90 then
    match bs.dropLast with
    | [] => some 0
    | [a] => digit a 100
    | [a, b] => do some ((← digit a 100) + (← digit b 10))
    | [a, b, c] => do some ((← digit a 100) + (← digit b 10) + (← digit c 1))
    | _ => none
  else none
where
  /-- A digit times its place value. -/
  digit (b : UInt8) (place : Nat) : Option Nat :=
    if 48 ≤ b.toNat ∧ b.toNat ≤ 57 then some ((b.toNat - 48) * place) else none

/-- Read the text of a GeneralizedTime. -/
def WrittenTime.ofGeneralizedText? (bs : Octets) : Option WrittenTime := do
  let (century, bs) ← twoDigits? bs
  let (year, bs) ← twoDigits? bs
  let (month, day, hour, minute, second, bs) ← monthToSecond? bs
  let millisecond ←
    match bs with
    | [90] => some 0
    | 46 :: rest => milliseconds? rest
    | _ => none
  some ⟨100 * century + year, month, day, hour, minute, second, millisecond, 0, 0⟩

/-- The instant of a written time, if the calendar has its date and its offset is less than
twenty-six hours. -/
def WrittenTime.toTimestamp? (t : WrittenTime) : Option Timestamp :=
  let date : Calendar.Date := ⟨t.year, t.month, t.day⟩
  if date.isValid ∧ t.offsetHours.natAbs ≤ 25 ∧ t.offsetMinutes ≤ 59 then
    let minutes : Int := t.offsetMinutes * 60
    let offset := t.offsetHours * 3600 + if t.offsetHours < 0 then -minutes else minutes
    some (Timestamp.ofLocal date t.hour t.minute t.second (t.millisecond * 1000000) offset)
  else none

/-- The written time that an element holds, if it has the tag and the form of one. -/
def WrittenTime.ofElement? (element : Der.Element) : Option WrittenTime :=
  if element.tag = Der.tagUtcTime then WrittenTime.ofUtcText? element.content
  else if element.tag = Der.tagGeneralizedTime then
    WrittenTime.ofGeneralizedText? element.content
  else none

/-- Read a time that has to be there. -/
def readTime (bs : Octets) : Except Fault (Timestamp × Octets) :=
  match Der.Element.read bs with
  | .error _ => .error .invalidDate
  | .ok (element, rest) =>
    match (WrittenTime.ofElement? element).bind WrittenTime.toTimestamp? with
    | none => .error .invalidDate
    | some t => .ok (t, rest)

/-- Read a time that may be left out.  It counts as left out when nothing is left, and when
something that is no time stands in its place; a UTCTime that has not the form of one, or a
date that does not exist, is a fault. -/
def readTime? (bs : Octets) : Except Fault (Option Timestamp × Octets) :=
  if bs.isEmpty then .ok (none, bs)
  else
    match readWritten? bs with
    | some (written, rest) =>
      match written.toTimestamp? with
      | none => .error .invalidDate
      | some t => .ok (some t, rest)
    | none =>
      match Der.Header.readDefinite bs with
      | .error .badTag => .ok (none, bs)
      | .error _ => .error .invalidDate
      | .ok (header, length, _) =>
        if bs.length < length ∨ header.tag = Der.tagUtcTime then .error .invalidDate
        else .ok (none, bs)
where
  /-- Read a written time. -/
  readWritten? (bs : Octets) : Option (WrittenTime × Octets) :=
    match Der.Element.read bs with
    | .error _ => none
    | .ok (element, rest) => (WrittenTime.ofElement? element).map (·, rest)

end RevocationCheck.X509
