import RevocationCheck.Document
import RevocationCheck.Number.Digits
import RevocationCheck.Number.Word
import RevocationCheck.Text.Hex

/-!
# JSON

The strict notation: no comments, no trailing commas, no leading zeros.  Of several entries with
one key the last counts.  Whole numbers that fit in 64 bits, with or without a sign, stay
integers, and all others become floating-point numbers, which must not overflow.

A floating-point number is read in steps: the digits that fit in 64 bits are rounded, and then
multiplied by or divided by a power of ten and rounded again.  So it need not be the nearest one.
-/

namespace RevocationCheck.Document.Json

/-- Skip blanks. -/
def skipBlanks (cs : List Char) : List Char :=
  cs.dropWhile fun c => c = ' ' || c = '\t' || c = '\n' || c = '\r'

/-- Four hexadecimal digits. -/
def hex4 : List Char → Option (Nat × List Char)
  | a :: b :: c :: d :: rest =>
    match Text.Hex.value? a, Text.Hex.value? b, Text.Hex.value? c, Text.Hex.value? d with
    | some a, some b, some c, some d => some (4096 * a + 256 * b + 16 * c + d, rest)
    | _, _, _, _ => none
  | _ => none

/-- The character behind a backslash. -/
def readEscape : List Char → Option (Char × List Char)
  | '"' :: rest => some ('"', rest)
  | '\\' :: rest => some ('\\', rest)
  | '/' :: rest => some ('/', rest)
  | 'b' :: rest => some ('\x08', rest)
  | 'f' :: rest => some ('\x0c', rest)
  | 'n' :: rest => some ('\n', rest)
  | 'r' :: rest => some ('\r', rest)
  | 't' :: rest => some ('\t', rest)
  | 'u' :: rest => do
    let (n, rest) ← hex4 rest
    if 0xD800 ≤ n ∧ n ≤ 0xDBFF then
      match rest with
      | '\\' :: 'u' :: rest =>
        let (m, rest) ← hex4 rest
        if 0xDC00 ≤ m ∧ m ≤ 0xDFFF then
          some (Char.ofNat (0x10000 + 1024 * (n - 0xD800) + (m - 0xDC00)), rest)
        else none
      | _ => none
    else if 0xDC00 ≤ n ∧ n ≤ 0xDFFF then none
    else some (Char.ofNat n, rest)
  | _ => none

/-- Read a string behind its opening quote; each step uses up a character. -/
def readString (fuel : Nat) (cs : List Char) : Option (List Char × List Char) :=
  match fuel, cs with
  | 0, _ => none
  | _, [] => none
  | _ + 1, '"' :: rest => some ([], rest)
  | fuel + 1, '\\' :: rest => do
    let (c, rest) ← readEscape rest
    let (more, rest) ← readString fuel rest
    some (c :: more, rest)
  | fuel + 1, c :: rest => do
    if c.toNat < 0x20 then none
    else
      let (more, rest) ← readString fuel rest
      some (c :: more, rest)

/-- A number being read: the digits that are kept and the power of ten they are taken times. -/
structure Decimal where
  significand : Nat
  exponent : Int

/-- Read digits into a significand while it stays below 2^64.  Gives it, the number of digits
read, and what follows. -/
def readDigits (significand : Nat) : List Char → Nat × Nat × List Char
  | [] => (significand, 0, [])
  | c :: rest =>
    let next := 10 * significand + Digits.ofChar c
    if c.isDigit && next < Word.bound then
      let (kept, count, rest) := readDigits next rest
      (kept, count + 1, rest)
    else (significand, 0, c :: rest)

/-- Read the digits behind a point.  There has to be one, and those that do not fit are
dropped. -/
def readFraction (whole : Decimal) (cs : List Char) : Option (Decimal × List Char) :=
  let (significand, count, rest) := readDigits whole.significand cs
  let left := rest.dropWhile Char.isDigit
  if count = 0 && left.length = rest.length then none
  else some (⟨significand, whole.exponent - count⟩, left)

/-- The largest power of ten in a step of scaling. -/
def maxPower : Nat := 308

/-- A number times a power of ten, rounded after each step; nothing if it becomes too large. -/
def scale (x : Binary64) (exponent : Int) : Option Binary64 :=
  if _h : exponent.natAbs ≤ maxPower then
    let power := Binary64.ofDecimal false 1 exponent.natAbs
    if exponent < 0 then some (x.div power)
    else if (x.mul power).isInfinite then none
    else some (x.mul power)
  else if x.isZero then some x
  else if 0 ≤ exponent then none
  else scale (x.div (Binary64.ofDecimal false 1 maxPower)) (exponent + maxPower)
termination_by exponent.natAbs
decreasing_by
  simp only [maxPower] at *
  omega

/-- The number that kept digits and a power of ten are. -/
def Decimal.value? (d : Decimal) : Option Binary64 := scale (.ofNat d.significand) d.exponent

/-- The bound of exponents. -/
def exponentBound : Nat := Nat.pow 2 31

/-- Read an exponent behind its mark, and take the number times it.  An exponent beyond its bound
is allowed only if the result is zero. -/
def readExponent (d : Decimal) (cs : List Char) : Option (Option Binary64 × List Char) :=
  let (negative, cs) : Bool × List Char :=
    match cs with
    | '+' :: rest => (false, rest)
    | '-' :: rest => (true, rest)
    | _ => (false, cs)
  let digits := cs.takeWhile Char.isDigit
  let exponent := Digits.value digits
  let rest := cs.dropWhile Char.isDigit
  if digits.isEmpty then none
  else if exponentBound ≤ exponent then
    some (if d.significand = 0 || negative then some (.ofNat 0) else none, rest)
  else
    some (({ d with
      exponent := if negative then d.exponent - exponent else d.exponent + exponent } :
      Decimal).value?, rest)

/-- Read what may follow the digits in front of a point: a fraction and an exponent.  The first
result tells whether neither is written. -/
def readTail (whole : Decimal) (cs : List Char) :
    Option (Bool × Option Binary64 × List Char) := do
  let (isWhole, decimal, rest) ←
    match cs with
    | '.' :: rest => (readFraction whole rest).map fun (d, rest) => (false, d, rest)
    | _ => some (true, whole, cs)
  match rest with
  | [] => some (isWhole, decimal.value?, [])
  | c :: tail =>
    if c = 'e' || c = 'E' then (readExponent decimal tail).map fun (x, rest) => (false, x, rest)
    else some (isWhole, decimal.value?, rest)

/-- Read a number behind its sign.  A whole number stays one if it fits in 64 bits. -/
def readUnsigned (negative : Bool) (cs : List Char) : Option (Document × List Char) := do
  let (significand, count, rest) := readDigits 0 cs
  let hasLeadingZero := cs.head? = some '0' && 1 < count
  let dropped := (rest.takeWhile Char.isDigit).length
  if count = 0 || hasLeadingZero then none
  else
    let (isWhole, x, rest) ← readTail ⟨significand, dropped⟩ (rest.drop dropped)
    let x ← x
    let isInteger := isWhole && dropped = 0 &&
      (!negative || (0 < significand && significand ≤ Word.bound / 2))
    some (if isInteger then .integer (if negative then -significand else significand)
      else .float (if negative then x.neg else x), rest)

/-- Read a number. -/
def readNumber : List Char → Option (Document × List Char)
  | '-' :: rest => readUnsigned true rest
  | cs => readUnsigned false cs

/-- Read a word in front of a text. -/
def readWord (word cs : List Char) : Option (List Char) :=
  if word.isPrefixOf cs then some (cs.drop word.length) else none

mutual

/-- Read a value; `fuel` bounds the steps and `depth` the nesting. -/
def readValue (fuel depth : Nat) (cs : List Char) : Option (Document × List Char) :=
  match fuel with
  | 0 => none
  | fuel + 1 =>
    match skipBlanks cs with
    | '"' :: rest => (readString (rest.length + 1) rest).map fun (s, rest) =>
      (.text (String.ofList s), rest)
    | '[' :: rest =>
      match depth, skipBlanks rest with
      | 0, _ => none
      | _, ']' :: rest => some (.array [], rest)
      | depth + 1, rest => (readItems fuel depth rest).map fun (items, rest) =>
        (.array items, rest)
    | '\x7b' :: rest =>
      match depth, skipBlanks rest with
      | 0, _ => none
      | _, '\x7d' :: rest => some (.table [], rest)
      | depth + 1, rest => (readEntries fuel depth [] rest).map fun (entries, rest) =>
        (.table entries, rest)
    | 't' :: rest => (readWord "rue".toList rest).map (.boolean true, ·)
    | 'f' :: rest => (readWord "alse".toList rest).map (.boolean false, ·)
    | 'n' :: rest => (readWord "ull".toList rest).map (.null, ·)
    | cs => readNumber cs

/-- Read the items of an array up to its closing bracket. -/
def readItems (fuel depth : Nat) (cs : List Char) : Option (List Document × List Char) :=
  match fuel with
  | 0 => none
  | fuel + 1 => do
    let (item, rest) ← readValue fuel depth cs
    match skipBlanks rest with
    | ',' :: rest =>
      let (items, rest) ← readItems fuel depth rest
      some (item :: items, rest)
    | ']' :: rest => some ([item], rest)
    | _ => none

/-- Read the entries of a table up to its closing brace. -/
def readEntries (fuel depth : Nat) (entries : List (String × Document)) (cs : List Char) :
    Option (List (String × Document) × List Char) :=
  match fuel with
  | 0 => none
  | fuel + 1 => do
    match skipBlanks cs with
    | '"' :: rest =>
      let (key, rest) ← readString (rest.length + 1) rest
      match skipBlanks rest with
      | ':' :: rest =>
        let (value, rest) ← readValue fuel depth rest
        let entries := insertEntry (String.ofList key) value entries
        match skipBlanks rest with
        | ',' :: rest => readEntries fuel depth entries rest
        | '\x7d' :: rest => some (entries, rest)
        | _ => none
      | _ => none
    | _ => none

end

/-- Read a text that is one value. -/
def parse? (s : String) : Option Document :=
  let cs := s.toList
  match readValue (2 * cs.length + 2) 127 cs with
  | some (value, rest) => if (skipBlanks rest).isEmpty then some value else none
  | none => none

end RevocationCheck.Document.Json
