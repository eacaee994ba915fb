import RevocationCheck.Number.Word

/-!
# Binary floating-point numbers of 64 bits

A number is written exactly, as a mantissa times a power of two, so that reading and writing
decimals are computations on natural numbers.  Reading rounds to the nearest number, a half to
the even mantissa.  Writing chooses the fewest decimal digits that read back as the number, and
of those the nearest.
-/

namespace RevocationCheck

/-- A number of 64 bits; a finite one is the mantissa times two to the exponent. -/
inductive Binary64
  | finite (negative : Bool) (mantissa : Nat) (exponent : Int)
  | infinite (negative : Bool)
  | nan
deriving Repr, DecidableEq

namespace Binary64

/-- A quotient of natural numbers. -/
structure Ratio where
  num : Nat
  den : Nat

/-- A natural number times a power of a base. -/
def Ratio.scaled (n base : Nat) (exponent : Int) : Ratio :=
  if 0 ≤ exponent then ⟨n * Nat.pow base exponent.toNat, 1⟩ else ⟨n, Nat.pow base exponent.natAbs⟩

/-- Is the first quotient less than the second? -/
def Ratio.lt (a b : Ratio) : Bool := a.num * b.den < b.num * a.den

/-- Is the first quotient at most the second? -/
def Ratio.le (a b : Ratio) : Bool := a.num * b.den ≤ b.num * a.den

/-- The nearest natural number to a quotient; a half goes to the even neighbour. -/
def Ratio.round (r : Ratio) : Nat :=
  let q := r.num / r.den
  let twice := 2 * (r.num % r.den)
  if r.den < twice || (r.den = twice && q % 2 = 1) then q + 1 else q

/-- The least exponent. -/
def minExponent : Int := -1074

/-- The number nearest to a positive quotient. -/
def ofRatio (negative : Bool) (r : Ratio) : Binary64 :=
  let size : Int := (Nat.log2 r.num : Int) - (Nat.log2 r.den : Int)
  let guess := max minExponent (size - 53)
  let mantissaAt (e : Int) : Nat :=
    (if 0 ≤ e then (⟨r.num, r.den * Nat.pow 2 e.toNat⟩ : Ratio)
      else ⟨r.num * Nat.pow 2 e.natAbs, r.den⟩).round
  let exponent :=
    if mantissaAt guess < Nat.pow 2 53 then guess
    else if mantissaAt (guess + 1) < Nat.pow 2 53 then guess + 1
    else guess + 2
  let mantissa := mantissaAt exponent
  if 971 < exponent then .infinite negative else .finite negative mantissa exponent

/-- The number nearest to a decimal. -/
def ofDecimal (negative : Bool) (digits : Nat) (exponent : Int) : Binary64 :=
  if digits = 0 then .finite negative 0 minExponent
  else
    let magnitude := (Nat.toDigits 10 digits).length + exponent
    if 400 < magnitude then .infinite negative
    else if magnitude < -400 then .finite negative 0 minExponent
    else ofRatio negative (Ratio.scaled digits 10 exponent)

/-- The number nearest to a natural number. -/
def ofNat (n : Nat) : Binary64 := ofDecimal false n 0

/-- The number nearest to a quotient, or the zero of the same sign. -/
def ofSigned (negative : Bool) (r : Ratio) : Binary64 :=
  if r.num = 0 then .finite negative 0 minExponent else ofRatio negative r

/-- The product of finite numbers, rounded.  There is none of others. -/
def mul : Binary64 → Binary64 → Binary64
  | finite a m e, finite b n f => ofSigned (a != b) (Ratio.scaled (m * n) 2 (e + f))
  | _, _ => nan

/-- The quotient of finite numbers, rounded.  There is none of others, nor by zero. -/
def div : Binary64 → Binary64 → Binary64
  | finite a m e, finite b n f =>
    if n = 0 then nan
    else
      let r := Ratio.scaled m 2 (e - f)
      ofSigned (a != b) ⟨r.num, r.den * n⟩
  | _, _ => nan

/-- The number with the other sign. -/
def neg : Binary64 → Binary64
  | finite negative m e => finite (!negative) m e
  | infinite negative => infinite !negative
  | nan => nan

/-- Is the number an infinity? -/
def isInfinite : Binary64 → Bool
  | infinite _ => true
  | _ => false

/-- Does a decimal read back as the positive number with a mantissa and an exponent? -/
def readsBack (mantissa : Nat) (exponent : Int) (digits : Nat) (power : Int) : Bool :=
  let candidate := Ratio.scaled digits 10 power
  let narrow := mantissa = Nat.pow 2 52 && minExponent < exponent
  let low := Ratio.scaled (4 * mantissa - if narrow then 1 else 2) 2 (exponent - 2)
  let high := Ratio.scaled (4 * mantissa + 2) 2 (exponent - 2)
  if mantissa % 2 = 0 then low.le candidate && candidate.le high
  else low.lt candidate && candidate.lt high

/-- The decimals with a power of ten next to a positive number that read back as it; the nearer
one if both do. -/
def onGrid? (mantissa : Nat) (exponent : Int) (power : Int) : Option Nat :=
  let value := Ratio.scaled mantissa 2 exponent
  let scaled : Ratio :=
    if 0 ≤ power then ⟨value.num, value.den * Nat.pow 10 power.toNat⟩
    else ⟨value.num * Nat.pow 10 power.natAbs, value.den⟩
  let below := scaled.num / scaled.den
  let nearest := scaled.round
  let other := if nearest = below then below + 1 else below
  if 0 < nearest && readsBack mantissa exponent nearest power then some nearest
  else if 0 < other && readsBack mantissa exponent other power then some other
  else none

/-- The shortest decimal of a positive number: its digits and the power of ten. -/
def shortest (mantissa : Nat) (exponent : Int) : Nat × Int :=
  let powers : List Int := (List.range 650).map fun i : Nat => 310 - (i : Int)
  ((powers.findSome? fun power => (onGrid? mantissa exponent power).map (·, power))).getD
    (mantissa, exponent)

/-- Digits with the decimal point behind the first `point` of them, filled up with zeros. -/
def positional (digits : List Char) (point : Int) : List Char :=
  if point ≤ 0 then "0.".toList ++ List.replicate point.natAbs '0' ++ digits
  else if point.toNat < digits.length then
    digits.take point.toNat ++ ['.'] ++ digits.drop point.toNat
  else digits ++ List.replicate (point.toNat - digits.length) '0'

/-- The text of a number in positional notation. -/
def plainText : Binary64 → String
  | nan => "NaN"
  | infinite negative => if negative then "-inf" else "inf"
  | finite negative mantissa exponent =>
    let body :=
      if mantissa = 0 then ['0']
      else
        let (digits, power) := shortest mantissa exponent
        let ds := Nat.toDigits 10 digits
        positional ds (ds.length + power)
    String.ofList (if negative then '-' :: body else body)

/-- The text of a number in positional notation that always shows a decimal point. -/
def pointedText (x : Binary64) : String :=
  match x with
  | finite .. => if x.plainText.contains '.' then x.plainText else x.plainText ++ ".0"
  | _ => x.plainText

/-- The text of a number with a signed exponent where it would have more than sixteen digits in
front of the point or more than four zeros behind it. -/
def scientificText (x : Binary64) : String :=
  match x with
  | finite negative mantissa exponent =>
    if mantissa = 0 then x.pointedText
    else
      let (digits, power) := shortest mantissa exponent
      let ds := Nat.toDigits 10 digits
      let point : Int := ds.length + power
      if -5 < point ∧ point ≤ 16 then x.pointedText
      else
        let front := if ds.length = 1 then ds else ds.take 1 ++ ['.'] ++ ds.drop 1
        let sign := if negative then "-" else ""
        let mark := if 0 < point then "e+" else "e-"
        sign ++ String.ofList front ++ mark ++ toString (point - 1).natAbs
  | _ => x.plainText

/-- The nearest integer, a half away from zero, as a natural number below 2^64; what lies
outside goes to the nearer end. -/
def toWord : Binary64 → Nat
  | nan => 0
  | infinite negative => if negative then 0 else Word.bound - 1
  | finite negative mantissa exponent =>
    if negative then 0
    else
      let r := Ratio.scaled mantissa 2 exponent
      min (Word.bound - 1) ((2 * r.num + r.den) / (2 * r.den))

/-- Is the number zero? -/
def isZero : Binary64 → Bool
  | finite _ mantissa _ => mantissa = 0
  | _ => false

end Binary64

end RevocationCheck
