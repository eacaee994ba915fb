import RevocationCheck.Document
import RevocationCheck.Number.Digits

/-!
# Numbers in documents

The shapes that the notations share: a run of decimal digits, and a decimal with an optional
fraction and an optional exponent.
-/

namespace RevocationCheck.Document

/-- A decimal cut into its parts; a part that is not written is nothing. -/
structure DecimalParts where
  whole : List Char
  fraction : Option (List Char)
  exponent : Option (Bool × List Char)

namespace DecimalParts

/-- The sign and digits behind an exponent mark. -/
def splitExponent (cs : List Char) : Option (Bool × List Char) × List Char :=
  match cs with
  | mark :: rest =>
    if mark = 'e' || mark = 'E' then
      let (negative, rest) : Bool × List Char :=
        match rest with
        | '+' :: rest => (false, rest)
        | '-' :: rest => (true, rest)
        | _ => (false, rest)
      (some (negative, rest.takeWhile Char.isDigit), rest.dropWhile Char.isDigit)
    else (none, cs)
  | [] => (none, [])

/-- Cut the decimal in front of a text, and give what follows it. -/
def split (cs : List Char) : DecimalParts × List Char :=
  let whole := cs.takeWhile Char.isDigit
  let rest := cs.dropWhile Char.isDigit
  match rest with
  | '.' :: rest =>
    let (exponent, tail) := splitExponent (rest.dropWhile Char.isDigit)
    (⟨whole, some (rest.takeWhile Char.isDigit), exponent⟩, tail)
  | _ =>
    let (exponent, tail) := splitExponent rest
    (⟨whole, none, exponent⟩, tail)

/-- Has each written part at least one digit? -/
def isComplete (p : DecimalParts) : Bool :=
  !p.whole.isEmpty && p.fraction.all (!·.isEmpty) && p.exponent.all (!·.2.isEmpty)

/-- Is neither a fraction nor an exponent written? -/
def isWhole (p : DecimalParts) : Bool := p.fraction.isNone && p.exponent.isNone

/-- The floating-point number nearest to the decimal. -/
def toBinary (p : DecimalParts) (negative : Bool) : Binary64 :=
  let fraction := p.fraction.getD []
  let exponent : Int :=
    match p.exponent with
    | none => 0
    | some (true, ds) => -(Digits.value ds : Int)
    | some (false, ds) => Digits.value ds
  .ofDecimal negative (Digits.value (p.whole ++ fraction)) (exponent - fraction.length)

end DecimalParts

end RevocationCheck.Document
