import RevocationCheck.Number.Digits
import RevocationCheck.Number.Word

/-!
# Paths of settings

A path names a setting: a key, then further keys behind dots and positions in brackets.  A
negative position counts from the end.
-/

namespace RevocationCheck.Settings

/-- A step from a setting to one inside it. -/
inductive Step
  | key (name : String)
  | index (position : Int)
deriving Repr, DecidableEq

/-- The path of a setting. -/
structure Path where
  root : String
  steps : List Step
deriving Repr, DecidableEq

namespace Path

/-- May a character stand in a key? -/
def isKeyChar (c : Char) : Bool := c.isAlphanum || c = '_' || c = '-'

/-- Read a key of at least one character. -/
def readKey (cs : List Char) : Option (String × List Char) :=
  let key := cs.takeWhile isKeyChar
  if key.isEmpty then none else some (String.ofList key, cs.dropWhile isKeyChar)

/-- Drop blanks in front. -/
def dropBlanks (cs : List Char) : List Char := cs.dropWhile fun c => c = ' ' || c = '\t'

/-- Read a position and its closing bracket. -/
def readPosition (cs : List Char) : Option (Int × List Char) :=
  let cs := dropBlanks cs
  let (negative, cs) : Bool × List Char :=
    match cs with
    | '-' :: rest => (true, rest)
    | _ => (false, cs)
  let digits := cs.takeWhile Char.isDigit
  let n : Int := Digits.value digits
  let n := if negative then -n else n
  match dropBlanks (cs.dropWhile Char.isDigit) with
  | ']' :: rest =>
    if digits.isEmpty || !Word.isSigned n then none else some (n, rest)
  | _ => none

/-- Read steps up to the end of the text; each uses up a character. -/
def readSteps (fuel : Nat) (cs : List Char) : Option (List Step) :=
  match fuel, cs with
  | _, [] => some []
  | 0, _ => none
  | fuel + 1, '.' :: rest => do
    let (key, rest) ← readKey rest
    some (.key key :: (← readSteps fuel rest))
  | fuel + 1, '[' :: rest => do
    let (position, rest) ← readPosition rest
    some (.index position :: (← readSteps fuel rest))
  | _, _ => none

/-- Read a path. -/
def parse? (s : String) : Option Path := do
  let (root, rest) ← readKey s.toList
  some ⟨root, ← readSteps rest.length rest⟩

end Path

end RevocationCheck.Settings
