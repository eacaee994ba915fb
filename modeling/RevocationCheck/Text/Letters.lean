import RevocationCheck.Text.LetterTable

/-!
# Small letters

Text in small letters.  Some capital letters have a small form of several characters, and a
capital sigma has another small form at the end of a word than elsewhere.
-/

namespace RevocationCheck.Text

/-- The small form of a character; what has none stands for itself. -/
def lowerChar (c : Char) : List Char :=
  if c.toNat < 0x80 then [c.toLower] else (LetterTable.smallForms.image? c).getD [c]

/-- Is the nearest character that counts a letter? -/
def meetsLetter (cs : List Char) : Bool :=
  (cs.dropWhile LetterTable.ignorable.contains).head?.any LetterTable.cased.contains

/-- Characters in small letters; those in front of them come in reverse. -/
def lowerBehind (before : List Char) : List Char → List Char
  | [] => []
  | c :: rest =>
    let form :=
      if c = 'Σ' then [if meetsLetter before && !meetsLetter rest then 'ς' else 'σ']
      else lowerChar c
    form ++ lowerBehind (c :: before) rest

/-- A text in small letters. -/
def lower (s : String) : String := String.ofList (lowerBehind [] s.toList)

end RevocationCheck.Text
