/-!
# Places in a text

A place knows what follows it and where it is: the number of characters in front, the line, and
the column.  It also knows whether only blanks stand in front of it on its line, because
indentation matters there and nowhere else.
-/

namespace RevocationCheck.Document.Yaml

/-- Is a character a blank within a line? -/
def isSpace (c : Char) : Bool := c = ' ' || c = '\t'

/-- Does a character end a line? -/
def isBreak (c : Char) : Bool := c = '\n' || c = '\r'

/-- Does a character belong to a collection in brackets or braces? -/
def isFlowMark (c : Char) : Bool := [',', '[', ']', '\x7b', '\x7d'].contains c

/-- Is there the end of the text, of a line, or a blank? -/
def endsWord (cs : List Char) : Bool := cs.head?.all fun c => isSpace c || isBreak c

/-- Is there the end of the text or of a line? -/
def endsLine (cs : List Char) : Bool := cs.head?.all isBreak

/-- A place in a text. -/
structure Cursor where
  rest : List Char
  index : Nat
  line : Nat
  column : Nat
  isLineStart : Bool

namespace Cursor

/-- The place in front of a text. -/
def start (cs : List Char) : Cursor := ⟨cs, 0, 0, 0, true⟩

/-- The place behind some blanks. -/
def pass (c : Cursor) (n : Nat) : Cursor :=
  { c with rest := c.rest.drop n, index := c.index + n, column := c.column + n }

/-- The place behind some characters that are not all blank. -/
def advance (c : Cursor) (n : Nat) : Cursor := { c.pass n with isLineStart := false }

/-- The place behind a line end, which can have two characters. -/
def newLine (c : Cursor) : Cursor :=
  let n :=
    match c.rest with
    | '\r' :: '\n' :: _ => 2
    | _ => 1
  ⟨c.rest.drop n, c.index + n, c.line + 1, 0, true⟩

/-- The place behind what is left of a line, its end not included. -/
def passLine (c : Cursor) : Cursor := c.advance (c.rest.takeWhile (!isBreak ·)).length

/-- The place behind the blanks at a place. -/
def passBlanks (c : Cursor) : Cursor := c.pass (c.rest.takeWhile isSpace).length

/-- The blanks at a place, and the place behind them and a comment, which has to be set off by
blanks. -/
def passTrailing? (c : Cursor) : Option (List Char × Cursor) :=
  let blanks := c.rest.takeWhile isSpace
  let c := c.pass blanks.length
  match c.rest with
  | '#' :: _ => if blanks.isEmpty then none else some (blanks, c.passLine)
  | _ => some (blanks, c)

/-- Does the line begin with three equal marks that stand for themselves? -/
def isAtMark (mark : Char) (c : Cursor) : Bool :=
  c.column = 0 && c.rest.take 3 = [mark, mark, mark] && endsWord (c.rest.drop 3)

/-- Does the line begin or end a document? -/
def isAtDocumentMark (c : Cursor) : Bool := c.isAtMark '-' || c.isAtMark '.'

end Cursor

end RevocationCheck.Document.Yaml
