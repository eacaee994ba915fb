import RevocationCheck.Document.Yaml.Property
import RevocationCheck.Document.Yaml.Scalar

/-!
# Layout

From a text to its tokens.  That something was a key shows only at the colon behind it, so each
place where a key can begin is kept in mind until then, and the tokens for the key and for the
mapping it opens are put there later.  Indentation opens and closes blocks; between brackets or
braces it only has to be kept.
-/

namespace RevocationCheck.Document.Yaml

/-- A place where a key may have begun. -/
structure KeyMark where
  /-- The number of tokens in front of it. -/
  position : Nat
  index : Nat
  line : Nat
  column : Nat
  /-- Can only a key stand there? -/
  isRequired : Bool

/-- A level of indentation. -/
structure Level where
  indent : Nat
  /-- Does the level belong to a block, whose end is a token?  The others only keep what follows
  from standing too far left. -/
  isBlock : Bool

/-- How far the tokens of a text have been found. -/
structure Layout where
  cursor : Cursor
  tokens : Array Token
  /-- Where a key may have begun inside the innermost brackets or braces. -/
  keyMark : Option KeyMark
  /-- The same around each pair of open brackets or braces, from the inside out. -/
  outerMarks : List (Option KeyMark)
  mayBeKey : Bool
  /-- The levels of indentation from the inside out. -/
  levels : List Level
  /-- For each open bracket from the inside out: is there a mapping of one entry without
  braces? -/
  isInPair : List Bool
  /-- Has a mapping begun since the last one of that kind ended? -/
  hasMapping : Bool
  /-- Where a colon needs no blank behind it. -/
  adjacentAt : Nat
  /-- Was the last token an anchor or tag at the start of a line? -/
  isAfterProperty : Bool

namespace Layout

/-- In front of a text. -/
def start (cs : List Char) : Layout :=
  ⟨.start cs, #[], none, [], true, [], [], false, 0, false⟩

/-- Is the place between brackets or braces? -/
def inFlow (l : Layout) : Bool := !l.outerMarks.isEmpty

/-- How many brackets and braces may be open. -/
def maxDepth : Nat := 255

/-- The indentation of the innermost level; outside of all it is left of the first column. -/
def indent (l : Layout) : Int :=
  match l.levels with
  | [] => -1
  | level :: _ => level.indent

/-- Add a token. -/
def push (l : Layout) (token : Token) : Layout :=
  { l with tokens := l.tokens.push token, isAfterProperty := false }

/-- Put a token in at a position. -/
def insert (l : Layout) (position : Nat) (token : Token) : Layout :=
  { l with tokens := l.tokens.insertIdxIfInBounds position token }

/-- Open a block at a column, unless one is open there or further in. -/
def roll (l : Layout) (column position : Nat) (token : Token) : Layout :=
  if l.inFlow then l
  else
    let levels :=
      match l.levels with
      | [] => []
      | level :: outer =>
        if level.indent ≤ column && !level.isBlock then outer else level :: outer
    let l := { l with levels }
    if l.indent < (column : Int) then
      { l.insert position token with levels := ⟨column, true⟩ :: levels }
    else l

/-- Ask for one column more than the block that is open. -/
def rollOneColumn (l : Layout) : Layout :=
  match l.levels with
  | level :: _ =>
    if !l.inFlow && level.isBlock then
      { l with levels := ⟨level.indent + 1, false⟩ :: l.levels }
    else l
  | [] => l

/-- Close what is indented further than a column. -/
def unroll (l : Layout) (column : Int) : Layout :=
  if l.inFlow then l
  else
    let left := l.levels.takeWhile fun level => column < level.indent
    let l := { l with levels := l.levels.drop left.length }
    (left.filter Level.isBlock).foldl (fun l _ => l.push .blockEnd) l

/-- Take back the columns that were asked for beyond the innermost block. -/
def unrollColumns (l : Layout) : Layout :=
  { l with levels := l.levels.dropWhile (!·.isBlock) }

/-- Keep in mind that a key may begin here. -/
def markKey (l : Layout) : Layout :=
  if l.mayBeKey then
    let c := l.cursor
    let isRequired :=
      !l.inFlow && l.indent = c.column && l.levels.head?.any Level.isBlock
    { l with keyMark := some ⟨l.tokens.size, c.index, c.line, c.column, isRequired⟩ }
  else l

/-- No key has begun.  That is an error where only a key can stand. -/
def dropKey? (l : Layout) : Option Layout :=
  if l.keyMark.any KeyMark.isRequired then none else some { l with keyMark := none }

/-- Outside of brackets a key ends on its line and is not longer than 1024 characters. -/
def dropStaleKey? (l : Layout) : Option Layout :=
  let isStale (m : KeyMark) : Bool :=
    m.line < l.cursor.line || m.index + 1024 < l.cursor.index
  if !l.inFlow && l.keyMark.any isStale then l.dropKey? else some l

/-- Pass blanks, line ends and comments.  A tab must not stand for indentation, and behind some
tokens not at all. -/
def passGap (takesTabs : Bool) (fuel : Nat) (l : Layout) : Option Layout :=
  match fuel, l.cursor.rest with
  | fuel + 1, ch :: _ =>
    let c := l.cursor
    if ch = '\t' && !takesTabs then none
    else if ch = '\t' && c.isLineStart && (c.column : Int) < l.indent then
      match c.passTrailing? with
      | none => none
      | some (_, c) =>
        if endsLine c.rest then passGap takesTabs fuel { l with cursor := c } else none
    else if isSpace ch then passGap takesTabs fuel { l with cursor := c.pass 1 }
    else if isBreak ch then
      passGap takesTabs fuel { l with cursor := c.newLine, mayBeKey := l.mayBeKey || !l.inFlow }
    else if ch = '#' then passGap takesTabs fuel { l with cursor := c.passLine }
    else some l
  | _, _ => some l

/-- Pass some characters, and what may follow them on their line. -/
def advance? (l : Layout) (n : Nat) : Option Layout := do
  let (_, cursor) ← (l.cursor.advance n).passTrailing?
  some { l with cursor }

/-- A bracket or brace that opens. -/
def openFlow? (l : Layout) (token : Token) : Option Layout := do
  let l := l.markKey.rollOneColumn
  if maxDepth ≤ l.outerMarks.length then none
  else
    let l := { l with keyMark := none, outerMarks := l.keyMark :: l.outerMarks, mayBeKey := true }
    let l :=
      if token = .flowMapping then { l with hasMapping := true }
      else { l with isInPair := false :: l.isInPair }
    (← l.advance? 1).push token

/-- A mapping without braces ends with the item that it is. -/
def endPair (l : Layout) : Layout :=
  match l.isInPair with
  | true :: outer => { l with isInPair := false :: outer, hasMapping := false }.push .flowMappingEnd
  | _ => l

/-- A bracket or brace that closes.  A colon may follow it at once. -/
def closeFlow? (l : Layout) (token : Token) : Option Layout := do
  let l ← l.dropKey?
  let l :=
    match l.outerMarks with
    | [] => l
    | keyMark :: outerMarks => { l with keyMark, outerMarks }
  let l := { l with mayBeKey := false }
  let l :=
    if token = .flowSequenceEnd then
      let l := l.endPair
      { l with isInPair := l.isInPair.drop 1 }
    else l
  let l ← l.advance? 1
  (if l.inFlow then { l with adjacentAt := l.cursor.index } else l).push token

/-- The comma behind an item or entry. -/
def addComma? (l : Layout) : Option Layout := do
  let l ← l.dropKey?
  (← { l.endPair with mayBeKey := true }.advance? 1).push .comma

/-- The dash in front of an item of a block. -/
def addItem? (l : Layout) : Option Layout := do
  let column := l.cursor.column
  if l.inFlow || !l.mayBeKey then none
  else if l.isAfterProperty && column = 0 && 0 ≤ l.indent then none
  else
    let l := l.roll column l.tokens.size .blockSequence
    let (blanks, c) ← (l.cursor.advance 1).passTrailing?
    if blanks.contains '\t' && c.rest.head? = some '-' && endsWord (c.rest.drop 1) then none
    else
      let l := { l with cursor := c }
      let l :=
        if c.rest.head?.any fun ch => isBreak ch || isFlowMark ch then l.rollOneColumn else l
      let l ← l.dropKey?
      { l with mayBeKey := true }.push .item

/-- The question mark in front of a key. -/
def addKey? (l : Layout) : Option Layout := do
  let l ←
    if l.inFlow then some { l with hasMapping := true }
    else if l.mayBeKey then some (l.roll l.cursor.column l.tokens.size .blockMapping)
    else none
  let l ← l.dropKey?
  let c := l.cursor.advance 1
  if c.rest.isEmpty then none
  else
    let l := { l with mayBeKey := !l.inFlow, cursor := c }
    (← l.passGap false (c.rest.length + 1)).push .key

/-- The colon in front of a value.  If a key has begun before it on the line, its tokens are put
in now. -/
def addValue? (l : Layout) : Option Layout := do
  let column := l.cursor.column
  let line := l.cursor.line
  let isPair := !l.isInPair.isEmpty && !l.hasMapping
  let l := if isPair then { l with isInPair := true :: l.isInPair.drop 1 } else l
  let c := l.cursor.advance 1
  let (blanks, behind) ← if c.rest.head? = some '\t' then c.passTrailing? else some ([], c)
  if !blanks.isEmpty && !blanks.contains ' ' && behind.rest.head?.any isWordChar then none
  else
    let l := { l with cursor := behind }
    match l.keyMark with
    | some m =>
      let l := l.insert m.position .key
      if isPair && m.line < line then none
      else
        let l := if isPair then l.insert m.position .flowMapping else l
        let l := (l.roll m.column m.position .blockMapping).rollOneColumn
        { l with keyMark := none, mayBeKey := false }.push .value
    | none =>
      let l := if isPair then l.push .flowMapping else l
      if !l.inFlow && !l.mayBeKey then none
      else
        let l := (l.roll column l.tokens.size .blockMapping).rollOneColumn
        { l with mayBeKey := !l.inFlow }.push .value

/-- An anchor or alias. -/
def addName? (l : Layout) (token : String → Token) : Option Layout := do
  let isAtStart := l.cursor.column = 0
  let l := l.markKey
  let (cursor, name) ← readAnchor (l.cursor.advance 1)
  let l := { l with cursor, mayBeKey := false }.push (token name)
  some { l with isAfterProperty := isAtStart && (token name).isProperty }

/-- A tag. -/
def addTag? (l : Layout) : Option Layout := do
  let isAtStart := l.cursor.column = 0
  let l := l.markKey
  let (cursor, tag) ← readTag l.inFlow l.cursor
  let l := { l with cursor, mayBeKey := false }.push (.tag tag)
  some { l with isAfterProperty := isAtStart }

/-- A plain scalar.  If it ends with its line, a key may follow. -/
def addPlain? (l : Layout) : Option Layout := do
  let l := l.markKey.unrollColumns
  let (cursor, value) ← readPlain l.inFlow (l.indent + 1) l.cursor
  { l with cursor, mayBeKey := cursor.isLineStart }.push (.scalar true value)

/-- A quoted scalar.  A colon may follow it at once. -/
def addQuoted? (l : Layout) : Option Layout := do
  let l := l.markKey
  let (cursor, value) ← readQuoted l.inFlow l.indent l.cursor
  let l ← { l with cursor, mayBeKey := false }.passGap true (cursor.rest.length + 1)
  { l with adjacentAt := l.cursor.index }.push (.scalar false value)

/-- A scalar that is a block of lines. -/
def addBlock? (l : Layout) (isLiteral : Bool) : Option Layout := do
  let l := l.markKey.unrollColumns
  let (cursor, value) ← readBlock isLiteral l.indent (l.cursor.advance 1)
  { l with cursor, mayBeKey := true }.push (.scalar false value)

/-- What stands between documents: everything that is open is closed. -/
def closeAll? (l : Layout) : Option Layout := do
  some { ← (l.unroll (-1)).dropKey? with mayBeKey := false }

/-- A mark at the start of a line that begins or ends a document.  Nothing but a comment may stand
behind the second. -/
def addDocumentMark? (l : Layout) (token : Token) : Option Layout := do
  let l ← l.closeAll?
  let l := { l with cursor := l.cursor.advance 3 }.push token
  if token = .documentEnd then
    let (_, cursor) ← l.cursor.passTrailing?
    if endsLine cursor.rest then some { l with cursor } else none
  else some l

/-- The token that a character begins. -/
def addToken? (l : Layout) (ch : Char) (rest : List Char) : Option Layout :=
  match ch with
  | '[' => l.openFlow? .flowSequence
  | '\x7b' => l.openFlow? .flowMapping
  | ']' => l.closeFlow? .flowSequenceEnd
  | '\x7d' => l.closeFlow? .flowMappingEnd
  | ',' => l.addComma?
  | '-' => if endsWord rest then l.addItem? else l.addPlain?
  | '?' => if endsWord rest then l.addKey? else l.addPlain?
  | ':' =>
    let isMark :=
      endsWord rest ||
        (l.inFlow && (rest.head?.any isFlowMark || l.cursor.index = l.adjacentAt))
    if isMark then l.addValue? else l.addPlain?
  | '*' => l.addName? .alias
  | '&' => l.addName? .anchor
  | '!' => l.addTag?
  | '|' => if l.inFlow then l.addPlain? else l.addBlock? true
  | '>' => if l.inFlow then l.addPlain? else l.addBlock? false
  | '\x27' | '"' => l.addQuoted?
  | '%' | '@' | '\x60' => none
  | _ => l.addPlain?

/-- Find the next token; tells whether it was the last one. -/
def step? (l : Layout) : Option (Layout × Bool) := do
  let l ← l.passGap true (l.cursor.rest.length + 1)
  let l ← l.dropStaleKey?
  let l := l.unroll l.cursor.column
  let c := l.cursor
  match c.rest with
  | [] =>
    if l.outerMarks.any (·.any KeyMark.isRequired) then none
    else some ((← l.closeAll?).push .streamEnd, true)
  | ch :: rest =>
    if c.column = 0 && ch = '%' then
      let l ← l.closeAll?
      let (cursor, token) ← readDirective c
      some ({ l with cursor }.push token, false)
    else if c.isAtMark '-' then (l.addDocumentMark? .documentStart).map (·, false)
    else if c.isAtMark '.' then (l.addDocumentMark? .documentEnd).map (·, false)
    else if (c.column : Int) < l.indent then none
    else (l.addToken? ch rest).map (·, false)

/-- Find the tokens that are left. -/
def run (fuel : Nat) (l : Layout) : Option (List Token) :=
  match fuel with
  | 0 => none
  | fuel + 1 =>
    match l.step? with
    | none => none
    | some (l, true) => some l.tokens.toList
    | some (l, false) => run fuel l

end Layout

/-- The tokens of a text.  It ends at the first null character. -/
def tokens? (text : String) : Option (List Token) :=
  let cs := text.toList.takeWhile (· ≠ '\x00')
  (Layout.start cs).run (cs.length + 2)

end RevocationCheck.Document.Yaml
