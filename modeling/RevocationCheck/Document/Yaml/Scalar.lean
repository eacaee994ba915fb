import RevocationCheck.Document.Yaml.Cursor
import RevocationCheck.Text.Hex

/-!
# Scalars

A scalar is plain, quoted, or a block of lines.  In plain and quoted scalars a line end counts as
a space and each empty line as a line end.  A block keeps its lines or folds them in the same way,
except around lines that are indented further.
-/

namespace RevocationCheck.Document.Yaml

/-- A text whose lines are being joined. -/
structure Joined where
  /-- What has been read, in reverse. -/
  reversed : List Char
  /-- Blanks that count if more follows on the line. -/
  blanks : List Char
  /-- Has a line end been passed? -/
  isBroken : Bool
  /-- The number of empty lines that have been passed. -/
  emptyLines : Nat

namespace Joined

/-- Nothing yet. -/
def empty : Joined := ⟨[], [], false, 0⟩

/-- Take account of the gap that has been passed.  It ends on another line than it began if what
follows stands at the start of one. -/
def close (t : Joined) (isLineStart : Bool) : Joined :=
  let gap :=
    if !isLineStart then t.blanks.reverse
    else if t.isBroken && t.emptyLines = 0 then [' ']
    else List.replicate t.emptyLines '\n'
  ⟨gap ++ t.reversed, [], false, 0⟩

/-- Add characters. -/
def append (t : Joined) (cs : List Char) : Joined := { t with reversed := cs.reverse ++ t.reversed }

/-- The text. -/
def text (t : Joined) : String := String.ofList t.reversed.reverse

end Joined

/-- Pass blanks and line ends inside a scalar.  A tab that stands where indentation has to be is
refused, except in an empty line of a plain scalar. -/
def passGap (isQuoted : Bool) (indent : Int) (fuel : Nat) (c : Cursor) (t : Joined) :
    Option (Cursor × Joined) :=
  match fuel, c.rest with
  | 0, _ => none
  | _, [] => some (c, t)
  | fuel + 1, ch :: _ =>
    if isSpace ch then
      if !c.isLineStart then
        passGap isQuoted indent fuel (c.pass 1) { t with blanks := t.blanks ++ [ch] }
      else if ch = '\t' && (c.column : Int) < indent then
        if isQuoted then none
        else
          match c.passTrailing? with
          | none => none
          | some (_, c) => if endsLine c.rest then passGap isQuoted indent fuel c t else none
      else passGap isQuoted indent fuel (c.pass 1) t
    else if isBreak ch then
      if c.isLineStart then
        passGap isQuoted indent fuel c.newLine { t with emptyLines := t.emptyLines + 1 }
      else passGap isQuoted indent fuel c.newLine { t with blanks := [], isBroken := true }
    else some (c, t)

/-- The characters of a plain scalar up to the next gap. -/
def plainRun (inFlow : Bool) : List Char → List Char
  | [] => []
  | c :: rest =>
    if isSpace c || isBreak c || (inFlow && isFlowMark c) then []
    else if c = ':' && (endsWord rest || (inFlow && rest.head?.any isFlowMark)) then []
    else c :: plainRun inFlow rest

/-- Read on in a plain scalar. -/
def readPlainFrom (inFlow : Bool) (indent : Int) (fuel : Nat) (c : Cursor) (t : Joined) :
    Option (Cursor × Joined) :=
  match fuel with
  | 0 => none
  | fuel + 1 =>
    if c.isAtDocumentMark || c.rest.head? = some '#' then some (c, t)
    else if inFlow && c.rest.head? = some '-' && (c.rest.drop 1).head?.any isFlowMark then none
    else
      let run := plainRun inFlow c.rest
      let t := if run.isEmpty then t else (t.close c.isLineStart).append run
      let c := if run.isEmpty then c else c.advance run.length
      if c.rest.head?.any fun ch => isSpace ch || isBreak ch then do
        let (c, t) ← passGap false indent (c.rest.length + 1) c t
        if !inFlow && (c.column : Int) < indent then some (c, t)
        else readPlainFrom inFlow indent fuel c t
      else some (c, t)

/-- Read a plain scalar.  In a collection in brackets or braces it must not stand left of what the
collection belongs to. -/
def readPlain (inFlow : Bool) (indent : Int) (c : Cursor) : Option (Cursor × String) :=
  if inFlow && (c.column : Int) < indent then none
  else do
    let (c, t) ← readPlainFrom inFlow indent (c.rest.length + 1) c .empty
    if t.reversed.isEmpty then none else some (c, t.text)

/-- A character given by its code in `count` hexadecimal digits. -/
def codeChar? (count : Nat) (cs : List Char) : Option Char := do
  let digits := cs.take count
  let values ← digits.mapM Text.Hex.value?
  let n := values.foldl (fun n d => 16 * n + d) 0
  if digits.length = count && n.isValidChar then some (Char.ofNat n) else none

/-- What stands behind a backslash means: a character, and how many characters it takes. -/
def escape? : List Char → Option (Char × Nat)
  | [] => none
  | c :: rest =>
    match c with
    | '0' => some ('\x00', 1)
    | 'a' => some ('\x07', 1)
    | 'b' => some ('\x08', 1)
    | 't' | '\t' => some ('\t', 1)
    | 'n' => some ('\n', 1)
    | 'v' => some ('\x0b', 1)
    | 'f' => some ('\x0c', 1)
    | 'r' => some ('\r', 1)
    | 'e' => some ('\x1b', 1)
    | ' ' => some (' ', 1)
    | '"' => some ('"', 1)
    | '/' => some ('/', 1)
    | '\\' => some ('\\', 1)
    | 'N' => some (Char.ofNat 0x85, 1)
    | '_' => some (Char.ofNat 0xA0, 1)
    | 'L' => some (Char.ofNat 0x2028, 1)
    | 'P' => some (Char.ofNat 0x2029, 1)
    | 'x' => (codeChar? 2 rest).map (·, 3)
    | 'u' => (codeChar? 4 rest).map (·, 5)
    | 'U' => (codeChar? 8 rest).map (·, 9)
    | _ => none

/-- Read the characters of a quoted scalar up to the next gap or quote.  A backslash in front of a
line end takes it away. -/
def quotedRun (isSingle : Bool) (fuel : Nat) (c : Cursor) (reversed : List Char) :
    Option (Cursor × List Char) :=
  match fuel, c.rest with
  | 0, _ => none
  | _, [] => some (c, reversed)
  | fuel + 1, ch :: rest =>
    if isSpace ch || isBreak ch then some (c, reversed)
    else if isSingle && ch = '\x27' then
      if rest.head? = some '\x27' then quotedRun isSingle fuel (c.advance 2) ('\x27' :: reversed)
      else some (c, reversed)
    else if !isSingle && ch = '"' then some (c, reversed)
    else if !isSingle && ch = '\\' then
      if rest.head?.any isBreak then some ((c.advance 1).newLine, reversed)
      else do
        let (e, n) ← escape? rest
        quotedRun isSingle fuel (c.advance (n + 1)) (e :: reversed)
    else quotedRun isSingle fuel (c.advance 1) (ch :: reversed)

/-- Read on in a quoted scalar. -/
def readQuotedFrom (isSingle : Bool) (indent : Int) (fuel : Nat) (c : Cursor) (t : Joined) :
    Option (Cursor × Joined) :=
  match fuel with
  | 0 => none
  | fuel + 1 =>
    if c.isAtDocumentMark || c.rest.isEmpty || (c.column : Int) < indent then none
    else do
      let (c, reversed) ← quotedRun isSingle (c.rest.length + 1) c t.reversed
      let t := { t with reversed }
      if c.rest.head? = some (if isSingle then '\x27' else '"') then some (c.advance 1, t)
      else
        let (c, t) ← passGap true indent (c.rest.length + 1) c t
        readQuotedFrom isSingle indent fuel c (t.close c.isLineStart)

/-- Read a quoted scalar.  Behind it can only come what may follow a key or a value. -/
def readQuoted (inFlow : Bool) (indent : Int) (c : Cursor) : Option (Cursor × String) := do
  let line := c.line
  let (c, t) ← readQuotedFrom (c.rest.head? = some '\x27') indent (c.rest.length + 1)
    (c.advance 1) .empty
  let (_, c) ← c.passTrailing?
  let mayFollow (ch : Char) : Bool :=
    isBreak ch || (if inFlow then [',', '\x7d', ']', ':'].contains ch
      else ch = ':' && c.line = line)
  if c.rest.head?.all mayFollow then some (c, t.text) else none

/-- What becomes of the line ends behind a block. -/
inductive Chomping
  | strip
  | clip
  | keep
deriving Repr, DecidableEq

/-- What stands behind the mark of a block: what becomes of line ends, and how much further the
block is indented, where zero stands for as far as its first line. -/
structure BlockHeader where
  chomping : Chomping
  further : Nat

/-- The chomping that a mark asks for. -/
def chomping? : Char → Option Chomping
  | '+' => some .keep
  | '-' => some .strip
  | _ => none

/-- Read how a block is to be read.  The two parts can come in either order. -/
def readBlockHeader (c : Cursor) : Option (BlockHeader × Cursor) :=
  let digit? (cs : List Char) : Option Nat :=
    match cs with
    | d :: _ => if d.isDigit then some (d.toNat - 48) else none
    | [] => none
  let chompingAt? (cs : List Char) : Option Chomping := cs.head?.bind chomping?
  match chompingAt? c.rest, digit? c.rest with
  | some chomping, _ =>
    match digit? (c.rest.drop 1) with
    | some 0 => none
    | some n => some (⟨chomping, n⟩, c.advance 2)
    | none => some (⟨chomping, 0⟩, c.advance 1)
  | none, some 0 => none
  | none, some n =>
    match chompingAt? (c.rest.drop 1) with
    | some chomping => some (⟨chomping, n⟩, c.advance 2)
    | none => some (⟨.clip, n⟩, c.advance 1)
  | none, none => some (⟨.clip, 0⟩, c)

/-- Pass empty lines and the indentation of the next one; counts the empty lines. -/
def passIndent (indent fuel : Nat) (c : Cursor) (emptyLines : Nat) : Cursor × Nat :=
  let spaces := (c.rest.takeWhile (· = ' ')).length
  let c := c.pass (min spaces (indent - c.column))
  match fuel with
  | 0 => (c, emptyLines)
  | fuel + 1 =>
    if c.rest.head?.any isBreak then passIndent indent fuel c.newLine (emptyLines + 1)
    else (c, emptyLines)

/-- Pass empty lines and the blanks in front of the first line; finds the widest indentation and
counts the empty lines. -/
def findIndent (fuel : Nat) (c : Cursor) (widest emptyLines : Nat) : Cursor × Nat × Nat :=
  let c := c.pass (c.rest.takeWhile (· = ' ')).length
  let widest := max widest c.column
  match fuel with
  | 0 => (c, widest, emptyLines)
  | fuel + 1 =>
    if c.rest.head?.any isBreak then findIndent fuel c.newLine widest (emptyLines + 1)
    else (c, widest, emptyLines)

/-- The lines of a block that have been read. -/
structure BlockLines where
  /-- The text without the last line end, in reverse. -/
  reversed : List Char
  /-- Has the last line an end? -/
  isEnded : Bool
  /-- The number of empty lines behind it. -/
  emptyLines : Nat
  /-- Does the last line begin with a blank? -/
  isFurther : Bool

/-- The line ends between the lines that have been read and another one. -/
def BlockLines.gap (ls : BlockLines) (isLiteral isFurther : Bool) : List Char :=
  let empties := List.replicate ls.emptyLines '\n'
  if !isLiteral && ls.isEnded && !ls.isFurther && !isFurther then
    if ls.emptyLines = 0 then [' '] else empties
  else (if ls.isEnded then ['\n'] else []) ++ empties

/-- Read the lines of a block, which are all indented the same. -/
def readBlockLines (isLiteral : Bool) (indent fuel : Nat) (c : Cursor) (ls : BlockLines) :
    Cursor × BlockLines :=
  match fuel with
  | 0 => (c, ls)
  | fuel + 1 =>
    if c.column ≠ indent || c.rest.isEmpty || (indent = 0 && c.isAtMark '.') then (c, ls)
    else
      let line := c.rest.takeWhile (!isBreak ·)
      let isFurther := line.head?.any isSpace
      let reversed := line.reverse ++ ls.gap isLiteral isFurther ++ ls.reversed
      let c := c.pass line.length
      if c.rest.isEmpty then (c, ⟨reversed, false, 0, isFurther⟩)
      else
        let (c, emptyLines) := passIndent indent c.rest.length c.newLine 0
        readBlockLines isLiteral indent fuel c ⟨reversed, true, emptyLines, isFurther⟩

/-- The text of a block whose end has been reached at a place. -/
def BlockLines.text (ls : BlockLines) (chomping : Chomping) (indent : Nat) (c : Cursor) :
    String :=
  let final := if ls.isEnded then ['\n'] else []
  let missing := if c.rest.isEmpty && max indent 1 ≤ c.column then ['\n'] else []
  let tail :=
    match chomping with
    | .strip => []
    | .clip => final ++ missing
    | .keep => final ++ missing ++ List.replicate ls.emptyLines '\n'
  String.ofList (ls.reversed.reverse ++ tail)

/-- Read a block behind its mark. -/
def readBlock (isLiteral : Bool) (indent : Int) (c : Cursor) : Option (Cursor × String) := do
  let line := c.line
  let (header, c) ← readBlockHeader c
  let (_, c) ← c.passTrailing?
  if !endsLine c.rest then none
  else
    let hasBreak := !c.rest.isEmpty
    let c := if hasBreak then c.newLine else c
    if c.rest.head? = some '\t' then none
    else
      let (c, width, emptyLines) :=
        if header.further = 0 then
          let (c, widest, emptyLines) := findIndent c.rest.length c 0 0
          let width := max widest (indent + 1).toNat
          (c, if 0 < indent then max width 1 else width, emptyLines)
        else
          let width := (max indent 0).toNat + header.further
          let (c, emptyLines) := passIndent width c.rest.length c 0
          (c, width, emptyLines)
      if c.rest.isEmpty then
        let first := if hasBreak then ['\n'] else []
        let text :=
          match header.chomping with
          | .strip => []
          | .clip => if c.line = line then [] else first
          | .keep =>
            if c.line = line then [] else if emptyLines = 0 then first
            else List.replicate emptyLines '\n'
        some (c, String.ofList text)
      else if c.column < width && indent < (c.column : Int) then none
      else
        let (c, ls) := readBlockLines isLiteral width (c.rest.length + 1) c
          ⟨[], false, emptyLines, false⟩
        some (c, ls.text header.chomping width c)

end RevocationCheck.Document.Yaml
