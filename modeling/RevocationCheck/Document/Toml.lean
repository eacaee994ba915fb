import RevocationCheck.Document.DateTime
import RevocationCheck.Document.Number
import RevocationCheck.Number.Word
import RevocationCheck.Text.Hex

/-!
# TOML

Tables, arrays of tables, dotted keys, and the values of the notation.  A key may be given once,
a table may be opened once, and a table that is written inside braces is complete, though it may
take several lines.  Dates and times become text.

A key has at most eighty parts, and values are nested at most as many levels deep.
-/

namespace RevocationCheck.Document.Toml

/-- How a table came to be, which decides who may add to it. -/
inductive Origin
  /-- On the way to another table. -/
  | implied
  /-- By a line of its own. -/
  | opened
  /-- By a dotted key. -/
  | dotted
deriving DecidableEq

/-- A part of the tree under construction. -/
inductive Node
  | value (d : Document)
  | table (origin : Origin) (entries : List (String × Node))
  | tables (elements : List (List (String × Node)))

/-- The entries of a table under construction. -/
abbrev Entries := List (String × Node)

mutual

/-- The document that a node is. -/
def Node.toDocument : Node → Document
  | .value d => d
  | .table _ entries => .table (entriesToDocument entries)
  | .tables elements => .array (elementsToDocument elements)

/-- The documents that entries are. -/
def entriesToDocument : Entries → List (String × Document)
  | [] => []
  | (k, n) :: rest => (k, n.toDocument) :: entriesToDocument rest

/-- The documents that elements are. -/
def elementsToDocument : List Entries → List Document
  | [] => []
  | e :: rest => .table (entriesToDocument e) :: elementsToDocument rest

end

/-- Change the last of some elements. -/
def changeLast (change : Entries → Option Entries) : List Entries → Option (List Entries)
  | [] => none
  | [e] => (change e).map ([·])
  | e :: rest => (changeLast change rest).map (e :: ·)

/-- Change the table at a path, which is made on the way where it is missing. -/
def changeAt (made : Origin) (change : Entries → Option Entries) :
    List String → Entries → Option Entries
  | [], entries => change entries
  | key :: path, entries =>
    match valueAt? key entries with
    | none => do
      let inner ← changeAt made change path []
      some (entries ++ [(key, .table made inner)])
    | some (.value _) => none
    | some (.table origin inner) =>
      if made = .dotted && origin = .opened then none
      else do
        let inner ← changeAt made change path inner
        some (insertEntry key (.table origin inner) entries)
    | some (.tables elements) =>
      if made = .dotted then none
      else do
        let elements ← changeLast (changeAt made change path) elements
        some (insertEntry key (.tables elements) entries)

/-- Give a key its value. -/
def addValue (key : String) (value : Document) (entries : Entries) : Option Entries :=
  if (valueAt? key entries).isSome then none else some (entries ++ [(key, .value value)])

/-- Open a table. -/
def openTable (key : String) (entries : Entries) : Option Entries :=
  match valueAt? key entries with
  | none => some (entries ++ [(key, .table .opened [])])
  | some (.table .implied inner) => some (insertEntry key (.table .opened inner) entries)
  | some _ => none

/-- Open a new element of an array of tables. -/
def openElement (key : String) (entries : Entries) : Option Entries :=
  match valueAt? key entries with
  | none => some (entries ++ [(key, .tables [[]])])
  | some (.tables elements) => some (insertEntry key (.tables (elements ++ [[]])) entries)
  | some _ => none

/-- Split off the last key of a path. -/
def splitLast (path : List String) : Option (List String × String) :=
  path.getLast?.map fun last => (path.dropLast, last)

/-- Add a value under a dotted key to a table. -/
def addDotted (path : List String) (value : Document) (entries : Entries) : Option Entries := do
  let (front, last) ← splitLast path
  changeAt .dotted (addValue last value) front entries

/-- Skip spaces and tabs. -/
def skipSpaces (cs : List Char) : List Char := cs.dropWhile fun c => c = ' ' || c = '\t'

/-- Is a character one that comments and strings may not hold as it is? -/
def isControl (c : Char) : Bool := (c.toNat < 0x20 && c ≠ '\t') || c.toNat = 0x7F

/-- Skip a comment, which ends in front of the next control character. -/
def skipComment (cs : List Char) : List Char :=
  match cs with
  | '#' :: rest => rest.dropWhile fun c => !isControl c
  | _ => cs

/-- Skip blanks, line ends and comments. -/
def skipLines (fuel : Nat) (cs : List Char) : List Char :=
  match fuel, skipComment (skipSpaces cs) with
  | fuel + 1, '\n' :: rest => skipLines fuel rest
  | fuel + 1, '\r' :: '\n' :: rest => skipLines fuel rest
  | _, rest => rest

/-- What must follow a line's content: blanks, a comment, and the line's end. -/
def endLine (cs : List Char) : Option (List Char) :=
  match skipComment (skipSpaces cs) with
  | [] => some []
  | '\n' :: rest => some rest
  | '\r' :: '\n' :: rest => some rest
  | ['\r'] => none
  | _ => none

/-- A character given by its code in `count` hexadecimal digits. -/
def readCode (count : Nat) (cs : List Char) : Option (Char × List Char) := do
  let digits := cs.take count
  let values ← digits.mapM Text.Hex.value?
  let n := values.foldl (fun n d => 16 * n + d) 0
  if digits.length = count && n.isValidChar then some (Char.ofNat n, cs.drop count) else none

/-- The character behind a backslash. -/
def readEscape : List Char → Option (Char × List Char)
  | '"' :: rest => some ('"', rest)
  | '\\' :: rest => some ('\\', rest)
  | 'b' :: rest => some ('\x08', rest)
  | 'e' :: rest => some ('\x1b', rest)
  | 'f' :: rest => some ('\x0c', rest)
  | 'n' :: rest => some ('\n', rest)
  | 'r' :: rest => some ('\r', rest)
  | 't' :: rest => some ('\t', rest)
  | 'x' :: rest => readCode 2 rest
  | 'u' :: rest => readCode 4 rest
  | 'U' :: rest => readCode 8 rest
  | _ => none

/-- Read a string with escapes behind its opening quote. -/
def readBasic (fuel : Nat) (cs : List Char) : Option (List Char × List Char) :=
  match fuel, cs with
  | 0, _ => none
  | _, [] => none
  | _ + 1, '"' :: rest => some ([], rest)
  | fuel + 1, '\\' :: rest => do
    let (c, rest) ← readEscape rest
    let (more, rest) ← readBasic fuel rest
    some (c :: more, rest)
  | fuel + 1, c :: rest => do
    if isControl c then none
    else
      let (more, rest) ← readBasic fuel rest
      some (c :: more, rest)

/-- Read a string without escapes behind its opening quote. -/
def readLiteral (cs : List Char) : Option (List Char × List Char) :=
  let isQuote (c : Char) : Bool := c = '\x27'
  let body := cs.takeWhile fun c => !isQuote c
  match cs.dropWhile fun c => !isQuote c with
  | _ :: rest => if body.any isControl then none else some (body, rest)
  | [] => none

/-- Up to two more quotes that belong to a string in front of its closing three. -/
def closing (quote : Char) (cs : List Char) : Option (List Char × List Char) :=
  let run := (cs.takeWhile (· = quote)).length
  if run < 3 then none
  else
    let extra := min (run - 3) 2
    some (List.replicate extra quote, cs.drop (extra + 3))

/-- Read a string over several lines behind its opening quotes. -/
def readLong (quote : Char) (fuel : Nat) (cs : List Char) : Option (List Char × List Char) :=
  match fuel, cs with
  | 0, _ => none
  | _, [] => none
  | fuel + 1, c :: rest =>
    if c = quote then
      match closing quote cs with
      | some parts => some parts
      | none => (readLong quote fuel rest).map fun (more, rest) => (c :: more, rest)
    else if c = '\\' && quote = '"' then
      match skipSpaces rest with
      | '\n' :: _ | '\r' :: '\n' :: _ =>
        readLong quote fuel (rest.dropWhile fun c =>
          c = ' ' || c = '\t' || c = '\n' || c = '\r')
      | _ => do
        let (e, rest) ← readEscape rest
        let (more, rest) ← readLong quote fuel rest
        some (e :: more, rest)
    else if isControl c && c ≠ '\n' && !(c = '\r' && rest.head? = some '\n') then none
    else (readLong quote fuel rest).map fun (more, rest) => (c :: more, rest)

/-- Drop a line end directly behind the opening quotes. -/
def dropFirstLineEnd : List Char → List Char
  | '\n' :: rest => rest
  | '\r' :: '\n' :: rest => rest
  | cs => cs

/-- Read a string of any kind. -/
def readString (cs : List Char) : Option (String × List Char) :=
  let fuel := cs.length + 1
  let parts :=
    match cs with
    | '"' :: '"' :: '"' :: rest => readLong '"' fuel (dropFirstLineEnd rest)
    | '"' :: rest => readBasic fuel rest
    | '\x27' :: '\x27' :: '\x27' :: rest => readLong '\x27' fuel (dropFirstLineEnd rest)
    | '\x27' :: rest => readLiteral rest
    | _ => none
  parts.map fun (s, rest) => (String.ofList s, rest)

/-- May a character stand in a key without quotes? -/
def isBareKeyChar (c : Char) : Bool := c.isAlphanum || c = '_' || c = '-'

/-- Read one key. -/
def readSimpleKey (cs : List Char) : Option (String × List Char) :=
  match cs with
  | '"' :: '"' :: '"' :: _ => none
  | '"' :: rest =>
    (readBasic (rest.length + 1) rest).map fun (s, rest) => (String.ofList s, rest)
  | '\x27' :: rest => (readLiteral rest).map fun (s, rest) => (String.ofList s, rest)
  | _ =>
    let key := cs.takeWhile isBareKeyChar
    if key.isEmpty then none else some (String.ofList key, cs.dropWhile isBareKeyChar)

/-- Read at most `limit` keys joined by dots. -/
def readKeys (limit : Nat) (cs : List Char) : Option (List String × List Char) :=
  match limit with
  | 0 => none
  | limit + 1 => do
    let (key, rest) ← readSimpleKey (skipSpaces cs)
    match skipSpaces rest with
    | '.' :: rest =>
      let (keys, rest) ← readKeys limit rest
      some (key :: keys, rest)
    | rest => some ([key], rest)

/-- The largest number of keys joined by dots. -/
def maxKeys : Nat := 80

/-- Read a key, which can have several parts. -/
def readKey (cs : List Char) : Option (List String × List Char) := readKeys maxKeys cs

/-- Digits of a base with single underscores between them. -/
def readDigits? (base : Nat) (cs : List Char) : Option Nat :=
  let groups := cs.splitOn '_'
  if groups.any List.isEmpty then none
  else
    groups.flatten.foldl
      (fun n c =>
        match n, Text.Hex.value? c with
        | some n, some d => if d < base then some (base * n + d) else none
        | _, _ => none)
      (some 0)

/-- An integer of 64 bits. -/
def integer? (n : Int) : Option Document :=
  if Word.isSigned n then some (.integer n) else none

/-- A word as a decimal number, whole or not. -/
def decimal? (negative : Bool) (cs : List Char) : Option Document :=
  let plain := cs.filter (· ≠ '_')
  let hasLeadingZero : Bool :=
    match plain with
    | '0' :: c :: _ => c.isDigit
    | _ => false
  let isSpaced : Bool := (cs.splitOn '_').all fun group =>
    group.head?.any Char.isDigit && group.getLast?.any Char.isDigit
  let (parts, rest) := DecimalParts.split plain
  if !rest.isEmpty || !parts.isComplete || hasLeadingZero || !isSpaced then none
  else if parts.isWhole then
    let n : Int := Digits.value parts.whole
    integer? (if negative then -n else n)
  else
    let x := parts.toBinary negative
    if x.isInfinite then none else some (.float x)

/-- A word as a number, with or without a sign. -/
def number? (cs : List Char) : Option Document :=
  match cs with
  | '0' :: 'x' :: rest => (readDigits? 16 rest).bind fun n => integer? n
  | '0' :: 'o' :: rest => (readDigits? 8 rest).bind fun n => integer? n
  | '0' :: 'b' :: rest => (readDigits? 2 rest).bind fun n => integer? n
  | '+' :: rest => signed false rest
  | '-' :: rest => signed true rest
  | _ => signed false cs
where
  /-- The word behind a sign. -/
  signed (negative : Bool) (cs : List Char) : Option Document :=
    match String.ofList cs with
    | "inf" => some (.float (.infinite negative))
    | "nan" => some (.float .nan)
    | _ => decimal? negative cs

/-- The characters of a word. -/
def isWordChar (c : Char) : Bool :=
  c.isAlphanum || c = '+' || c = '-' || c = '_' || c = '.'

/-- Read a word: a truth value, a date or a time, or a number. -/
def readWord (cs : List Char) : Option (Document × List Char) :=
  let word := cs.takeWhile isWordChar
  let rest := cs.dropWhile isWordChar
  match String.ofList word with
  | "true" => some (.boolean true, rest)
  | "false" => some (.boolean false, rest)
  | _ =>
    match DateTime.read? cs with
    | some (d, rest) => some (.text d.text, rest)
    | none => (number? word).map (·, rest)

/-- The largest number of brackets and braces around a value. -/
def maxDepth : Nat := 80

mutual

/-- Read a value; `fuel` bounds the steps and `depth` the nesting. -/
def readValue (fuel depth : Nat) (cs : List Char) : Option (Document × List Char) :=
  match fuel with
  | 0 => none
  | fuel + 1 =>
    match cs, depth with
    | '[' :: rest, depth + 1 =>
      (readItems fuel depth rest).map fun (items, rest) => (.array items, rest)
    | '\x7b' :: rest, depth + 1 =>
      (readInline fuel depth [] rest).map fun (entries, rest) =>
        (.table (entriesToDocument entries), rest)
    | '[' :: _, 0 | '\x7b' :: _, 0 => none
    | '"' :: _, _ | '\x27' :: _, _ => (readString cs).map fun (s, rest) => (.text s, rest)
    | _, _ => readWord cs

/-- Read the items of an array up to its closing bracket. -/
def readItems (fuel depth : Nat) (cs : List Char) : Option (List Document × List Char) :=
  match fuel with
  | 0 => none
  | fuel + 1 =>
    match skipLines cs.length cs with
    | ']' :: rest => some ([], rest)
    | cs => do
      let (item, rest) ← readValue fuel depth cs
      match skipLines rest.length rest with
      | ',' :: rest =>
        let (items, rest) ← readItems fuel depth rest
        some (item :: items, rest)
      | ']' :: rest => some ([item], rest)
      | _ => none

/-- Read the entries of a table in braces up to the closing one. -/
def readInline (fuel depth : Nat) (entries : Entries) (cs : List Char) :
    Option (Entries × List Char) :=
  match fuel with
  | 0 => none
  | fuel + 1 =>
    match skipLines cs.length cs with
    | '\x7d' :: rest => some (entries, rest)
    | cs => do
      let (path, rest) ← readKey cs
      match rest with
      | '=' :: rest =>
        let (value, rest) ← readValue fuel depth (skipSpaces rest)
        let entries ← addDotted path value entries
        match skipLines rest.length rest with
        | ',' :: rest => readInline fuel depth entries rest
        | '\x7d' :: rest => some (entries, rest)
        | _ => none
      | _ => none

end

/-- Read line after line; `current` is the path of the table that is open. -/
def readLines (fuel : Nat) (current : List String) (root : Entries) (cs : List Char) :
    Option Entries :=
  match fuel with
  | 0 => none
  | fuel + 1 =>
    match skipLines cs.length cs with
    | [] => some root
    | '[' :: '[' :: rest => do
      let (path, rest) ← readKey rest
      let (front, last) ← splitLast path
      match rest with
      | ']' :: ']' :: rest =>
        let root ← changeAt .implied (openElement last) front root
        readLines fuel path root (← endLine rest)
      | _ => none
    | '[' :: rest => do
      let (path, rest) ← readKey rest
      let (front, last) ← splitLast path
      match rest with
      | ']' :: rest =>
        let root ← changeAt .implied (openTable last) front root
        readLines fuel path root (← endLine rest)
      | _ => none
    | cs => do
      let (path, rest) ← readKey cs
      match rest with
      | '=' :: rest =>
        let (value, rest) ← readValue (rest.length + 1) maxDepth (skipSpaces rest)
        let root ← changeAt .implied (addDotted path value) current root
        readLines fuel current root (← endLine rest)
      | _ => none

/-- The characters of a text without the mark of its encoding. -/
def withoutMark : List Char → List Char
  | '\ufeff' :: rest => rest
  | cs => cs

/-- Read a text, which is one table. -/
def parse? (s : String) : Option (List (String × Document)) :=
  let cs := withoutMark s.toList
  (readLines (cs.length + 1) [] [] cs).map entriesToDocument

end RevocationCheck.Document.Toml
