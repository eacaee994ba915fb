import RevocationCheck.Document.Yaml.Cursor
import RevocationCheck.Document.Yaml.Token
import RevocationCheck.Text.Hex

/-!
# Anchors, tags and directives

An anchor names a node and an alias repeats it.  A tag says of what kind a node is.  A directive
in front of a document declares handles, which tags may use as the first part of their names.
-/

namespace RevocationCheck.Document.Yaml

/-- May a character stand in the name of an anchor?  The mark of a text's encoding may not. -/
def isAnchorChar (c : Char) : Bool :=
  !isSpace c && !isBreak c && !isFlowMark c && c ≠ Char.ofNat 0xFEFF

/-- May a character stand in a handle? -/
def isWordChar (c : Char) : Bool := c.isAlphanum || c = '-' || c = '_'

/-- May a character stand in an identifier between angle brackets, or in what a handle stands
for? -/
def isIdentifierChar (c : Char) : Bool :=
  isWordChar c || "#;/?:@&=+$,.!~*\x27()[]%".toList.contains c

/-- May a character stand in a tag behind its handle? -/
def isTagChar (c : Char) : Bool := isIdentifierChar c && !isFlowMark c && c ≠ '!'

/-- Read the name of an anchor behind its mark. -/
def readAnchor (c : Cursor) : Option (Cursor × String) :=
  let name := c.rest.takeWhile isAnchorChar
  if name.isEmpty then none else some (c.advance name.length, String.ofList name)

/-- The octet that a percent sign and two hexadecimal digits stand for. -/
def escapedOctet? : List Char → Option Nat
  | '%' :: a :: b :: _ => do some (16 * (← Text.Hex.value? a) + (← Text.Hex.value? b))
  | _ => none

/-- How many more octets belong to a character whose first one is given. -/
def followerCount? (octet : Nat) : Option Nat :=
  if octet < 0x80 then some 0
  else if octet < 0xC0 then none
  else if octet < 0xE0 then some 1
  else if octet < 0xF0 then some 2
  else if octet < 0xF8 then some 3
  else none

/-- Read further octets of a character, which are put behind the code as they are. -/
def readFollowers : Nat → Nat → Cursor → Option (Cursor × Nat)
  | 0, code, c => some (c, code)
  | n + 1, code, c => do
    let octet ← escapedOctet? c.rest
    if octet / 64 = 2 then readFollowers n (256 * code + octet) (c.advance 3) else none

/-- Read a character in percent signs. -/
def readEscape (c : Cursor) : Option (Cursor × Char) := do
  let octet ← escapedOctet? c.rest
  let (c, code) ← readFollowers (← followerCount? octet) octet (c.advance 3)
  if code.isValidChar then some (c, Char.ofNat code) else none

/-- Read characters of a class and characters in percent signs; gives them in reverse. -/
def readEscaped (isIn : Char → Bool) (fuel : Nat) (c : Cursor) (reversed : List Char) :
    Option (Cursor × List Char) :=
  match fuel, c.rest with
  | fuel + 1, ch :: _ =>
    if !isIn ch then some (c, reversed)
    else if ch = '%' then do
      let (c, e) ← readEscape c
      readEscaped isIn fuel c (e :: reversed)
    else readEscaped isIn fuel (c.advance 1) (ch :: reversed)
  | _, _ => some (c, reversed)

/-- Read a run of characters of a class. -/
def readRun (isIn : Char → Bool) (c : Cursor) : Option (Cursor × String) :=
  (readEscaped isIn c.rest.length c []).map fun (c, reversed) => (c, String.ofList reversed.reverse)

/-- Read a handle: an exclamation mark, a word, and another exclamation mark, which can be
missing. -/
def readHandle (c : Cursor) : Option (Cursor × String) :=
  match c.rest with
  | '!' :: rest =>
    let word := rest.takeWhile isWordChar
    let close := if (rest.drop word.length).head? = some '!' then ['!'] else []
    let handle := '!' :: word ++ close
    some (c.advance handle.length, String.ofList handle)
  | _ => none

/-- Is a handle closed by a second exclamation mark? -/
def isClosedHandle (handle : String) : Bool :=
  2 ≤ handle.length && handle.toList.getLast? = some '!'

/-- Read a tag between angle brackets, which has no handle. -/
def readVerbatim (c : Cursor) : Option (Cursor × Tag) := do
  let (c, suffix) ← readRun isIdentifierChar (c.advance 2)
  if c.rest.head? = some '>' then some (c.advance 1, ⟨"", suffix⟩) else none

/-- Read a tag that begins with a handle.  A word that no exclamation mark closes belongs to what
follows, and an exclamation mark alone is a tag without a handle. -/
def readShorthand (c : Cursor) : Option (Cursor × Tag) := do
  let (c, handle) ← readHandle c
  let (c, run) ← readRun isTagChar c
  if isClosedHandle handle then if run.isEmpty then none else some (c, ⟨handle, run⟩)
  else
    let suffix := String.ofList (handle.toList.drop 1) ++ run
    some (c, if suffix.isEmpty then ⟨"", "!"⟩ else ⟨"!", suffix⟩)

/-- Read a tag.  Blanks must follow it, or what ends an item or entry. -/
def readTag (inFlow : Bool) (c : Cursor) : Option (Cursor × Tag) := do
  let (c, tag) ← if c.rest.take 2 = ['!', '<'] then readVerbatim c else readShorthand c
  if endsWord c.rest || (inFlow && c.rest.head?.any isFlowMark) then some (c, tag) else none

/-- Read one part of a version, of nine digits at most. -/
def readVersionPart (c : Cursor) : Option Cursor :=
  let digits := c.rest.takeWhile Char.isDigit
  if digits.isEmpty || 9 < digits.length then none else some (c.advance digits.length)

/-- Read the version in a directive. -/
def readVersion (c : Cursor) : Option (Cursor × Token) := do
  let c ← readVersionPart c.passBlanks
  if c.rest.head? = some '.' then (readVersionPart (c.advance 1)).map (·, .version) else none

/-- Read a handle and what it stands for in a directive. -/
def readHandleMeaning (c : Cursor) : Option (Cursor × Token) := do
  let (c, handle) ← readHandle c.passBlanks
  if handle ≠ "!" && !isClosedHandle handle then none
  else
    let c := c.passBlanks
    let isLocal := c.rest.head? = some '!'
    if !isLocal && !c.rest.head?.any isTagChar then none
    else
      let (c, meaning) ← readRun isIdentifierChar c
      if endsWord c.rest then some (c, .handle handle meaning) else none

/-- Read a directive with its line.  One of another name is passed over, but leaves the
declaration of an empty handle. -/
def readDirective (c : Cursor) : Option (Cursor × Token) := do
  let c := c.advance 1
  let name := c.rest.takeWhile isWordChar
  let c := c.advance name.length
  if name.isEmpty || !endsWord c.rest then none
  else
    let (c, token) ←
      match String.ofList name with
      | "YAML" => readVersion c
      | "TAG" => readHandleMeaning c
      | _ => some (c.passLine, .handle "" "")
    let (_, c) ← c.passTrailing?
    if !endsLine c.rest then none
    else some (if c.rest.isEmpty then c else c.newLine, token)

end RevocationCheck.Document.Yaml
