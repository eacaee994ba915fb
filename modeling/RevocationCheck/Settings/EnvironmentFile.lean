import RevocationCheck.Text.Alphanumeric
import RevocationCheck.Text.Blank
import RevocationCheck.Text.Utf8

/-!
# Environment files

An environment file gives variables that the environment lacks, one `NAME=value` a line.  A value
may be quoted, then it may run over several lines, and it may refer to variables by `$NAME` or
by `$` and a name in braces.  Variables that are set already keep their values.  The first line
that is malformed ends the file; what stands before it counts.

An environment cannot hold a value with a null character, so a file that would set one has no
environment to give.
-/

namespace RevocationCheck.Settings

/-- The variables of an environment with their values. -/
abbrev Environment := List (String × String)

namespace Environment

/-- The value of a variable. -/
def get? (environment : Environment) (name : String) : Option String :=
  (environment.find? fun entry => entry.1 = name).map Prod.snd

/-- Set a variable that is not set yet; nothing if it cannot have the value. -/
def setNew? (environment : Environment) (name value : String) : Option Environment :=
  match environment.get? name with
  | some _ => some environment
  | none => if value.contains '\x00' then none else some (environment ++ [(name, value)])

end Environment

namespace EnvironmentFile

/-- The lines of a file, each with its line feed. -/
def lines : Octets → List Octets
  | [] => []
  | b :: rest =>
    if b = 10 then [b] :: lines rest
    else
      match lines rest with
      | [] => [[b]]
      | line :: others => (b :: line) :: others

/-- Where a reader stands that looks for the end of a line. -/
inductive Place
  | bare
  | blank
  | bareEscape
  | single
  | singleEscape
  | double
  | doubleEscape
deriving Repr, DecidableEq

/-- The place behind a character; a comment begins if there is none. -/
def Place.next? (place : Place) (c : Char) : Option Place :=
  match place with
  | bare =>
    if Text.isBlank c && c ≠ '\n' && c ≠ '\r' then some blank
    else if c = '\\' then some bareEscape
    else if c = '"' then some double
    else if c = '\x27' then some single
    else some bare
  | blank =>
    if c = '#' then none
    else if c = '\\' then some bareEscape
    else if c = '"' then some double
    else if c = '\x27' then some single
    else some bare
  | bareEscape => some bare
  | single => if c = '\\' then some singleEscape else if c = '\x27' then some bare else some single
  | singleEscape => some single
  | double => if c = '\\' then some doubleEscape else if c = '"' then some bare else some double
  | doubleEscape => some double

/-- The characters in front of a comment, and the place at the end if no comment begins. -/
def scan (place : Place) : List Char → List Char × Option Place
  | [] => ([], some place)
  | c :: rest =>
    match place.next? c with
    | none => ([], none)
    | some place =>
      let (kept, final) := scan place rest
      (c :: kept, final)

/-- Join lines that belong together because a quotation goes on.  Nothing stands for the point
where the file is malformed. -/
def join (front : List Char) (place : Place) : List Octets → List (Option (List Char))
  | [] => if place = .bare then [] else [none]
  | line :: rest =>
    match Text.Utf8.decodeChars line with
    | none => [none]
    | some cs =>
      if (Text.trimStart (front ++ cs)).head? = some '#' then some [] :: join [] .bare rest
      else
        match scan place cs with
        | (kept, none) => some (front ++ kept) :: join [] .bare rest
        | (_, some .bare) => some (front ++ cs) :: join [] .bare rest
        | (_, some place) => join (front ++ cs) place rest

/-- Where a reader stands that looks at a value. -/
inductive Part
  | bare
  | single
  | double
  | ended
  /-- Behind a backslash. -/
  | escape (quoted : Bool)
  /-- In the name of a variable, whose characters come in reverse. -/
  | name (quoted : Bool) (reversed : List Char)
  /-- In the name of a variable in braces. -/
  | bracedName (quoted : Bool) (reversed : List Char)
deriving Repr, DecidableEq

/-- The part outside names, inside or outside double quotes. -/
def Part.of (quoted : Bool) : Part := if quoted then double else bare

/-- The value of the variable whose name comes in reverse; a variable that is not set is
empty. -/
def reference (environment : Environment) (reversed : List Char) : List Char :=
  ((environment.get? (String.ofList reversed.reverse)).getD "").toList

/-- Read a value. -/
def readValue (environment : Environment) (part : Part) : List Char → Option (List Char)
  | [] =>
    match part with
    | .single | .double | .bracedName .. | .name true _ | .escape true => none
    | .name false reversed => some (reference environment reversed)
    | _ => some []
  | c :: rest =>
    match part with
    | .ended =>
      if c = ' ' || c = '\t' then readValue environment .ended rest
      else if c = '#' then some []
      else none
    | .escape quoted =>
      if c = 'n' then (readValue environment (.of quoted) rest).map ('\n' :: ·)
      else if c = '\\' || c = '\x27' || c = '"' || c = '$' || c = ' ' then
        (readValue environment (.of quoted) rest).map (c :: ·)
      else none
    | .single =>
      if c = '\x27' then readValue environment .bare rest
      else (readValue environment .single rest).map (c :: ·)
    | .name quoted reversed =>
      if Text.isAlphanumeric c then readValue environment (.name quoted (c :: reversed)) rest
      else if c = '\x7b' && reversed.isEmpty then
        readValue environment (.bracedName quoted []) rest
      else if c = '$' then
        (readValue environment (.name quoted []) rest).map (reference environment reversed ++ ·)
      else
        (readValue environment (.of quoted) rest).map
          (reference environment reversed ++ c :: ·)
    | .bracedName quoted reversed =>
      if c = '\x7d' then
        (readValue environment (.of quoted) rest).map (reference environment reversed ++ ·)
      else readValue environment (.bracedName quoted (c :: reversed)) rest
    | .double =>
      if c = '$' then readValue environment (.name true []) rest
      else if c = '"' then readValue environment .bare rest
      else if c = '\\' then readValue environment (.escape true) rest
      else (readValue environment .double rest).map (c :: ·)
    | .bare =>
      if c = '$' then readValue environment (.name false []) rest
      else if c = '\x27' then readValue environment .single rest
      else if c = '"' then readValue environment .double rest
      else if c = '\\' then readValue environment (.escape false) rest
      else if c = ' ' || c = '\t' then readValue environment .ended rest
      else (readValue environment .bare rest).map (c :: ·)

/-- May a character begin a name? -/
def isNameStart (c : Char) : Bool := c.isAlpha || c = '_'

/-- May a character stand in a name? -/
def isNameChar (c : Char) : Bool := c.isAlphanum || c = '_' || c = '.'

/-- Read a name, and skip blanks behind it. -/
def readName (cs : List Char) : Option (String × List Char) :=
  if cs.head?.any isNameStart then
    some (String.ofList (cs.takeWhile isNameChar), Text.trimStart (cs.dropWhile isNameChar))
  else none

/-- Read a name and an equals sign; the word `export` may stand in front of the name. -/
def readAssigned (cs : List Char) : Option (String × List Char) := do
  let (name, rest) ← readName cs
  match rest with
  | '=' :: rest => some (name, rest)
  | _ =>
    if name = "export" then
      let (name, rest) ← readName rest
      match rest with
      | '=' :: rest => some (name, rest)
      | _ => none
    else none

/-- Read a line that gives a variable, a blank one, or a comment. -/
def readLine (environment : Environment) (line : List Char) :
    Option (Option (String × String)) :=
  match Text.trim line with
  | [] => some none
  | '#' :: _ => some none
  | cs => do
    let (name, rest) ← readAssigned cs
    match Text.trimStart rest with
    | [] => some (some (name, ""))
    | '#' :: _ => some (some (name, ""))
    | cs =>
      let value ← readValue environment .bare cs
      some (some (name, String.ofList value))

/-- The environment with what lines add to it; nothing if it cannot hold that. -/
def extend? (environment : Environment) : List (Option (List Char)) → Option Environment
  | [] => some environment
  | none :: _ => some environment
  | some line :: rest =>
    match readLine environment line with
    | none => some environment
    | some none => extend? environment rest
    | some (some (name, value)) =>
      match environment.setNew? name value with
      | none => none
      | some environment => extend? environment rest

/-- The environment with what a file adds to it; nothing if it cannot hold that. -/
def load? (data : Octets) (environment : Environment) : Option Environment :=
  extend? environment (join [] .bare (lines (Text.Utf8.withoutMark data)))

end EnvironmentFile

end RevocationCheck.Settings
