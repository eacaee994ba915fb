import RevocationCheck.Base64
import RevocationCheck.Text.Blank
import RevocationCheck.Text.Utf8

/-!
# PEM blocks

A block is a line that begins with `-----BEGIN `, base64 lines, and a line that begins with
`-----END `.  Lines before a block are skipped.  Each line that is looked at has to be UTF-8;
what follows the end line of the last block that is asked for is not looked at.

The module reads the first block of a text (`Pem.first`) and the blocks of a whole bundle
(`Pem.blocks`).  The label on the end line is not compared with the one on the begin line.
-/

namespace RevocationCheck.Pem

/-- A labelled piece of binary data. -/
structure Block where
  label : String
  contents : Octets
deriving Repr, DecidableEq

/-- Why no block could be read. -/
inductive Fault
  /-- No begin line before the end of the text. -/
  | missingHeader
  /-- A begin line without its closing dashes. -/
  | invalidHeader
  /-- The text ends inside a block. -/
  | incomplete
  /-- The body of a block is not base64. -/
  | badBase64
  /-- A line is not UTF-8. -/
  | notUtf8
deriving Repr, DecidableEq

/-- The name by which a fault is reported. -/
def Fault.name : Fault → String
  | .missingHeader => "MissingHeader"
  | .invalidHeader => "InvalidHeader"
  | .incomplete => "IncompletePEM"
  | .badBase64 => "Base64DecodeError"
  | .notUtf8 =>
    "IOError(Error \x7b kind: InvalidData, message: \"stream did not contain valid UTF-8\" \x7d)"

/-- The lines of a text without their line feeds; a line feed at the very end starts no
further line. -/
def lines : Octets → List Octets
  | [] => []
  | b :: rest =>
    if b = 10 then [] :: lines rest
    else
      match lines rest with
      | [] => [[b]]
      | line :: others => (b :: line) :: others

/-- What is left after the characters of `front`, if the text begins with them. -/
def stripFront (front cs : List Char) : Option (List Char) :=
  match front, cs with
  | [], cs => some cs
  | _ :: _, [] => none
  | f :: front, c :: cs => if f = c then stripFront front cs else none

/-- The characters before the first five dashes in a row, if there are any. -/
def beforeDashes : List Char → Option (List Char)
  | [] => none
  | c :: rest =>
    match stripFront "-----".toList (c :: rest) with
    | some _ => some []
    | none => (beforeDashes rest).map (c :: ·)

/-- What a line says about a block's beginning. -/
inductive Opening
  | absent
  | malformed
  | labelled (label : String)
deriving Repr, DecidableEq

/-- Read a line as a begin line: its label is the text up to the next dash, and five closing
dashes must follow somewhere. -/
def opening (line : List Char) : Opening :=
  match stripFront "-----BEGIN ".toList line with
  | none => .absent
  | some rest =>
    match beforeDashes rest with
    | none => .malformed
    | some label => .labelled (String.ofList (label.takeWhile (· ≠ '-')))

/-- Is the line an end line? -/
def isEnd (line : List Char) : Bool := (stripFront "-----END ".toList line).isSome

/-- Read on inside a block whose body so far is `body`. -/
def readBody (label : String) (body : List Char) :
    List Octets → Except Fault (Block × List Octets)
  | [] => .error .incomplete
  | line :: rest =>
    match Text.Utf8.decodeChars line with
    | none => .error .notUtf8
    | some cs =>
      if isEnd cs then
        match Base64.decode? body with
        | none => .error .badBase64
        | some contents => .ok (⟨label, contents⟩, rest)
      else readBody label (body ++ Text.trimEnd cs) rest

/-- The first block of the lines, and the lines after it. -/
def readBlock : List Octets → Except Fault (Block × List Octets)
  | [] => .error .missingHeader
  | line :: rest =>
    match Text.Utf8.decodeChars line with
    | none => .error .notUtf8
    | some cs =>
      match opening cs with
      | .absent => readBlock rest
      | .malformed => .error .invalidHeader
      | .labelled label => readBody label [] rest

theorem length_of_readBody {label : String} {body : List Char} {ls rest : List Octets}
    {block : Block} (h : readBody label body ls = .ok (block, rest)) :
    rest.length < ls.length := by
  induction ls generalizing body with
  | nil => simp [readBody] at h
  | cons line ls ih =>
    rw [readBody] at h
    split at h
    · cases h
    · split at h
      · split at h
        · cases h
        · cases h
          simp
      · have := ih h
        simp
        omega

theorem length_of_readBlock {ls rest : List Octets} {block : Block}
    (h : readBlock ls = .ok (block, rest)) : rest.length < ls.length := by
  induction ls with
  | nil => simp [readBlock] at h
  | cons line ls ih =>
    rw [readBlock] at h
    split at h
    · cases h
    · split at h
      · have := ih h
        simp
        omega
      · cases h
      · have := length_of_readBody h
        simp
        omega

/-- All blocks of the lines, in order.  Lines without a further begin line end the list; any
other fault spoils all of it. -/
def readBlocks (ls : List Octets) : Except Fault (List Block) :=
  match h : readBlock ls with
  | .error .missingHeader => .ok []
  | .error fault => .error fault
  | .ok (block, rest) =>
    have := length_of_readBlock h
    (readBlocks rest).map (block :: ·)
termination_by ls.length

/-- The first block of a text. -/
def first (text : Octets) : Except Fault Block := (readBlock (lines text)).map Prod.fst

/-- Every block of a text. -/
def blocks (text : Octets) : Except Fault (List Block) := readBlocks (lines text)

/-- The label of blocks that hold certificates. -/
def certificateLabel : String := "CERTIFICATE"

/-- The encoded certificates among the blocks of a text. -/
def certificates (text : Octets) : Except Fault (List Octets) :=
  (blocks text).map fun bs => (bs.filter fun b => b.label = certificateLabel).map Block.contents

end RevocationCheck.Pem
