import RevocationCheck.Number.Word

/-!
# Arguments of the command line

The command line names a bundle and has two options, a flag and a number.  Options may stand
before or behind the bundle; two dashes end them.

An argument is looked at only after the next one has been recognised: what is wrong with the
value of an option, or with the bundle, is noticed when the next known option or the end comes.
-/

namespace RevocationCheck.CommandLine

/-- What a command line asks for. -/
structure Request where
  /-- The file with the certificates. -/
  bundle : String
  /-- Have the certificates been verified as a chain? -/
  verified : Bool
  /-- How many certificates to check. -/
  depth : Option Nat
deriving Repr, DecidableEq

/-- Why a command line is malformed. -/
inductive UsageFault
  | noBundle
  | unexpectedArgument (argument : String)
  | unexpectedValue (value argument : String)
  | missingValue (argument : String)
  | repeated (argument : String)
  | badDepth (value : String) (fault : Word.Fault)
deriving Repr, DecidableEq

/-- How the bundle is written in messages. -/
def bundleName : String := "<BUNDLE>"

/-- How the flag is written in messages. -/
def verifiedName : String := "--verified"

/-- How the number is written in messages. -/
def depthName : String := "--depth <DEPTH>"

/-- The text of a fault. -/
def UsageFault.message : UsageFault → String
  | noBundle => "error: the following required arguments were not provided:"
  | unexpectedArgument argument => "error: unexpected argument '" ++ argument ++ "' found"
  | unexpectedValue value argument =>
    "error: unexpected value '" ++ value ++ "' for '" ++ argument ++
      "' found; no more were expected"
  | missingValue argument =>
    "error: a value is required for '" ++ argument ++ "' but none was supplied"
  | repeated argument =>
    "error: the argument '" ++ argument ++ "' cannot be used multiple times"
  | badDepth value fault =>
    "error: invalid value '" ++ value ++ "' for '" ++ depthName ++ "': " ++ fault.message

/-- Why no request came out of a command line. -/
inductive Stop
  | help
  | version
  | misuse (fault : UsageFault)
deriving Repr, DecidableEq

/-- An argument that has been recognised but not yet looked at. -/
inductive Pending
  | none
  | bundle (value : String)
  | depth (value : Option String)
deriving Repr, DecidableEq

/-- What has been read so far. -/
structure State where
  hasBundle : Bool
  bundle : Option String
  verified : Bool
  depth : Option Nat
  pending : Pending
deriving Repr, DecidableEq

namespace State

/-- Nothing has been read. -/
def start : State := ⟨false, .none, false, .none, .none⟩

/-- Take the value of the number. -/
def setDepth (s : State) (value : String) : Except Stop State :=
  if s.depth.isSome then .error (.misuse (.repeated depthName))
  else
    match Word.parse value with
    | .error fault => .error (.misuse (.badDepth value fault))
    | .ok n => .ok { s with depth := some n, pending := .none }

/-- Look at the pending argument. -/
def settle (s : State) : Except Stop State :=
  match s.pending with
  | .none => .ok s
  | .bundle value =>
    if value = "" then .error (.misuse (.missingValue bundleName))
    else .ok { s with bundle := some value, pending := .none }
  | .depth none => .error (.misuse (.missingValue depthName))
  | .depth (some value) => s.setDepth value

/-- Take an argument that is no option. -/
def takePositional (s : State) (argument : String) : Except Stop State :=
  if s.hasBundle then .error (.misuse (.unexpectedArgument argument))
  else do
    let s ← s.settle
    return { s with hasBundle := true, pending := .bundle argument }

/-- Take the flag. -/
def takeVerified (s : State) : Except Stop State := do
  let s ← s.settle
  if s.verified then throw (.misuse (.repeated verifiedName))
  return { s with verified := true }

/-- Take an option that ends the reading. -/
def takeStop (s : State) (stop : Stop) : Except Stop State := do
  let _ ← s.settle
  throw stop

/-- Take a long option with the value that is attached to it. -/
def takeLong (s : State) (name : String) (attached : Option String) : Except Stop State :=
  match name, attached with
  | "depth", some value => do (← s.settle).setDepth value
  | "depth", none => do return { (← s.settle) with pending := .depth none }
  | "verified", none => s.takeVerified
  | "help", none => s.takeStop .help
  | "version", none => s.takeStop .version
  | name, attached =>
    match attached with
    | some value =>
      if name = "verified" || name = "help" || name = "version" then
        .error (.misuse (.unexpectedValue value ("--" ++ name)))
      else .error (.misuse (.unexpectedArgument ("--" ++ name)))
    | none => .error (.misuse (.unexpectedArgument ("--" ++ name)))

/-- Take a short option. -/
def takeShort (s : State) (c : Char) : Except Stop State :=
  if c = 'h' then s.takeStop .help
  else if c = 'V' then s.takeStop .version
  else .error (.misuse (.unexpectedArgument ("-" ++ String.ofList [c])))

/-- Take an argument while options are possible. -/
def take (s : State) (argument : String) : Except Stop State :=
  match argument.toList with
  | '-' :: '-' :: c :: rest =>
    let cs := c :: rest
    let attached :=
      match cs.dropWhile (· ≠ '=') with
      | [] => none
      | _ :: value => some (String.ofList value)
    s.takeLong (String.ofList (cs.takeWhile (· ≠ '='))) attached
  | '-' :: c :: _ => s.takeShort c
  | _ =>
    match s.pending with
    | .depth none => .ok { s with pending := .depth (some argument) }
    | _ => s.takePositional argument

/-- The request that has been read when the arguments are at an end. -/
def finish (s : State) : Except Stop Request := do
  let s ← s.settle
  match s.bundle with
  | none => throw (.misuse .noBundle)
  | some bundle => return ⟨bundle, s.verified, s.depth⟩

end State

/-- Read arguments behind the two dashes that end options. -/
def readOperands (s : State) : List String → Except Stop Request
  | [] => s.finish
  | argument :: rest => do readOperands (← s.takePositional argument) rest

/-- Read arguments. -/
def readArguments (s : State) : List String → Except Stop Request
  | [] => s.finish
  | "--" :: rest => readOperands s rest
  | argument :: rest => do readArguments (← s.take argument) rest

/-- The request that arguments make. -/
def Request.ofArguments (arguments : List String) : Except Stop Request :=
  readArguments .start arguments

end RevocationCheck.CommandLine
