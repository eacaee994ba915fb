import RevocationCheck.CommandLine
import Std.Time.DateTime.Timestamp

/-!
# The program

Reads the files that a run may look at, the environment and the clock, and carries out the run.
There is no network client, so nothing answers a request for a list.
-/

namespace RevocationCheck.Program

/-- The operating system's code for a file that stands where a directory should. -/
def notADirectoryCode : UInt32 := 20

/-- The operating system's code for a name that is too long. -/
def nameTooLongCode : UInt32 := 36

/-- Why the operating system could not read a file.  Its codes come with either sign; what it
does not say plainly counts as a missing file. -/
def faultOf : IO.Error → FileFault
  | .permissionDenied .. => .permissionDenied
  | .inappropriateType _ code _ =>
    if code = notADirectoryCode ∨ 0 - code = notADirectoryCode then .notADirectory
    else .isADirectory
  | .invalidArgument _ code _ =>
    if code = nameTooLongCode ∨ 0 - code = nameTooLongCode then .nameTooLong else .notFound
  | _ => .notFound

/-- Read a file. -/
def readPath (path : String) : IO (Except FileFault Octets) := do
  if path.contains '\x00' then return .error .unusablePath
  try
    return .ok (← IO.FS.readBinFile path).toList
  catch e =>
    return .error (faultOf e)

/-- Read files. -/
def readPaths (paths : List String) : IO (List (String × Except FileFault Octets)) :=
  paths.mapM fun path => do
    return (path, ← readPath path)

/-- The file system of which only what has been read is known. -/
def known (contents : List (String × Except FileFault Octets)) : FileSystem := fun path =>
  match contents.find? fun entry => entry.1 = path with
  | none => .error .notFound
  | some (_, result) => result

/-- The variables that octets list, each with a zero octet behind it. -/
def environmentOf (data : Octets) : Settings.Environment :=
  (String.ofList (Text.Utf8.decodeLossy data) |>.splitOn "\x00").filterMap fun entry =>
    match entry.splitOn "=" with
    | name :: value :: more => some (name, "=".intercalate (value :: more))
    | _ => none

/-- The variables of the running process. -/
def readEnvironment : IO Settings.Environment := do
  match ← readPath "/proc/self/environ" with
  | .ok data => return environmentOf data
  | .error _ => return []

/-- How many directories lie above the one with a path. -/
def parentsOf (path : String) : Nat := ((path.splitOn "/").filter (· ≠ "")).length

/-- How many directories lie above the working directory. -/
def readParents : IO Nat := do
  return parentsOf (toString (← IO.currentDir))

/-- The time by the clock. -/
def readClock : IO Timestamp := do
  let now ← Std.Time.Timestamp.now
  return .utc now.val.second.val now.val.nano.val.toNat

/-- Report how a run ended. -/
def report (outcome : CommandLine.Outcome) : IO Unit :=
  match outcome with
  | .passed | .brokenOff => return
  | .help => IO.println "Usage: [OPTIONS] <BUNDLE>"
  | .version => IO.println "0.1.0"
  | .misuse fault => do
    IO.eprintln fault.message
    IO.eprintln "\nUsage: [OPTIONS] <BUNDLE>"
  | .failed fault => do
    IO.eprintln "Error:"
    fault.lines.forM fun line => IO.eprintln ("   " ++ line)

end RevocationCheck.Program

open RevocationCheck

/-- Check the bundle that the arguments name. -/
def main (arguments : List String) : IO UInt32 := do
  let environment ← Program.readEnvironment
  let parents ← Program.readParents
  let settings ← Program.readPaths (CommandLine.settingsPaths parents)
  let data ← Program.readPaths
    (CommandLine.dataPaths (Program.known settings) parents environment arguments)
  let world : World :=
    ⟨Program.known (settings ++ data), Network.silent, ← Program.readClock⟩
  let outcome := CommandLine.run world parents environment arguments
  Program.report outcome
  return UInt32.ofNat outcome.exitCode
