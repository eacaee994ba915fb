import RevocationCheck.CommandLine.Arguments
import RevocationCheck.Settings
import RevocationCheck.Settings.EnvironmentFile
import RevocationCheck.Verification

/-!
# The command line

A run reads the settings, then the bundle, whose certificates all have to decode, and then checks
them, either as a verified chain or as a mere list.  It passes only if every step succeeds.

Before anything else, an environment file adds to the environment.  It lies in the working directory
or in one of the directories above, and the nearest one counts.  If the environment cannot hold what
it says, the run breaks off without a report.
-/

namespace RevocationCheck.CommandLine

/-- Why a run failed. -/
inductive RunFault
  | settings (fault : Settings.Fault)
  | unreadable (path : String) (cause : FileFault)
  | notPem (fault : Pem.Fault)
  | noCertificates (path : String)
  | undecodable (fault : X509.Fault)
  | rejected (failure : Failure)
deriving Repr, DecidableEq

/-- The text of a fault. -/
def RunFault.message : RunFault → String
  | settings fault => fault.message
  | unreadable path _ => "failed to read " ++ path
  | notPem fault => (Failure.ofBundle fault).message
  | noCertificates path => "no certificates found in " ++ path
  | undecodable fault => "failed to parse peer certificate: " ++ fault.message
  | rejected failure => failure.message

/-- What the file system says about a fault. -/
def RunFault.cause? : RunFault → Option FileFault
  | unreadable _ cause => some cause
  | rejected failure => failure.cause?
  | _ => none

/-- The numbered lines that report a fault and its cause. -/
def RunFault.lines (fault : RunFault) : List String :=
  ("0: " ++ fault.message) :: (fault.cause?.map fun cause => "1: " ++ cause.message).toList

/-- How a run ends. -/
inductive Outcome
  | passed
  | brokenOff
  | help
  | version
  | misuse (fault : UsageFault)
  | failed (fault : RunFault)
deriving Repr, DecidableEq

/-- The exit code of a run. -/
def Outcome.exitCode : Outcome → Nat
  | passed | help | version => 0
  | failed _ => 1
  | misuse _ => 2
  | brokenOff => 101

/-- The path of the environment file in the directory that is so many levels above the working
directory. -/
def environmentFile (level : Nat) : String := String.join (List.replicate level "../") ++ ".env"

/-- The levels from the working directory upwards, with `parents` directories above it. -/
def levels (parents : Nat) : List Nat := List.range (parents + 1)

/-- The first environment file at some levels.  There may be none at a level, or a directory of its
name; any other fault ends the search. -/
def findEnvironment? (files : FileSystem) : List Nat → Option Octets
  | [] => none
  | level :: above =>
    match files (environmentFile level) with
    | .ok data => some data
    | .error .notFound | .error .isADirectory => findEnvironment? files above
    | .error _ => none

/-- The environment with what the environment file adds to it; nothing if it cannot hold that. -/
def surroundings? (files : FileSystem) (parents : Nat) (environment : Settings.Environment) :
    Option Settings.Environment :=
  match findEnvironment? files (levels parents) with
  | none => some environment
  | some data => Settings.EnvironmentFile.load? data environment

/-- The policy that is configured, with the depth that a request asks for. -/
def policyOf (files : FileSystem) (environment : Settings.Environment) (request : Request) :
    Except Settings.Fault Policy :=
  (Settings.load files (.environment environment)).map fun policy =>
    { policy with depth := request.depth.getD policy.depth }

/-- The certificates in the bundle of a request. -/
def readBundle (files : FileSystem) (path : String) :
    Except RunFault (List X509.Certificate) :=
  match files path with
  | .error cause => .error (.unreadable path cause)
  | .ok data =>
    match Pem.certificates data with
    | .error fault => .error (.notPem fault)
    | .ok [] => .error (.noCertificates path)
    | .ok ders =>
      match X509.decodeChain ders with
      | .error fault => .error (.undecodable fault)
      | .ok certificates => .ok certificates

/-- The check that a request asks for. -/
def check (world : World) (policy : Policy) (request : Request)
    (certificates : List X509.Certificate) : Checked Unit :=
  if request.verified then Verification.verifyChains world policy [certificates]
  else Verification.verifyRaw world policy certificates

/-- How a run ends, and the URLs that it asks for. -/
structure Report where
  fetched : List String
  outcome : Outcome
deriving Repr, DecidableEq

/-- A report of what happens before anything is asked for. -/
def Report.of (outcome : Outcome) : Report := ⟨[], outcome⟩

/-- Carry out a request. -/
def perform (world : World) (environment : Settings.Environment) (request : Request) : Report :=
  match policyOf world.files environment request with
  | .error fault => .of (.failed (.settings fault))
  | .ok policy =>
    match readBundle world.files request.bundle with
    | .error fault => .of (.failed fault)
    | .ok certificates =>
      let checked := check world policy request certificates
      ⟨checked.fetched,
        match checked.result with
        | .error failure => .failed (.rejected failure)
        | .ok () => .passed⟩

/-- Carry out a command line, where `parents` directories lie above the working directory. -/
def execute (world : World) (parents : Nat) (environment : Settings.Environment)
    (arguments : List String) : Report :=
  match surroundings? world.files parents environment with
  | none => .of .brokenOff
  | some environment =>
    match Request.ofArguments arguments with
    | .error .help => .of .help
    | .error .version => .of .version
    | .error (.misuse fault) => .of (.misuse fault)
    | .ok request => perform world environment request

/-- Run a command line. -/
def run (world : World) (parents : Nat) (environment : Settings.Environment)
    (arguments : List String) : Outcome :=
  (execute world parents environment arguments).outcome

/-- The files that a run may read before it knows its policy. -/
def settingsPaths (parents : Nat) : List String :=
  (levels parents).map environmentFile ++ Settings.filePaths

/-- The files that a run may read once it knows its policy. -/
def dataPaths (files : FileSystem) (parents : Nat) (environment : Settings.Environment)
    (arguments : List String) : List String :=
  match surroundings? files parents environment, Request.ofArguments arguments with
  | none, _ | _, .error _ => []
  | some environment, .ok request =>
    match policyOf files environment request with
    | .error _ => []
    | .ok policy =>
      [request.bundle, policy.offlineListFile, policy.offlineIssuerFile,
        policy.distributionPointIssuerFile]

end RevocationCheck.CommandLine
