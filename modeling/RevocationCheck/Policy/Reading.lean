import RevocationCheck.Document
import RevocationCheck.Policy
import RevocationCheck.Text.Quoted

/-!
# Reading a policy from a document

A policy in a document is read strictly: each field has a value of its own type or is left out,
and then has its default.  Fields of other names are passed over.  A policy may also be an array
of its fields.
-/

namespace RevocationCheck.Policy

/-- What a place in a document asks for. -/
inductive Expectation
  | policy
  | count
  | path
  | text
  | truth
deriving Repr, DecidableEq

/-- The text of an expectation. -/
def Expectation.message : Expectation → String
  | policy => "struct Policy"
  | count => "usize"
  | path => "path string"
  | text => "a string"
  | truth => "a boolean"

/-- Why a document is no policy. -/
inductive Fault
  | mismatch (found : Document) (expected : Expectation)
  | negativeCount (n : Int)
  | tooManyFields (count : Nat)
  | badUrl (fault : Url.Fault)
deriving Repr

/-- How a value is described in a message. -/
def describe : Document → String
  | .null => "null"
  | .boolean b => "boolean `" ++ toString b ++ "`"
  | .integer n => "integer `" ++ toString n ++ "`"
  | .float x => "floating point `" ++ x.scientificText ++ "`"
  | .text s => "string " ++ Text.Quoted.encode s
  | .array _ => "sequence"
  | .table _ => "map"

/-- The text of a fault. -/
def Fault.message : Fault → String
  | mismatch found expected =>
    "invalid type: " ++ describe found ++ ", expected " ++ expected.message
  | negativeCount n =>
    "invalid value: " ++ describe (.integer n) ++ ", expected " ++ Expectation.count.message
  | tooManyFields count =>
    "invalid length " ++ toString count ++ ", expected fewer elements in array"
  | badUrl fault => fault.message

/-- A value as a count. -/
def readCount : Document → Except Fault Nat
  | .integer n => if 0 ≤ n then .ok n.toNat else .error (.negativeCount n)
  | d => .error (.mismatch d .count)

/-- A value as a path. -/
def readPath : Document → Except Fault String
  | .text s => .ok s
  | d => .error (.mismatch d .path)

/-- A value as a truth value. -/
def readTruth : Document → Except Fault Bool
  | .boolean b => .ok b
  | d => .error (.mismatch d .truth)

/-- A value as an optional URL. -/
def readUrl : Document → Except Fault (Option Url)
  | .null => .ok none
  | .text s =>
    match urlOfText s with
    | .error fault => .error (.badUrl fault)
    | .ok url => .ok url
  | d => .error (.mismatch d .text)

/-- Read a field if it is given, else take its default. -/
def readOr {α : Type} (read : Document → Except Fault α) (otherwise : α) :
    Option Document → Except Fault α
  | none => .ok otherwise
  | some d => read d

/-- Read the fields in the order of their names. -/
def ofEntries (entries : List (String × Document)) : Except Fault Policy := do
  let field (name : String) : Option Document := Document.valueAt? name entries
  let depth ← readOr readCount default.depth (field "depth")
  let point ← readOr readUrl default.distributionPoint (field "distribution_point")
  let pointIssuer ← readOr readPath default.distributionPointIssuerFile
    (field "distribution_point_issuer_cert_file")
  let list ← readOr readPath default.offlineListFile (field "offline_crl_file")
  let listIssuer ← readOr readPath default.offlineIssuerFile
    (field "offline_crl_issuer_cert_file")
  let verify ← readOr readTruth default.verifyOfflineSignature
    (field "verify_offline_signature")
  return ⟨depth, list, listIssuer, point, pointIssuer, verify⟩

/-- How many fields a policy has. -/
def fieldCount : Nat := 6

/-- Read the fields from the items of an array. -/
def ofItems (items : List Document) : Except Fault Policy := do
  let depth ← readOr readCount default.depth items[0]?
  let list ← readOr readPath default.offlineListFile items[1]?
  let listIssuer ← readOr readPath default.offlineIssuerFile items[2]?
  let point ← readOr readUrl default.distributionPoint items[3]?
  let pointIssuer ← readOr readPath default.distributionPointIssuerFile items[4]?
  let verify ← readOr readTruth default.verifyOfflineSignature items[5]?
  if fieldCount < items.length then throw (.tooManyFields items.length)
  return ⟨depth, list, listIssuer, point, pointIssuer, verify⟩

/-- Read a policy. -/
def ofDocument : Document → Except Fault Policy
  | .table entries => ofEntries entries
  | .array items => ofItems items
  | d => .error (.mismatch d .policy)

end RevocationCheck.Policy
