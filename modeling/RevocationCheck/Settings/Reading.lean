import RevocationCheck.Number.Word
import RevocationCheck.Policy
import RevocationCheck.Settings.Fault
import RevocationCheck.Settings.Tree
import RevocationCheck.Text.Letters
import RevocationCheck.Text.Quoted

/-!
# Reading a policy from settings

Settings often come as text, so a setting is read leniently: numbers and truth values may be
given as text, truth values may be given as words, and each stands for the other where that
makes sense.  A policy given as an array has its fields in order.
-/

namespace RevocationCheck.Settings

/-- How a scalar is described in a message. -/
def Scalar.description : Scalar → String
  | nil => "unit value"
  | boolean b => "boolean `" ++ toString b ++ "`"
  | integer n => "integer `" ++ toString n ++ "`"
  | float x => "floating point `" ++ x.pointedText ++ "`"
  | text s => "string " ++ Text.Quoted.encode s

/-- The truth value that a word stands for. -/
def truthOfWord? (s : String) : Option Bool :=
  match Text.lower s with
  | "true" | "on" | "yes" => some true
  | "false" | "off" | "no" => some false
  | _ => none

/-- A setting as a number below 2^64. -/
def readNumber (key : String) : Setting → Except Fault Nat
  | .table origin _ => .error (.mismatch "map" "an integer" key origin)
  | .array origin _ => .error (.mismatch "sequence" "an integer" key origin)
  | .scalar origin value =>
    match value with
    | .nil => .error (.mismatch value.description "an integer" key origin)
    | .boolean b => .ok (if b then 1 else 0)
    | .integer n =>
      if 0 ≤ n then .ok n.toNat
      else
        .error (.mismatch ("64-bit integer `" ++ toString n ++ "`")
          "an unsigned 64 bit or less integer" key origin)
    | .float x => .ok x.toWord
    | .text s =>
      match truthOfWord? s, Word.parse s with
      | some b, _ => .ok (if b then 1 else 0)
      | none, .ok n => .ok n
      | none, .error _ => .error (.mismatch value.description "an integer" key origin)

/-- A setting as a truth value. -/
def readTruth (key : String) : Setting → Except Fault Bool
  | .table origin _ => .error (.mismatch "map" "a boolean" key origin)
  | .array origin _ => .error (.mismatch "sequence" "a boolean" key origin)
  | .scalar origin value =>
    match value with
    | .nil => .error (.mismatch value.description "a boolean" key origin)
    | .boolean b => .ok b
    | .integer n => .ok (n ≠ 0)
    | .float x => .ok !x.isZero
    | .text s =>
      match truthOfWord? s, s with
      | some b, _ => .ok b
      | none, "1" => .ok true
      | none, "0" => .ok false
      | none, _ =>
        .error (.mismatch (Scalar.text (Text.lower s)).description "a boolean" key origin)

/-- A setting as text. -/
def readText (key : String) : Setting → Except Fault String
  | .table origin _ => .error (.mismatch "map" "a string" key origin)
  | .array origin _ => .error (.mismatch "sequence" "a string" key origin)
  | .scalar origin value =>
    match value with
    | .nil => .error (.mismatch value.description "a string" key origin)
    | .boolean b => .ok (toString b)
    | .integer n => .ok (toString n)
    | .float x => .ok x.plainText
    | .text s => .ok s

/-- A setting as an optional URL. -/
def readUrl (key : String) (setting : Setting) : Except Fault (Option Url) :=
  match setting with
  | .scalar _ .nil => .ok none
  | _ => do
    let s ← readText key setting
    match Policy.urlOfText s with
    | .error fault => .error (.badUrl fault key)
    | .ok url => .ok url

/-- Read a field if it is given, else take its default. -/
def readOr {α : Type} (read : String → Setting → Except Fault α) (key : String)
    (setting : Option Setting) (otherwise : α) : Except Fault α :=
  match setting with
  | none => .ok otherwise
  | some setting => read key setting

/-- The names of a policy's fields, in order. -/
def fieldNames : List String :=
  ["depth", "offline_crl_file", "offline_crl_issuer_cert_file", "distribution_point",
    "distribution_point_issuer_cert_file", "verify_offline_signature"]

/-- Read a policy whose fields are found by `field`, which gives the key of a field for messages
beside the setting. -/
def readFields (field : Nat → String × Option Setting) : Except Fault Policy := do
  let base := Policy.default
  let read {α : Type} (reader : String → Setting → Except Fault α) (i : Nat) (otherwise : α) :=
    readOr reader (field i).1 (field i).2 otherwise
  return ⟨← read readNumber 0 base.depth, ← read readText 1 base.offlineListFile,
    ← read readText 2 base.offlineIssuerFile, ← read readUrl 3 base.distributionPoint,
    ← read readText 4 base.distributionPointIssuerFile,
    ← read readTruth 5 base.verifyOfflineSignature⟩

/-- Read a policy under a key. -/
def readPolicy (key : String) : Setting → Except Fault Policy
  | .scalar _ value => .error (.mismatch value.description "struct Policy" key none)
  | .array _ items =>
    readFields fun i => (key ++ "[" ++ toString i ++ "]", items[i]?)
  | .table _ entries =>
    readFields fun i =>
      let name := fieldNames.getD i ""
      (key ++ "." ++ name, Document.valueAt? name entries)

end RevocationCheck.Settings
