import RevocationCheck.Document.Json
import RevocationCheck.Document.Toml
import RevocationCheck.Document.Yaml
import RevocationCheck.Files
import RevocationCheck.Settings.Reading
import RevocationCheck.Text.Utf8

/-!
# Settings

The policy in force is laid together from three layers: the defaults, a settings file in one of
three notations, and overrides.  Overrides are either environment variables, whose names begin
with `APP_` in any letter case and have two underscores where a path has a dot, or named values.

A settings file that cannot be read counts as absent.  So does every one if there is a file with
their common name and no ending, since its notation is not known.
-/

namespace RevocationCheck.Settings

/-- Values that are laid over everything else. -/
inductive Overrides
  /-- Variables of the environment. -/
  | environment (bindings : List (String × String))
  /-- Values by their paths. -/
  | named (values : List (String × String))

/-- The settings before anything is configured. -/
def defaults : Entries :=
  [("crl", .table none [("depth", .scalar none (.integer 1))])]

/-- Where settings files lie, without their endings. -/
def fileStem : String := "config/settings"

/-- The notations of settings files. -/
inductive FileFormat
  | toml
  | json
  | yaml
deriving Repr, DecidableEq

/-- The endings of settings files with their notations. -/
def endings : List (String × FileFormat) :=
  [("toml", .toml), ("json", .json), ("yaml", .yaml), ("yml", .yaml)]

/-- Where settings files may lie. -/
def filePaths : List String := fileStem :: endings.map fun e => fileStem ++ "." ++ e.1

/-- The table that a text is in a notation. -/
def FileFormat.parse? (kind : FileFormat) (text : String) : Option (List (String × Document)) :=
  match kind with
  | .toml => Document.Toml.parse? text
  | .json => tableOf? (Document.Json.parse? text)
  | .yaml => tableOf? (Document.Yaml.parse? text)
where
  /-- The entries of a document that is a table. -/
  tableOf? : Option Document → Option (List (String × Document))
    | some (.table entries) => some entries
    | _ => none

/-- The text of a file without the mark of its encoding. -/
def textOf (data : Octets) : String :=
  String.ofList (Text.Utf8.decodeLossy (Text.Utf8.withoutMark data))

/-- The settings file, if there is one: its path, its notation and what it holds. -/
def findFile (files : FileSystem) : Option (String × FileFormat × Octets) :=
  match files fileStem with
  | .ok _ => none
  | .error _ =>
    endings.findSome? fun (ending, kind) =>
      let path := fileStem ++ "." ++ ending
      match files path with
      | .error _ => none
      | .ok data => some (path, kind, data)

/-- The entries of the settings file; without one there are none. -/
def fileEntries (files : FileSystem) : Except Fault Entries :=
  match findFile files with
  | none => .ok []
  | some (path, kind, data) =>
    match kind.parse? (textOf data) with
    | none => .error .malformedFile
    | some entries => .ok (Setting.ofEntries (some path) entries)

/-- The front of the names of environment variables that are settings, in small letters. -/
def variableFront : String := "app_"

/-- A name with a dot in the place of every two underscores. -/
def dotted : List Char → List Char
  | '_' :: '_' :: rest => '.' :: dotted rest
  | c :: rest => c :: dotted rest
  | [] => []

/-- The name of the setting that an environment variable gives. -/
def settingName? (envName : String) : Option String :=
  let name := Text.lower envName
  if name.startsWith variableFront then
    some (String.ofList (dotted (name.toList.drop variableFront.length)))
  else none

/-- The settings that environment variables give.  Of several variables whose names differ in
letter case only, the last one counts. -/
def environmentEntries (bindings : List (String × String)) : Entries :=
  bindings.foldl
    (fun entries (envName, value) =>
      match settingName? envName with
      | none => entries
      | some name =>
        Document.insertEntry name (.scalar (some "the environment") (.text value)) entries)
    []

/-- Lay entries over others one by one. -/
def layOver (below : Entries) (entries : Entries) : Entries :=
  entries.foldl (fun below (name, value) => below.setNamed name value) below

/-- Named values with their paths; a name that is no path is a fault. -/
def namedPaths (values : List (String × String)) : Except Fault (List (Path × String)) :=
  values.mapM fun (name, value) =>
    match Path.parse? name with
    | none => .error .badPath
    | some path => .ok (path, value)

/-- All settings laid over each other. -/
def merge (files : FileSystem) (overrides : Overrides) : Except Fault Entries :=
  match overrides with
  | .environment bindings => do
    let file ← fileEntries files
    return layOver (layOver defaults file) (environmentEntries bindings)
  | .named values => do
    let paths ← namedPaths values
    let file ← fileEntries files
    return paths.foldl (fun below (path, value) => below.set path (.scalar none (.text value)))
      (layOver defaults file)

/-- The policy in force. -/
def load (files : FileSystem) (overrides : Overrides) : Except Fault Policy := do
  let entries ← merge files overrides
  match Document.valueAt? "crl" entries with
  | none => return Policy.default
  | some setting => readPolicy "crl" setting

end RevocationCheck.Settings
