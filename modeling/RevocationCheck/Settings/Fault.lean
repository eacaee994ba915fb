import RevocationCheck.Url.Fault

/-!
# Faults of settings
-/

namespace RevocationCheck.Settings

/-- Why settings could not be loaded. -/
inductive Fault
  /-- A settings file is not well-formed. -/
  | malformedFile
  /-- The name of an override is no path. -/
  | badPath
  /-- A setting has a value of the wrong type. -/
  | mismatch (found expected key : String) (origin : Option String)
  /-- A setting is no URL. -/
  | badUrl (fault : Url.Fault) (key : String)
deriving Repr, DecidableEq

/-- The text of a fault. -/
def Fault.message : Fault → String
  | malformedFile => "malformed settings file"
  | badPath => "malformed path of a setting"
  | mismatch found expected key origin =>
    "invalid type: " ++ found ++ ", expected " ++ expected ++ " for key `" ++ key ++ "`" ++
      match origin with
      | none => ""
      | some origin => " in " ++ origin
  | badUrl fault key => fault.message ++ " for key `" ++ key ++ "`"

end RevocationCheck.Settings
