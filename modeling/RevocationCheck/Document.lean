import RevocationCheck.Number.Binary64

/-!
# Documents

What a configuration file or a request holds, whatever notation it is written in.
-/

namespace RevocationCheck

/-- A value of a document. -/
inductive Document
  | null
  | boolean (b : Bool)
  | integer (n : Int)
  | float (x : Binary64)
  | text (s : String)
  | array (items : List Document)
  | table (entries : List (String × Document))
deriving Repr

namespace Document

/-- Put an entry into a table; an earlier entry with the same key gives way. -/
def insertEntry {α : Type} (key : String) (value : α) :
    List (String × α) → List (String × α)
  | [] => [(key, value)]
  | (k, v) :: rest =>
    if k = key then (key, value) :: rest else (k, v) :: insertEntry key value rest

/-- The entry with a key. -/
def valueAt? {α : Type} (key : String) (entries : List (String × α)) : Option α :=
  (entries.find? fun e => e.1 = key).map Prod.snd

end Document

end RevocationCheck
