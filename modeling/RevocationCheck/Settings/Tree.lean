import RevocationCheck.Document
import RevocationCheck.Settings.Path

/-!
# Trees of settings

Settings from several sources are laid over each other in one tree.  A table is merged entry by
entry; anything else replaces what was there.  A scalar remembers which source it came from, so
that a message can name it.
-/

namespace RevocationCheck.Settings

/-- A value without parts. -/
inductive Scalar
  | nil
  | boolean (b : Bool)
  | integer (n : Int)
  | float (x : Binary64)
  | text (s : String)
deriving Repr, DecidableEq

/-- A setting, with the source it came from where that is known. -/
inductive Setting
  | scalar (origin : Option String) (value : Scalar)
  | array (origin : Option String) (items : List Setting)
  | table (origin : Option String) (entries : List (String × Setting))
deriving Repr

/-- Settings by their names. -/
abbrev Entries := List (String × Setting)

namespace Setting

/-- The setting that has not been given. -/
def unset : Setting := .scalar none .nil

/-- The entries of a table; anything else has none. -/
def entriesOf : Setting → Entries
  | table _ entries => entries
  | _ => []

/-- The items of an array; anything else has none. -/
def itemsOf : Setting → List Setting
  | array _ items => items
  | _ => []

/-- The source of an array. -/
def arrayOrigin : Setting → Option String
  | array origin _ => origin
  | _ => none

/-- The source of a table. -/
def tableOrigin : Setting → Option String
  | table origin _ => origin
  | _ => none

mutual

/-- A document as a setting from a source. -/
def ofDocument (origin : Option String) : Document → Setting
  | .null => .scalar origin .nil
  | .boolean b => .scalar origin (.boolean b)
  | .integer n => .scalar origin (.integer n)
  | .float x => .scalar origin (.float x)
  | .text s => .scalar origin (.text s)
  | .array items => .array origin (ofItems origin items)
  | .table entries => .table origin (ofEntries origin entries)

/-- The items of an array as settings. -/
def ofItems (origin : Option String) : List Document → List Setting
  | [] => []
  | d :: rest => ofDocument origin d :: ofItems origin rest

/-- The entries of a table as settings. -/
def ofEntries (origin : Option String) : List (String × Document) → Entries
  | [] => []
  | (k, d) :: rest => (k, ofDocument origin d) :: ofEntries origin rest

end

mutual

/-- Lay a setting over another one. -/
def laidOver (below : Setting) : Setting → Setting
  | .table _ entries => .table (tableOrigin below) (laidOverEntries (entriesOf below) entries)
  | .scalar origin value => .scalar origin value
  | .array origin items => .array origin items

/-- Lay entries over other ones. -/
def laidOverEntries (below : Entries) : Entries → Entries
  | [] => below
  | (k, v) :: rest =>
    let v := laidOver ((Document.valueAt? k below).getD unset) v
    laidOverEntries (Document.insertEntry k v below) rest

end

/-- Change the item at a position, which is made together with those around it where it is
missing. -/
def changeItem (position : Int) (change : Setting → Setting) (items : List Setting) :
    List Setting :=
  if 0 ≤ position then
    let i := position.toNat
    let items := items ++ List.replicate (i + 1 - items.length) unset
    items.modify i change
  else
    let back := position.natAbs
    let items := List.replicate (back - items.length) unset ++ items
    items.modify (items.length - back) change

/-- Change the setting that some steps lead to.  What is in the way gives way. -/
def changeAt (change : Setting → Setting) : List Step → Setting → Setting
  | [], s => change s
  | .key name :: steps, s =>
    let entries := entriesOf s
    let inner := changeAt change steps ((Document.valueAt? name entries).getD unset)
    .table (tableOrigin s) (Document.insertEntry name inner entries)
  | .index position :: steps, s =>
    .array (arrayOrigin s) (changeItem position (changeAt change steps) (itemsOf s))

end Setting

/-- Lay a setting over the one at a path. -/
def Entries.set (entries : Entries) (path : Path) (value : Setting) : Entries :=
  Setting.entriesOf (Setting.changeAt (Setting.laidOver · value) (.key path.root :: path.steps)
    (.table none entries))

/-- Lay a setting over the one with a name, which is read as a path if it can be. -/
def Entries.setNamed (entries : Entries) (name : String) (value : Setting) : Entries :=
  entries.set ((Path.parse? name).getD ⟨name, []⟩) value

end RevocationCheck.Settings
