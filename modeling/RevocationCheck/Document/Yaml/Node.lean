import RevocationCheck.Document.Number
import RevocationCheck.Number.Word
import RevocationCheck.Text.Hex

/-!
# Nodes

What a text in the notation stands for before it becomes a document.  A node can be bad: a scalar
that is not what its tag says, or an alias inside the node it names.  A number that is not whole
is kept as it is written, because it can be a key.
-/

namespace RevocationCheck.Document.Yaml

/-- A node. -/
inductive Node
  | bad
  | null
  | boolean (b : Bool)
  | integer (n : Int)
  | real (written : String)
  | text (s : String)
  | sequence (items : List Node)
  | mapping (entries : List (Node × Node))
deriving Repr

namespace Node

mutual

/-- Are two nodes equal?  The order of entries counts. -/
def isSame : Node → Node → Bool
  | bad, bad => true
  | null, null => true
  | boolean a, boolean b => a = b
  | integer a, integer b => a = b
  | real a, real b => a = b
  | text a, text b => a = b
  | sequence as, sequence bs => areSame as bs
  | mapping as, mapping bs => areSameEntries as bs
  | _, _ => false

/-- Are two runs of nodes equal? -/
def areSame : List Node → List Node → Bool
  | [], [] => true
  | a :: as, b :: bs => isSame a b && areSame as bs
  | _, _ => false

/-- Are two runs of entries equal? -/
def areSameEntries : List (Node × Node) → List (Node × Node) → Bool
  | [], [] => true
  | (k, v) :: as, (l, w) :: bs => isSame k l && isSame v w && areSameEntries as bs
  | _, _ => false

end

/-- Is a node bad? -/
def isBad : Node → Bool
  | bad => true
  | _ => false

/-- The entries of a mapping from its nodes.  Keys and values take turns.  Where a key is due, a
bad node is passed over; a key that is left without a value does not count.  No key may come
twice. -/
def entriesOf? (entries : List (Node × Node)) : List Node → Option (List (Node × Node))
  | [] => some entries.reverse
  | key :: rest =>
    if key.isBad then entriesOf? entries rest
    else
      match rest with
      | [] => some entries.reverse
      | value :: rest =>
        if entries.any fun e => e.1.isSame key then none
        else entriesOf? ((key, value) :: entries) rest

/-- The value of digits in a base behind an optional sign, if it fits in 64 bits. -/
def integer? (base : Nat) (cs : List Char) : Option Int := do
  let (isNegative, digits) : Bool × List Char :=
    match cs with
    | '+' :: rest => (false, rest)
    | '-' :: rest => (true, rest)
    | _ => (false, cs)
  let values ← digits.mapM Text.Hex.value?
  if values.isEmpty || values.any (base ≤ ·) then none
  else
    let size := values.foldl (fun n d => base * n + d) 0
    let n : Int := if isNegative then -size else size
    if Word.isSigned n then some n else none

/-- A decimal as a floating-point number. -/
def decimal? (cs : List Char) : Option Binary64 :=
  let (isNegative, cs) : Bool × List Char :=
    match cs with
    | '+' :: rest => (false, rest)
    | '-' :: rest => (true, rest)
    | _ => (false, cs)
  let (parts, rest) := DecimalParts.split cs
  let hasDigits := !parts.whole.isEmpty || parts.fraction.any (!·.isEmpty)
  if rest.isEmpty && hasDigits && parts.exponent.all (!·.2.isEmpty) then
    some (parts.toBinary isNegative)
  else none

/-- The words for what is no finite number. -/
def notFinite : List String :=
  [".inf", ".Inf", ".INF", "+.inf", "+.Inf", "+.INF", "-.inf", "-.Inf", "-.INF", ".nan", "NaN",
    ".NAN"]

/-- Does a scalar stand for a number? -/
def isNumber (s : String) : Bool := notFinite.contains s || (decimal? s.toList).isSome

/-- The value of a plain scalar without a tag. -/
def ofPlain (s : String) : Node :=
  let cs := s.toList
  let whole : Option Int :=
    match cs with
    | '0' :: 'x' :: rest => integer? 16 rest
    | '0' :: 'o' :: rest => integer? 8 rest
    | '+' :: rest => integer? 10 rest
    | _ => none
  match whole with
  | some n => .integer n
  | none =>
    match s with
    | "" | "~" | "null" => .null
    | "true" | "True" | "TRUE" => .boolean true
    | "false" | "False" | "FALSE" => .boolean false
    | _ =>
      match integer? 10 cs with
      | some n => .integer n
      | none => if isNumber s then .real s else .text s

/-- The value of a plain scalar that one of the notation's own tags is on. -/
def ofTagged (kind s : String) : Node :=
  match kind with
  | "bool" => if s = "true" then .boolean true else if s = "false" then .boolean false else .bad
  | "int" =>
    match integer? 10 s.toList with
    | some n => .integer n
    | none => .bad
  | "float" => if isNumber s then .real s else .bad
  | "null" => if s = "~" || s = "null" then .null else .bad
  | _ => .text s

/-- A node as a key: scalars that have a value go by how they are written. -/
def key? : Node → Option String
  | text s => some s
  | real written => some written
  | integer n => some (toString n)
  | boolean b => some (if b then "true" else "false")
  | _ => none

/-- The floating-point number that is written.  Of the words for what is no finite number only one
is understood. -/
def binary? (written : String) : Option Binary64 :=
  if written = "NaN" then some .nan else decimal? written.toList

mutual

/-- A node as a document.  What could not be made out counts as nothing. -/
def toDocument? : Node → Option Document
  | bad | null => some .null
  | boolean b => some (.boolean b)
  | integer n => some (.integer n)
  | real written => (binary? written).map .float
  | text s => some (.text s)
  | sequence items => (toDocuments? items).map .array
  | mapping entries => (toEntries? [] entries).map .table

/-- Nodes as documents. -/
def toDocuments? : List Node → Option (List Document)
  | [] => some []
  | node :: rest =>
    match toDocument? node, toDocuments? rest with
    | some d, some ds => some (d :: ds)
    | _, _ => none

/-- Entries as those of a table, put behind others.  Keys that differ only as nodes are one key,
and the last of them counts. -/
def toEntries? (done : List (String × Document)) :
    List (Node × Node) → Option (List (String × Document))
  | [] => some done
  | (key, value) :: rest =>
    match key.key?, toDocument? value with
    | some key, some d => toEntries? (insertEntry key d done) rest
    | _, _ => none

end

end Node

end RevocationCheck.Document.Yaml
