import RevocationCheck.Text.Hex

/-!
# Sets of characters and maps between characters

Properties of characters are tables with hundreds of ranges, which are written as text: words of
hexadecimal code points between blanks.

A word of a set is a code point or a range, as in `5BF` or `591-5BD`.  A word of a map gives what
characters stand for: one character for several others, as in `FB01:66.69`, or a range for a
range that runs beside it, as in `391-3A1:3B1`.  In a range that ends in `/2`, every second
character is meant.
-/

namespace RevocationCheck.Text

/-- The number that hexadecimal digits spell.  Anything else counts as zero. -/
def codeOf (digits : List Char) : Nat :=
  digits.foldl (fun n c => 16 * n + (Hex.value? c).getD 0) 0

/-- The words of a table. -/
def tableWords (table : String) : List (List Char) :=
  ((table.toList.map fun c => if c = '\n' then ' ' else c).splitOn ' ').filter (!·.isEmpty)

/-- Two numbers joined by a mark; a single one stands for both. -/
def codesAround (mark : Char) (word : List Char) : Nat × Nat :=
  match word.dropWhile (· ≠ mark) with
  | [] => (codeOf word, codeOf word)
  | _ :: rest => (codeOf (word.takeWhile (· ≠ mark)), codeOf rest)

/-- A set of characters: ranges of code points, both ends included. -/
structure CharSet where
  ranges : List (Nat × Nat)

namespace CharSet

/-- The set that a table gives. -/
def ofTable (table : String) : CharSet := ⟨(tableWords table).map (codesAround '-')⟩

/-- Is a character in the set? -/
def contains (set : CharSet) (c : Char) : Bool :=
  set.ranges.any fun range => range.1 ≤ c.toNat && c.toNat ≤ range.2

end CharSet

/-- A run of characters with what they stand for.  The first one stands for `target`; the others,
which come at distances of `step`, stand for the characters that run beside it. -/
structure CharRun where
  first : Nat
  last : Nat
  step : Nat
  target : List Nat

namespace CharRun

/-- Is a character in the run? -/
def contains (run : CharRun) (c : Char) : Bool :=
  run.first ≤ c.toNat && c.toNat ≤ run.last && (c.toNat - run.first) % run.step = 0

/-- What a character of the run stands for. -/
def image (run : CharRun) (c : Char) : List Char :=
  run.target.map fun n => Char.ofNat (n + (c.toNat - run.first))

/-- The run that a word of a table gives. -/
def ofWord (word : List Char) : CharRun :=
  let source := word.takeWhile (· ≠ ':')
  let (first, last) := codesAround '-' (source.takeWhile (· ≠ '/'))
  let target := (word.dropWhile (· ≠ ':')).drop 1
  ⟨first, last, if source.contains '/' then 2 else 1, (target.splitOn '.').map codeOf⟩

end CharRun

/-- A map from characters to what they stand for. -/
structure CharMap where
  runs : List CharRun

namespace CharMap

/-- The map that a table gives. -/
def ofTable (table : String) : CharMap := ⟨(tableWords table).map CharRun.ofWord⟩

/-- What a character stands for, if the map says so. -/
def image? (map : CharMap) (c : Char) : Option (List Char) :=
  (map.runs.find? (·.contains c)).map (·.image c)

end CharMap

end RevocationCheck.Text
