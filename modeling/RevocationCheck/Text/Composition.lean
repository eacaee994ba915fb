import RevocationCheck.Text.CompositionTable

/-!
# Composed text

The form of a text in which characters and the marks on them are one character wherever there is
one: composites are taken apart, marks on the same character are put in order, and what belongs
together is combined again.  Syllables of Hangul are computed from their letters.

Characters that stand for a single other character are not replaced here.
-/

namespace RevocationCheck.Text.Composition

open CompositionTable

/-- The first syllable of Hangul. -/
def hangulBase : Nat := 0xAC00

/-- The first leading consonant, of which there are nineteen. -/
def leadBase : Nat := 0x1100

/-- The first vowel, of which there are twenty-one. -/
def vowelBase : Nat := 0x1161

/-- The place in front of the first trailing consonant, of which there are twenty-seven. -/
def tailBase : Nat := 0x11A7

/-- The letters of a syllable of Hangul. -/
def syllable? (c : Char) : Option (List Char) :=
  let i := c.toNat - hangulBase
  if hangulBase ≤ c.toNat && i < 19 * 21 * 28 then
    let tail := if i % 28 = 0 then [] else [Char.ofNat (tailBase + i % 28)]
    some (Char.ofNat (leadBase + i / 588) :: Char.ofNat (vowelBase + i % 588 / 28) :: tail)
  else none

/-- The syllable of Hangul that two characters make. -/
def joinSyllable? (a b : Char) : Option Char :=
  let lead := a.toNat - leadBase
  let vowel := b.toNat - vowelBase
  let whole := a.toNat - hangulBase
  let tail := b.toNat - tailBase
  if leadBase ≤ a.toNat && lead < 19 && vowelBase ≤ b.toNat && vowel < 21 then
    some (Char.ofNat (hangulBase + 588 * lead + 28 * vowel))
  else if hangulBase ≤ a.toNat && whole < 19 * 21 * 28 && whole % 28 = 0 && 0 < tail && tail < 28
  then
    some (Char.ofNat (a.toNat + tail))
  else none

/-- The parts of a character.  The first part of a composite can be a composite again, at most
`depth` times. -/
def decompose (depth : Nat) (c : Char) : List Char :=
  match syllable? c, composites.image? c, depth with
  | some parts, _, _ => parts
  | none, some (first :: marks), depth + 1 => decompose depth first ++ marks
  | _, _, _ => [c]

/-- How often a part of a composite can be a composite again. -/
def maxDepth : Nat := 4

/-- Put a character in front of ordered text: behind the marks of lower classes. -/
def insert (c : Char) : List Char → List Char
  | [] => [c]
  | d :: rest =>
    if classOf d ≠ 0 && classOf d < classOf c then d :: insert c rest else c :: d :: rest

/-- Put the marks on each character in the order of their classes. -/
def order (cs : List Char) : List Char := cs.foldr insert []

/-- The character that two characters make together. -/
def combine? (a b : Char) : Option Char :=
  match joinSyllable? a b with
  | some c => some c
  | none =>
    (composites.runs.find? fun run => run.target = [a.toNat, b.toNat]).map fun run =>
      Char.ofNat run.first

/-- Combine a character with what follows.  The marks in reverse stand behind it and did not
combine; they block marks of their own class or a lower one. -/
def combineWith (base : Char) (marks : List Char) : List Char → List Char
  | [] => base :: marks.reverse
  | c :: rest =>
    let isBlocked := marks.head?.any fun m => classOf c ≤ classOf m
    match if isBlocked then none else combine? base c with
    | some both => combineWith both marks rest
    | none =>
      if classOf c = 0 then base :: marks.reverse ++ combineWith c [] rest
      else combineWith base (c :: marks) rest

/-- Combine characters with the marks behind them. -/
def combineAll : List Char → List Char
  | [] => []
  | c :: rest => combineWith c [] rest

/-- The composed form of a text. -/
def compose (cs : List Char) : List Char :=
  combineAll (order (cs.flatMap (decompose maxDepth)))

end RevocationCheck.Text.Composition
