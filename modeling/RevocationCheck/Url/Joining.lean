import RevocationCheck.Url.JoiningTable

/-!
# Joiners in labels

The two joiners do not show, so a label may have them only where they change how their
neighbours are written: behind a sign that suppresses a vowel, and, for the one that keeps
letters apart, between two letters that would join.
-/

namespace RevocationCheck.Url.Joining

/-- The character that keeps letters apart. -/
def nonJoiner : Char := Char.ofNat 0x200C

/-- The character that joins letters. -/
def joiner : Char := Char.ofNat 0x200D

/-- Is the nearest character that is not transparent in one of two sets? -/
def meets (first second : Text.CharSet) (cs : List Char) : Bool :=
  (cs.dropWhile JoiningTable.transparent.contains).head?.any fun c =>
    first.contains c || second.contains c

/-- Would the characters in front, which come in reverse, join those behind? -/
def wouldJoin (before rest : List Char) : Bool :=
  meets JoiningTable.onLeft JoiningTable.onBoth before &&
    meets JoiningTable.onRight JoiningTable.onBoth rest

/-- Does every joiner stand where it may?  The characters in front come in reverse. -/
def isJustifiedBehind (before : List Char) : List Char → Bool
  | [] => true
  | c :: rest =>
    let suppressed := before.head?.any JoiningTable.vowelSuppressors.contains
    (if c = joiner then suppressed
      else if c = nonJoiner then suppressed || wouldJoin before rest
      else true) && isJustifiedBehind (c :: before) rest

/-- Does every joiner of a label stand where it may? -/
def isJustified (label : List Char) : Bool := isJustifiedBehind [] label

end RevocationCheck.Url.Joining
