import RevocationCheck.Url.DirectionTable

/-!
# Labels and the direction of writing

A domain name with a character that is written from right to left is shown correctly only if
each of its labels keeps to one direction: it begins with a letter of that direction, ends in one
or in a digit, and does not mix two kinds of digits.
-/

namespace RevocationCheck.Url.Direction

/-- How a character takes part in the order of writing. -/
inductive Role
  | left
  | right
  | arabic
  | arabicNumber
  | europeanNumber
  | europeanSeparator
  | commonSeparator
  | europeanTerminator
  | neutral
  | boundary
  | nonspacing
deriving Repr, DecidableEq

/-- The sets of characters with their roles. -/
def sets : List (Text.CharSet × Role) :=
  [ (DirectionTable.rightToLeft, .right), (DirectionTable.arabicLetters, .arabic),
    (DirectionTable.arabicNumbers, .arabicNumber),
    (DirectionTable.europeanNumbers, .europeanNumber),
    (DirectionTable.europeanSeparators, .europeanSeparator),
    (DirectionTable.commonSeparators, .commonSeparator),
    (DirectionTable.europeanTerminators, .europeanTerminator),
    (DirectionTable.neutrals, .neutral), (DirectionTable.boundaries, .boundary),
    (DirectionTable.nonspacing, .nonspacing) ]

/-- The role of a character. -/
def roleOf (c : Char) : Role :=
  ((sets.find? fun entry => entry.1.contains c).map Prod.snd).getD .left

/-- Is a character of a role written from right to left? -/
def Role.isRightward : Role → Bool
  | right | arabic | arabicNumber => true
  | _ => false

/-- May a role stand anywhere in a label? -/
def Role.isInner : Role → Bool
  | europeanNumber | europeanSeparator | commonSeparator | europeanTerminator | neutral
  | boundary | nonspacing => true
  | _ => false

/-- Does a label with these roles keep to one direction? -/
def keepsDirection (roles : List Role) : Bool :=
  let final := (roles.reverse.dropWhile (· = .nonspacing)).head?
  match roles.head? with
  | none => true
  | some .left =>
    roles.all (fun r => r = .left || r.isInner) &&
      final.any fun r => r = .left || r = .europeanNumber
  | some .right | some .arabic =>
    roles.all (fun r => r.isRightward || r.isInner) &&
      (final.any fun r => r.isRightward || r = .europeanNumber) &&
      !(roles.contains .europeanNumber && roles.contains .arabicNumber)
  | some _ => false

/-- May labels be written in one name? -/
def isOrdered (labels : List (List Char)) : Bool :=
  let roles := labels.map (·.map roleOf)
  !(roles.any (·.any Role.isRightward)) || roles.all keepsDirection

end RevocationCheck.Url.Direction
