import RevocationCheck.X509.Name

/-!
# Comparing names loosely

Two names can be meant to be the same although they are written in different string types, in
other letter cases, or with other blanks.  Blanks around a string do not count, several in a row
count as one, and only ASCII letters have cases.  The attributes of a relative name have no order.
-/

namespace RevocationCheck.X509

/-- Is a character a blank in a name? -/
def isNameBlank (c : Char) : Bool :=
  c = ' ' || (9 ≤ c.toNat && c.toNat ≤ 13)

/-- Tag numbers of the string types of one octet a character. -/
def octetStringTags : List Nat := [19, 20, 22, 26]

/-- The tag number of strings of four octets a character. -/
def tagUniversalString : Nat := 28

/-- The characters that groups of four octets stand for. -/
def wideChars? : Octets → Option (List Char)
  | [] => some []
  | a :: b :: c :: d :: rest =>
    let n := Octets.toNat [a, b, c, d]
    if n.isValidChar then (wideChars? rest).map (Char.ofNat n :: ·) else none
  | _ => none

/-- The characters of a string of any type that is compared loosely. -/
def looseChars? (value : Der.Element) : Option (List Char) :=
  if value.tag = 12 then Text.Utf8.decodeChars value.content
  else if octetStringTags.contains value.tag then
    some (value.content.map fun b => Char.ofNat b.toNat)
  else if value.tag = tagBmpString then (Text.Utf16.decode? value.content).map String.toList
  else if value.tag = tagUniversalString then wideChars? value.content
  else none

/-- Runs of blanks become one blank, and those at the end vanish. -/
def squeeze : List Char → List Char
  | [] => []
  | c :: rest =>
    if isNameBlank c then
      match squeeze rest with
      | [] => []
      | ' ' :: others => ' ' :: others
      | others => ' ' :: others
    else c.toLower :: squeeze rest

/-- What counts of an attribute's value when names are compared. -/
inductive ValueForm
  | text (cs : List Char)
  | exact (value : Der.Element)
deriving Repr, DecidableEq

/-- What counts of an attribute when names are compared. -/
def Attribute.form (a : Attribute) : Oid × ValueForm :=
  (a.type,
    match looseChars? a.value with
    | some cs => .text (squeeze (cs.dropWhile isNameBlank))
    | none => .exact a.value)

/-- Do two runs of relative names consist of the same attributes? -/
def areRelativeNamesAlike : List (List Attribute) → List (List Attribute) → Bool
  | [], [] => true
  | a :: as, b :: bs =>
    (a.map Attribute.form).isPerm (b.map Attribute.form) && areRelativeNamesAlike as bs
  | _, _ => false

/-- Are two names meant to be the same? -/
def Name.isLike (a b : Name) : Bool := areRelativeNamesAlike a.relativeNames b.relativeNames

end RevocationCheck.X509
