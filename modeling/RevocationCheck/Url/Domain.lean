import RevocationCheck.Text.Composition
import RevocationCheck.Text.Utf8
import RevocationCheck.Url.Direction
import RevocationCheck.Url.DomainTable
import RevocationCheck.Url.Fault
import RevocationCheck.Url.Joining
import RevocationCheck.Url.Punycode

/-!
# Domain names

The ASCII form of a domain name: characters are mapped to the ones they stand for, marks are
combined with the characters they belong to, labels that go beyond ASCII are written in punycode
behind `xn--`, and labels that already are have to be what that would produce.  Some ASCII
characters may not occur in a host.

A label beyond ASCII does not begin with a mark, has joiners only where they matter, and, if the
name has characters that are written from right to left, every label keeps to one direction.
-/

namespace RevocationCheck.Url.Domain

/-- The ASCII characters that a host may not have. -/
def isForbidden (c : Char) : Bool :=
  c.toNat ≤ 0x20 || c.toNat = 0x7F ||
    ['%', '#', '/', ':', '<', '>', '?', '@', '[', '\\', ']', '^', '|'].contains c

/-- The characters that one character stands for; nothing when it may not occur. -/
def mapChar (c : Char) : Option (List Char) :=
  if c.toNat < 0x80 then some [c.toLower]
  else if DomainTable.ignored.contains c then some []
  else if DomainTable.disallowed.contains c then none
  else some ((DomainTable.mapped.image? c).getD [c])

/-- The longest label that is written in punycode. -/
def maxLabel : Nat := 1000

/-- The longest punycode that is read. -/
def maxEncoded : Nat := 2000

/-- The label in a name: its ASCII form and what it stands for. -/
structure Label where
  ascii : List Char
  chars : List Char

/-- May a label beyond ASCII stand in a name? -/
def isValidLabel (label : List Char) : Bool :=
  label.all (fun c => mapChar c = some [c]) &&
    !label.head?.any DomainTable.marks.contains && Joining.isJustified label

/-- The label that a mapped one is. -/
def Label.ofMapped? (label : List Char) : Option Label :=
  let isAscii := label.all fun c => c.toNat < 0x80
  match label with
  | 'x' :: 'n' :: '-' :: '-' :: encoded =>
    if maxEncoded < encoded.length then none
    else
      match Punycode.decode? encoded with
      | none => none
      | some decoded =>
        if (decoded.any fun c => 0x80 ≤ c.toNat) && isValidLabel decoded &&
            Text.Composition.compose decoded = decoded then
          some ⟨label, decoded⟩
        else none
  | _ =>
    if isAscii then some ⟨label, label⟩
    else if isValidLabel label && label.length ≤ maxLabel then
      some ⟨"xn--".toList ++ Punycode.encode label, label⟩
    else none

/-- The labels of a name. -/
def labels? (name : List Char) : Option (List Label) := do
  let mapped ← name.mapM mapChar
  ((Text.Composition.compose mapped.flatten).splitOn '.').mapM Label.ofMapped?

/-- The ASCII form of a domain name. -/
def asciiForm? (name : List Char) : Option (List Char) :=
  match labels? name with
  | none => none
  | some labels =>
    let ascii := ['.'].intercalate (labels.map Label.ascii)
    if ascii.any isForbidden || !Direction.isOrdered (labels.map Label.chars) then none
    else some ascii

/-- The ASCII form of a domain name given as octets. -/
def toAscii (bs : Octets) : Except Fault (List Char) :=
  match (Text.Utf8.decodeChars bs).bind asciiForm? with
  | none => .error .invalidInternationalName
  | some name => .ok name

end RevocationCheck.Url.Domain
