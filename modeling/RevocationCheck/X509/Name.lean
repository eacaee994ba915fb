import RevocationCheck.Der.Value
import RevocationCheck.Oid
import RevocationCheck.Text.Utf16
import RevocationCheck.Text.Utf8
import RevocationCheck.X509.Fault

/-!
# Distinguished names

A name is a sequence of relative names, each a non-empty set of attributes.  Reading a name is
lenient: it ends at the first relative name that does not decode, and a relative name ends at
its first attribute that does not decode.

The text of a name joins relative names by `, ` and the attributes of one by ` + `.  The key of an
attribute type comes from a registry, and a type that is not registered stands as a dotted
identifier.  The text is made with any registry; `Registry.known` is the one in use.
-/

namespace RevocationCheck.X509

/-- An attribute of a name. -/
structure Attribute where
  type : Oid
  value : Der.Element
deriving Repr, DecidableEq

/-- A distinguished name: the attributes of each relative name. -/
structure Name where
  relativeNames : List (List Attribute)
deriving Repr, DecidableEq

/-- Read an identifier: the content of any primitive element. -/
def readOid (bs : Octets) : Except Der.Fault (Oid × Octets) := do
  let (element, rest) ← Der.Element.read bs
  if element.constructed then .error .badValue else .ok (⟨element.content⟩, rest)

/-- Read one attribute. -/
def Attribute.read (bs : Octets) : Except Der.Fault (Attribute × Octets) := do
  let (content, rest) ← Der.readTagged Der.tagSequence bs
  let (type, content) ← readOid content
  let (value, _) ← Der.Element.read content
  .ok (⟨type, value⟩, rest)

/-- Read one relative name, which has at least one attribute. -/
def readRelativeName (bs : Octets) : Except Der.Fault (List Attribute × Octets) := do
  let (content, rest) ← Der.readTagged Der.tagSet bs
  match (Der.readMany Attribute.read content).1 with
  | [] => .error .badValue
  | attributes => .ok (attributes, rest)

/-- Read a name. -/
def Name.read (bs : Octets) : Except Der.Fault (Name × Octets) := do
  let (content, rest) ← Der.readTagged Der.tagSequence bs
  .ok (⟨(Der.readMany readRelativeName content).1⟩, rest)

/-- The keys that attribute types are registered with. -/
structure Registry where
  key? : Oid → Option String

/-- The key under which an attribute type is written: the registered one, or else the dotted
identifier. -/
def Registry.key (registry : Registry) (type : Oid) : String :=
  (registry.key? type).getD ("OID(" ++ type.text ++ ")")

/-- Keys of attribute types. -/
def attributeKeys : List (Oid × String) :=
  [ (Oid.ofArcs [2, 5, 4, 3], "CN")
  , (Oid.ofArcs [2, 5, 4, 6], "C")
  , (Oid.ofArcs [2, 5, 4, 7], "L")
  , (Oid.ofArcs [2, 5, 4, 8], "ST")
  , (Oid.ofArcs [2, 5, 4, 10], "O")
  , (Oid.ofArcs [2, 5, 4, 11], "OU")
  , (Oid.ofArcs [0, 9, 2342, 19200300, 100, 1, 25], "DC")
  , (Oid.ofArcs [1, 2, 840, 113549, 1, 9, 1], "Email")
  , (Oid.ofArcs [2, 5, 4, 0], "objectClass")
  , (Oid.ofArcs [2, 5, 4, 1], "aliasedEntryName")
  , (Oid.ofArcs [2, 5, 4, 2], "knowledgeInformation")
  , (Oid.ofArcs [2, 5, 4, 4], "surname")
  , (Oid.ofArcs [2, 5, 4, 5], "serialNumber")
  , (Oid.ofArcs [2, 5, 4, 9], "streetAddress")
  , (Oid.ofArcs [2, 5, 4, 12], "title")
  , (Oid.ofArcs [2, 5, 4, 13], "description")
  , (Oid.ofArcs [2, 5, 4, 14], "searchGuide")
  , (Oid.ofArcs [2, 5, 4, 15], "businessCategory")
  , (Oid.ofArcs [2, 5, 4, 16], "postalAddress")
  , (Oid.ofArcs [2, 5, 4, 17], "postalCode")
  , (Oid.ofArcs [2, 5, 4, 41], "name")
  , (Oid.ofArcs [2, 5, 4, 42], "givenName")
  , (Oid.ofArcs [2, 5, 4, 43], "initials")
  , (Oid.ofArcs [2, 5, 4, 44], "generationQualifier")
  , (Oid.ofArcs [2, 5, 4, 45], "uniqueIdentifier")
  , (Oid.ofArcs [2, 5, 4, 46], "dnQualifier")
  , (Oid.ofArcs [0, 9, 2342, 19200300, 100, 1, 1], "uid")
  , (Oid.ofArcs [1, 2, 840, 113549, 1, 9, 2], "unstructuredName")
  , (Oid.ofArcs [1, 2, 840, 113549, 1, 9, 3], "contentType")
  , (Oid.ofArcs [1, 2, 840, 113549, 1, 9, 4], "messageDigest")
  , (Oid.ofArcs [1, 2, 840, 113549, 1, 9, 5], "signingTime")
  , (Oid.ofArcs [1, 2, 840, 113549, 1, 9, 7], "challengePassword")
  , (Oid.ofArcs [1, 2, 840, 113549, 1, 9, 14], "extensionRequest")
  , (Oid.ofArcs [1, 2, 840, 113549, 1, 9, 15], "smimeCapabilities")
  , (Oid.ofArcs [1, 2, 840, 113549, 1, 9, 20], "friendlyName")
  , (Oid.ofArcs [1, 3, 6, 1, 4, 1, 311, 60, 2, 1, 1], "msJurisdictionLocality")
  , (Oid.ofArcs [1, 3, 6, 1, 4, 1, 311, 60, 2, 1, 2], "msJurisdictionStateOrProvince")
  , (Oid.ofArcs [1, 3, 6, 1, 4, 1, 311, 60, 2, 1, 3], "msJurisdictionCountry") ]

/-- The registry of these keys. -/
def Registry.known : Registry where
  key? type := (attributeKeys.find? fun entry => entry.1 = type).map Prod.snd

/-- Tag numbers of the string types whose content is read as UTF-8. -/
def textTags : List Nat := [7, 12, 18, 19, 20, 21, 22, 25, 26, 27]

/-- The tag number of strings in UTF-16. -/
def tagBmpString : Nat := 30

/-- The text of an attribute value: a string as it reads, anything else in hexadecimal.  A
string that does not decode has no text. -/
def Attribute.valueText? (value : Der.Element) : Option String :=
  if textTags.contains value.tag then Text.Utf8.decode? value.content
  else if value.tag = tagBmpString then Text.Utf16.decode? value.content
  else some (Text.Hex.encodeUpper value.content)

/-- The text of an attribute. -/
def Attribute.textBy? (registry : Registry) (a : Attribute) : Option String :=
  (Attribute.valueText? a.value).map fun v => registry.key a.type ++ "=" ++ v

/-- The text of a name, if all of its strings decode. -/
def Name.textBy? (registry : Registry) (name : Name) : Option String := do
  let parts ← name.relativeNames.mapM fun attributes =>
    (attributes.mapM (Attribute.textBy? registry)).map (" + ".intercalate ·)
  some (", ".intercalate parts)

/-- The text of a name; all names with a string that does not decode have the same text. -/
def Name.textBy (registry : Registry) (name : Name) : String :=
  (name.textBy? registry).getD "<X509Error: Invalid X.509 name>"

/-- The text of a name with the keys that are known. -/
def Name.text (name : Name) : String := name.textBy .known

/-- All attributes in order. -/
def Name.attributes (name : Name) : List Attribute := name.relativeNames.flatten

/-- Tag numbers of the string types that a serial number may have. -/
def serialNumberTags : List Nat := [12, 18, 19, 22]

/-- The value of the first serialNumber attribute, empty when there is none or when it is not a
string of an accepted type. -/
def Name.serialNumber (name : Name) : String :=
  match name.attributes.find? fun a => a.type.text = "2.5.4.5" with
  | none => ""
  | some a =>
    if serialNumberTags.contains a.value.tag then
      (Text.Utf8.decode? a.value.content).getD ""
    else ""

end RevocationCheck.X509
