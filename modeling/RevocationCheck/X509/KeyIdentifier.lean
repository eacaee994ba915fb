import RevocationCheck.X509.Extension

/-!
# Key identifiers

A certificate can give its key an identifier, and can say by which identifier, or under which name
and serial number, its issuer's key is found.
-/

namespace RevocationCheck.X509

/-- What a certificate says of its issuer's key. -/
structure AuthorityKey where
  identifier : Option Octets
  /-- The names of the issuer's issuer. -/
  issuer : List GeneralName
  /-- The content octets of the issuer's serial number. -/
  serial : Option Octets
deriving Repr, DecidableEq

namespace AuthorityKey

/-- The identifier of the extension. -/
def extensionType : Oid := Oid.ofArcs [2, 5, 29, 35]

/-- Take the element with a tag number, if it is next. -/
def take (tag : Nat) (elements : List Der.Element) : Option Der.Element × List Der.Element :=
  match elements with
  | e :: rest =>
    if e.tagClass = .contextSpecific ∧ e.tag = tag then (some e, rest) else (none, elements)
  | [] => (none, [])

/-- Decode the value of the extension. -/
def decode? (value : Octets) : Option AuthorityKey :=
  match Der.readTagged Der.tagSequence value with
  | .error _ => none
  | .ok (content, _) => do
    let elements ← Der.readAll? Der.Element.read content
    let (identifier, elements) := take 0 elements
    let (issuer, elements) := take 1 elements
    let (serial, elements) := take 2 elements
    let names ←
      match issuer with
      | none => some []
      | some e => Der.readAll? GeneralName.read e.content
    if elements.isEmpty then
      some ⟨identifier.map Der.Element.content, names, serial.map Der.Element.content⟩
    else none

/-- The first directory name of the issuer's issuer. -/
def directory? (key : AuthorityKey) : Option Name :=
  key.issuer.findSome? fun name =>
    match name with
    | .directory name => some name
    | _ => none

end AuthorityKey

/-- The identifier of the extension that gives a key an identifier. -/
def subjectKeyType : Oid := Oid.ofArcs [2, 5, 29, 14]

/-- Decode the identifier of a key. -/
def subjectKey? (value : Octets) : Option Octets :=
  match Der.Element.read value with
  | .error _ => none
  | .ok (element, _) =>
    if element.tagClass = .universal ∧ element.tag = Der.tagOctetString then some element.content
    else none

/-- The identifier of the extension that lists what a key may be used for. -/
def purposesType : Oid := Oid.ofArcs [2, 5, 29, 37]

/-- Decode what a key may be used for. -/
def purposes? (value : Octets) : Option (List Oid) :=
  match Der.readTagged Der.tagSequence value with
  | .error _ => none
  | .ok (content, _) => do
    (← Der.readAll? Der.Element.read content).mapM fun e =>
      if e.tagClass = .universal ∧ e.tag = 6 then some ⟨e.content⟩ else none

/-- The purpose of proving to a server who a client is. -/
def clientPurpose : Oid := Oid.ofArcs [1, 3, 6, 1, 5, 5, 7, 3, 2]

end RevocationCheck.X509
