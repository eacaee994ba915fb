import RevocationCheck.X509.Name

/-!
# Extensions

An extension pairs an identifier with an octet string, which this module decodes for the three
kinds that revocation checking looks at: basic constraints, key usage, and the places where
revocation lists are published.

The decoders work on the octets of one extension and say nothing about how often an extension
may occur; that is a matter of the certificate.
-/

namespace RevocationCheck.X509

/-- An extension as it stands in a certificate or a revocation list. -/
structure Extension where
  type : Oid
  critical : Bool
  value : Octets
deriving Repr, DecidableEq

namespace Extension

/-- The identifier of basic constraints. -/
def basicConstraintsType : Oid := Oid.ofArcs [2, 5, 29, 19]

/-- The identifier of key usage. -/
def keyUsageType : Oid := Oid.ofArcs [2, 5, 29, 15]

/-- The identifier of distribution points for revocation lists. -/
def distributionPointsType : Oid := Oid.ofArcs [2, 5, 29, 31]

/-- The truth value in front, if one is there; any octet but zero is true. -/
def readCritical (bs : Octets) : Bool × Octets :=
  match Der.Element.read bs with
  | .error _ => (false, bs)
  | .ok (element, rest) =>
    if element.tag = Der.tagBoolean ∧ element.constructed = false then
      match element.content with
      | [b] => (b != 0, rest)
      | _ => (false, bs)
    else (false, bs)

/-- Read one extension. -/
def read (bs : Octets) : Except Der.Fault (Extension × Octets) := do
  let (content, rest) ← Der.readTagged Der.tagSequence bs
  let (type, content) ← readOid content
  let (critical, content) := readCritical content
  let (value, _) ← Der.Element.read content
  if value.tag = Der.tagOctetString ∧ value.constructed = false then
    .ok (⟨type, critical, value.content⟩, rest)
  else .error .unexpectedTag

/-- Read a sequence of extensions. -/
def readSequence (bs : Octets) : Except Der.Fault (List Extension × Octets) := do
  let (content, rest) ← Der.readTagged Der.tagSequence bs
  match Der.readAll? read content with
  | none => .error .badValue
  | some extensions => .ok (extensions, rest)

/-- The extensions at the end of a structure, behind a header with tag number `tag`.  They
reach to the very end; the length in the header is not looked at. -/
def ofRest (tag : Nat) (bs : Octets) : Except Fault (List Extension) :=
  if bs.isEmpty then .ok []
  else
    match Der.Header.readDefinite bs with
    | .error _ => .error .invalidExtensions
    | .ok (header, _, rest) =>
      if header.tag = tag then
        match readSequence rest with
        | .ok (extensions, []) => .ok extensions
        | _ => .error .malformed
      else .error .invalidExtensions

end Extension

/-- May a certificate's key sign other certificates, and how long may a path be below it? -/
structure BasicConstraints where
  ca : Bool
  pathLength : Option Nat
deriving Repr, DecidableEq

namespace BasicConstraints

/-- The truth value that an element holds. -/
def bool? (element : Der.Element) : Option Bool :=
  match element.tagClass, element.constructed, element.tag, element.content with
  | .universal, false, 1, [b] => some (b != 0)
  | _, _, _, _ => none

/-- The number below 2^32 that an element holds; it may be written with leading zero octets. -/
def number? (element : Der.Element) : Option Nat :=
  match element.tagClass, element.constructed, element.tag, element.content with
  | .universal, false, 2, b :: rest =>
    let n := Octets.toNat (b :: rest)
    if b.toNat < 128 ∧ n < Nat.pow 2 32 then some n else none
  | _, _, _, _ => none

/-- The constraints that a sequence of elements spells. -/
def ofElements? : List Der.Element → Option BasicConstraints
  | [] => some ⟨false, none⟩
  | [e] =>
    match bool? e with
    | some ca => some ⟨ca, none⟩
    | none => (number? e).map fun n => ⟨false, some n⟩
  | [e, f] =>
    match bool? e, number? f with
    | some ca, some n => some ⟨ca, some n⟩
    | _, _ => none
  | _ => none

/-- Decode the value of a basic constraints extension. -/
def decode? (value : Octets) : Option BasicConstraints :=
  match Der.Element.read value with
  | .error _ => none
  | .ok (element, _) =>
    if element.tag = Der.tagSequence ∧ element.constructed then
      (Der.readAll? Der.Element.read element.content).bind ofElements?
    else none

end BasicConstraints

/-- What a certificate's key may be used for, as the octets of the bit string. -/
structure KeyUsage where
  octets : Octets
deriving Repr, DecidableEq

namespace KeyUsage

/-- The bit with a number, counted from the high end of the first octet. -/
def bit (usage : KeyUsage) (n : Nat) : Bool :=
  match usage.octets[n / 8]? with
  | none => false
  | some b => b.toNat.testBit (7 - n % 8)

/-- May the key sign certificates? -/
def certSign (usage : KeyUsage) : Bool := usage.bit 5

/-- May the key sign revocation lists? -/
def crlSign (usage : KeyUsage) : Bool := usage.bit 6

/-- Decode the value of a key usage extension. -/
def decode? (value : Octets) : Option KeyUsage :=
  match Der.Element.read value with
  | .error _ => none
  | .ok (element, _) =>
    if element.tag = Der.tagBitString ∧ element.constructed = false then
      match element.content with
      | [] => none
      | unused :: octets =>
        if unused.toNat ≤ 7 ∧
            octets.getLast?.all fun b => unused.toNat ≤ Der.trailingZeros b then
          some ⟨octets⟩
        else none
    else none

end KeyUsage

/-- One of the names that a thing can be known by. -/
inductive GeneralName
  | otherName (type : Oid)
  | email (text : String)
  | dns (text : String)
  | x400Address (content : Octets)
  | directory (name : Name)
  | ediParty (content : Octets)
  | uri (text : String)
  | ipAddress (octets : Octets)
  | registeredId (oid : Oid)
deriving Repr, DecidableEq

namespace GeneralName

/-- The name that an element spells. -/
def ofElement? (element : Der.Element) : Option GeneralName :=
  match element.tagClass with
  | .contextSpecific =>
    match element.tag with
    | 0 => match readOid element.content with
      | .ok (oid, _) => some (.otherName oid)
      | .error _ => none
    | 1 => (Text.Utf8.decode? element.content).map .email
    | 2 => (Text.Utf8.decode? element.content).map .dns
    | 3 => some (.x400Address element.content)
    | 4 => match Name.read element.content with
      | .ok (name, []) => some (.directory name)
      | _ => none
    | 5 => some (.ediParty element.content)
    | 6 => (Text.Utf8.decode? element.content).map .uri
    | 7 => some (.ipAddress element.content)
    | 8 => some (.registeredId ⟨element.content⟩)
    | _ => none
  | _ => none

/-- Read one name. -/
def read (bs : Octets) : Except Der.Fault (GeneralName × Octets) := do
  let (element, rest) ← Der.Element.read bs
  match ofElement? element with
  | none => .error .badValue
  | some name => .ok (name, rest)

/-- The text of a name that is a URI. -/
def uri? : GeneralName → Option String
  | .uri text => some text
  | _ => none

end GeneralName

/-- How a distribution point is named. -/
inductive PointName
  /-- In full, by at least one name. -/
  | full (names : List GeneralName)
  /-- Relative to the issuer of the revocation list. -/
  | relative
deriving Repr, DecidableEq

/-- A place where revocation lists are published; it may be without a name. -/
structure DistributionPoint where
  name : Option PointName
deriving Repr, DecidableEq

namespace DistributionPoint

/-- The name behind the header of a point's name; the length in the header is not looked at,
and a full name ends at the first name that does not decode. -/
def nameOf? (bs : Octets) : Option PointName :=
  match Der.Header.readDefinite bs with
  | .error _ => none
  | .ok (header, _, rest) =>
    if header.tag = 0 then
      match (Der.readMany GeneralName.read rest).1 with
      | [] => none
      | names => some (.full names)
    else if header.tag = 1 then some .relative
    else none

/-- Read one point.  What follows its name says nothing about where the list is. -/
def read (bs : Octets) : Except Der.Fault (DistributionPoint × Octets) := do
  let (content, rest) ← Der.readTagged Der.tagSequence bs
  match Der.Element.read content with
  | .error _ => .ok (⟨none⟩, rest)
  | .ok (element, _) =>
    if element.tag = 0 ∧ element.constructed then .ok (⟨nameOf? element.content⟩, rest)
    else .ok (⟨none⟩, rest)

/-- Decode the value of a distribution points extension. -/
def decodeAll? (value : Octets) : Option (List DistributionPoint) :=
  match Der.readTagged Der.tagSequence value with
  | .error _ => none
  | .ok (content, _) => Der.readAll? read content

/-- The URIs of a point in order. -/
def uris (point : DistributionPoint) : List String :=
  match point.name with
  | some (.full names) => names.filterMap GeneralName.uri?
  | _ => []

end DistributionPoint

end RevocationCheck.X509
