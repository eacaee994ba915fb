import RevocationCheck.X509.Algorithm
import RevocationCheck.X509.Extension
import RevocationCheck.X509.Time

/-!
# Certificates

Decoding of a certificate, and the questions that revocation checking asks of one: its serial
number, its names, where its revocation list is published, and what its key may do.

Decoding does not judge a certificate: validity dates, critical extensions and the signature
are not looked at here.
-/

namespace RevocationCheck.X509

/-- A certificate. -/
structure Certificate where
  /-- The octets that the signature covers. -/
  signed : Octets
  /-- The version number as written, one less than the usual name; zero when left out. -/
  version : Nat
  /-- The content octets of the serial number. -/
  serialOctets : Octets
  issuer : Name
  notBefore : Timestamp
  notAfter : Timestamp
  subject : Name
  publicKey : PublicKey
  extensions : List Extension
  signature : SignatureValue
deriving Repr, DecidableEq

namespace Certificate

/-- The version number under an explicit tag 0, if it is there. -/
def readVersion (bs : Octets) : Except Fault (Nat × Octets) :=
  if bs.isEmpty then .ok (0, bs)
  else
    match Der.Element.read bs with
    | .error _ => .error .malformed
    | .ok (element, rest) =>
      if element.tag ≠ 0 then .ok (0, bs)
      else if element.tagClass ≠ .contextSpecific then .error .malformed
      else
        match Der.Element.read element.content with
        | .error _ => .error .invalidVersion
        | .ok (inner, _) =>
          match Der.unsigned32? inner with
          | none => .error .invalidVersion
          | some version => .ok (version, rest)

/-- Read the two dates of the validity period. -/
def readValidity (bs : Octets) : Except Fault (Timestamp × Timestamp × Octets) := do
  let (content, rest) ← orFault .malformed (Der.readTagged Der.tagSequence bs)
  let (notBefore, content) ← readTime content
  let (notAfter, _) ← readTime content
  .ok (notBefore, notAfter, rest)

/-- Skip a unique identifier with the given tag number, if one is there. -/
def skipUniqueId (tag : Nat) (fault : Fault) (bs : Octets) : Except Fault Octets :=
  if bs.isEmpty then .ok bs
  else
    match Der.Element.read bs with
    | .error _ => .error fault
    | .ok (element, rest) =>
      if element.tag = tag ∧ element.tagClass = .contextSpecific then
        if element.content.isEmpty then .error fault else .ok rest
      else .ok bs

/-- Read a certificate; octets behind it are given back. -/
def read (bs : Octets) : Except Fault (Certificate × Octets) := do
  let (content, rest) ← orFault .malformed (Der.readTagged Der.tagSequence bs)
  let (fields, behind) ← orFault .malformed (Der.readTagged Der.tagSequence content)
  let signed := content.take (content.length - behind.length)
  let (version, fields) ← readVersion fields
  let (serialOctets, fields) ← orFault .invalidSerial (Der.readSerial fields)
  let (_, fields) ← AlgorithmIdentifier.read fields
  let (issuer, fields) ← orFault .malformed (Name.read fields)
  let (notBefore, notAfter, fields) ← readValidity fields
  let (subject, fields) ← orFault .malformed (Name.read fields)
  let (publicKey, fields) ← PublicKey.read fields
  let fields ← skipUniqueId 1 .invalidIssuerUniqueId fields
  let fields ← skipUniqueId 2 .invalidSubjectUniqueId fields
  let extensions ← Extension.ofRest 3 fields
  let (signature, _) ← SignatureValue.read behind
  .ok (⟨signed, version, serialOctets, issuer, notBefore, notAfter, subject, publicKey,
    extensions, signature⟩, rest)

/-- The certificate at the beginning of the octets. -/
def decode (bs : Octets) : Except Fault Certificate := (read bs).map Prod.fst

/-- The serial number: the content octets as an unsigned number. -/
def serial (c : Certificate) : Nat := Octets.toNat c.serialOctets

/-- The extensions with an identifier. -/
def extensionsOf (c : Certificate) (type : Oid) : List Extension :=
  c.extensions.filter fun e => e.type = type

/-- The only extension with an identifier, if there is one. -/
def uniqueExtension (c : Certificate) (type : Oid) : Except Unit (Option Extension) :=
  match c.extensionsOf type with
  | [] => .ok none
  | [e] => .ok (some e)
  | _ => .error ()

/-- The distribution points of one extension; an extension of another kind, or one that does
not decode, has none. -/
def pointsOf (e : Extension) : List DistributionPoint :=
  if e.type = Extension.distributionPointsType then
    (DistributionPoint.decodeAll? e.value).getD []
  else []

/-- Where the certificate's revocation list is published: the first URI among all names of all
distribution points. -/
def distributionPoint? (c : Certificate) : Option String :=
  (c.extensions.flatMap fun e => (pointsOf e).flatMap DistributionPoint.uris).head?

end Certificate

/-- The certificates of a chain, if each of them decodes. -/
def decodeChain (ders : List Octets) : Except Fault (List Certificate) :=
  ders.mapM Certificate.decode

end RevocationCheck.X509
