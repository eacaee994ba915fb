import RevocationCheck.X509.Algorithm
import RevocationCheck.X509.Extension
import RevocationCheck.X509.Time

/-!
# Certificate lists

Decoding of a list of revoked certificates.  The optional fields in the middle are told apart
by what they look like: a sequence of well-formed entries is the list of revoked certificates,
and anything else in that place has to be the extensions.  So a list with one entry that does
not decode is refused as a whole.
-/

namespace RevocationCheck.X509

/-- A revoked certificate. -/
structure RevokedCertificate where
  /-- The content octets of the serial number. -/
  serialOctets : Octets
  date : Timestamp
deriving Repr, DecidableEq

/-- A list of revoked certificates. -/
structure CertificateList where
  /-- The octets that the signature covers. -/
  signed : Octets
  issuer : Name
  thisUpdate : Timestamp
  nextUpdate : Option Timestamp
  revoked : List RevokedCertificate
  extensions : List Extension
  signature : SignatureValue
deriving Repr, DecidableEq

/-- Read one entry.  Extensions of the entry are not looked at. -/
def RevokedCertificate.read (bs : Octets) : Except Fault (RevokedCertificate × Octets) := do
  let (content, rest) ← orFault .malformed (Der.readTagged Der.tagSequence bs)
  let (serialOctets, content) ← orFault .invalidSerial (Der.readSerial content)
  let (date, _) ← readTime content
  .ok (⟨serialOctets, date⟩, rest)

namespace CertificateList

/-- Skip the version number, if one is there.  An input that ends where the version is expected
has a bad version; anything else that is no version number is left to the next field. -/
def skipVersion (bs : Octets) : Except Fault Octets :=
  match Der.Header.readDefinite bs with
  | .error .truncated => .error .invalidVersion
  | .error _ => .ok bs
  | .ok (header, length, rest) =>
    if header.tag = Der.tagInteger then
      match Der.readContent length rest with
      | .error _ => .error .invalidVersion
      | .ok (content, rest) =>
        match Der.unsigned32? ⟨header.tagClass, header.constructed, header.tag, content⟩ with
        | none => .ok bs
        | some _ => .ok rest
    else .ok bs

/-- The revoked certificates, if the next element is a sequence of entries and nothing else;
otherwise nothing is read. -/
def readRevoked (bs : Octets) : List RevokedCertificate × Octets :=
  match Der.readTagged Der.tagSequence bs with
  | .error _ => ([], bs)
  | .ok (content, rest) =>
    match Der.readAll? RevokedCertificate.read content with
    | none => ([], bs)
    | some entries => (entries, rest)

/-- Read a list; octets behind it are given back. -/
def read (bs : Octets) : Except Fault (CertificateList × Octets) := do
  let (content, rest) ← orFault .malformed (Der.readTagged Der.tagSequence bs)
  let (fields, behind) ← orFault .malformed (Der.readTagged Der.tagSequence content)
  let signed := content.take (content.length - behind.length)
  let fields ← skipVersion fields
  let (_, fields) ← AlgorithmIdentifier.read fields
  let (issuer, fields) ← orFault .malformed (Name.read fields)
  let (thisUpdate, fields) ← readTime fields
  let (nextUpdate, fields) ← readTime? fields
  let (revoked, fields) := readRevoked fields
  let extensions ← Extension.ofRest 0 fields
  let (signature, _) ← SignatureValue.read behind
  .ok (⟨signed, issuer, thisUpdate, nextUpdate, revoked, extensions, signature⟩, rest)

/-- The list at the beginning of the octets. -/
def decode (bs : Octets) : Except Fault CertificateList := (read bs).map Prod.fst

end CertificateList

end RevocationCheck.X509
