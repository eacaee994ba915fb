import RevocationCheck.RevocationList
import RevocationCheck.X509.Certificate
import RevocationCheck.X509.Scheme

/-!
# Validation of revocation lists

A list is valid at a time if it is current then and, where a signature is asked for, signed by
a certificate that may sign revocation lists.

What a certificate may do is read from its extensions.  Basic constraints that do not decode
count as absent, which only a certificate of another version than 3 may have; a key usage that
does not decode is refused; and neither extension may occur twice.
-/

namespace RevocationCheck.RevocationList

/-- Why a list's signature does not count. -/
inductive SignatureFault
  /-- The octets of the list do not decode again. -/
  | undecodable (fault : X509.Fault)
  | noIssuer
  | duplicateExtensions
  | notAuthority
  | noBasicConstraints
  | invalidExtensions
  | noCrlSign
  | unsupportedAlgorithm
  | doesNotVerify
deriving Repr, DecidableEq

/-- The text of a fault. -/
def SignatureFault.message : SignatureFault → String
  | .undecodable fault => fault.message
  | .noIssuer => "no issuer certificate available"
  | .duplicateExtensions => "duplicate extensions"
  | .notAuthority => "issuer certificate is not a CA"
  | .noBasicConstraints => "issuer certificate has no basic constraints"
  | .invalidExtensions => "invalid extensions"
  | .noCrlSign => "issuer certificate lacks cRLSign key usage"
  | .unsupportedAlgorithm => "signature unsupported algorithm"
  | .doesNotVerify => "signature verification error"

/-- Why a list is not valid. -/
inductive Invalidity
  | expired (nextUpdate : Timestamp)
  | signature (fault : SignatureFault)
deriving Repr, DecidableEq

/-- The certificate's basic constraints, if they are there and decode. -/
def basicConstraints (c : X509.Certificate) :
    Except SignatureFault (Option X509.BasicConstraints) :=
  match c.uniqueExtension X509.Extension.basicConstraintsType with
  | .error () => .error .duplicateExtensions
  | .ok e => .ok (e.bind fun e => X509.BasicConstraints.decode? e.value)

/-- The certificate's key usage, if it is there. -/
def keyUsage (c : X509.Certificate) : Except SignatureFault (Option X509.KeyUsage) :=
  match c.uniqueExtension X509.Extension.keyUsageType with
  | .error () => .error .duplicateExtensions
  | .ok none => .ok none
  | .ok (some e) =>
    match X509.KeyUsage.decode? e.value with
    | none => .error .invalidExtensions
    | some usage => .ok (some usage)

/-- The version number that stands for version 3. -/
def version3 : Nat := 2

/-- Is the certificate that of an authority? -/
def checkAuthority (c : X509.Certificate) : Except SignatureFault Unit := do
  match ← basicConstraints c with
  | some constraints => if constraints.ca then .ok () else .error .notAuthority
  | none => if c.version = version3 then .error .noBasicConstraints else .ok ()

/-- May the certificate's key sign revocation lists? -/
def checkKeyUsage (c : X509.Certificate) : Except SignatureFault Unit := do
  match ← keyUsage c with
  | some usage => if usage.crlSign then .ok () else .error .noCrlSign
  | none => .ok ()

/-- Does a signature over octets verify under the certificate's key? -/
def checkSignature (c : X509.Certificate) (signature : X509.SignatureValue) (signed : Octets) :
    Except SignatureFault Unit :=
  match X509.Scheme.of? signature.algorithm c.publicKey.algorithm with
  | none => .error .unsupportedAlgorithm
  | some scheme =>
    if scheme.verify c.publicKey.bits.octets signed signature.bits.octets then .ok ()
    else .error .doesNotVerify

/-- Is the list signed by a certificate that may sign it?  The signed octets and the signature
come from decoding the list once more. -/
def verifySignature (list : RevocationList) (issuer : X509.Certificate) :
    Except SignatureFault Unit :=
  match list.reread with
  | .error fault => .error (.undecodable fault)
  | .ok inner => do
    checkAuthority issuer
    checkKeyUsage issuer
    checkSignature issuer inner.signature inner.signed

/-- The list, if it is valid at a time.  Currency comes first; the signature is looked at only
where it is asked for, and then there has to be an issuer. -/
def validate (list : RevocationList) (issuer : Option X509.Certificate) (signatureWanted : Bool)
    (now : Timestamp) : Except Invalidity RevocationList :=
  if list.isCurrentAt now then
    if signatureWanted then
      match issuer with
      | none => .error (.signature .noIssuer)
      | some issuer =>
        match list.verifySignature issuer with
        | .error fault => .error (.signature fault)
        | .ok () => .ok list
    else .ok list
  else .error (.expired list.nextUpdate)

end RevocationCheck.RevocationList
