/-!
# Faults of certificates and revocation lists

A structure that does not decode is reported by the part that is wrong where that part has a
name, and as malformed otherwise.
-/

namespace RevocationCheck.X509

/-- Why a certificate or a revocation list could not be decoded. -/
inductive Fault
  /-- The nesting of elements is wrong: a wrong tag, a bad length, or missing octets. -/
  | malformed
  | invalidVersion
  | invalidSerial
  | invalidAlgorithmIdentifier
  | invalidDate
  | invalidSubjectPublicKey
  | invalidIssuerUniqueId
  | invalidSubjectUniqueId
  | invalidExtensions
  | invalidSignatureValue
deriving Repr, DecidableEq

/-- The text of a fault. -/
def Fault.message : Fault → String
  | .malformed => "<malformed>"
  | .invalidVersion => "Parsing Error: InvalidVersion"
  | .invalidSerial => "Parsing Error: InvalidSerial"
  | .invalidAlgorithmIdentifier => "Parsing Error: InvalidAlgorithmIdentifier"
  | .invalidDate => "Parsing Error: InvalidDate"
  | .invalidSubjectPublicKey => "Parsing Error: InvalidSPKI"
  | .invalidIssuerUniqueId => "Parsing Error: InvalidIssuerUID"
  | .invalidSubjectUniqueId => "Parsing Error: InvalidSubjectUID"
  | .invalidExtensions => "Parsing Error: InvalidExtensions"
  | .invalidSignatureValue => "Parsing Error: InvalidSignatureValue"

end RevocationCheck.X509
