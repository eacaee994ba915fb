import RevocationCheck.Digest.Sha1
import RevocationCheck.Digest.Sha256
import RevocationCheck.Digest.Sha512

/-!
# Digests

The digest functions that signatures are made over.
-/

namespace RevocationCheck

/-- A digest function. -/
inductive Digest
  | sha1
  | sha256
  | sha384
  | sha512
deriving Repr, DecidableEq

namespace Digest

/-- The digest of a message. -/
def apply : Digest → Octets → Octets
  | .sha1 => Sha1.digest
  | .sha256 => Sha256.digest256
  | .sha384 => Sha512.digest384
  | .sha512 => Sha512.digest512

/-- The length of a digest in octets. -/
def size : Digest → Nat
  | .sha1 => 20
  | .sha256 => 32
  | .sha384 => 48
  | .sha512 => 64

end Digest

end RevocationCheck
