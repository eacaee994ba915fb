import RevocationCheck.Curve.Weierstrass
import RevocationCheck.Rsa
import RevocationCheck.X509.Certificate
import RevocationCheck.X509.Scheme

/-!
# Strength

Keys and signatures in a path have to be about as hard to break as a key of 112 bits.  A digest
counts half its length against collisions, so SHA-1 is too weak.
-/

namespace RevocationCheck.TrustPath

open X509

/-- Kinds of keys. -/
inductive KeyKind
  | rsa
  | rsaSalted
  | curve
  | ed25519
  | ed448
deriving Repr, DecidableEq

/-- The kind of key that an identifier is for. -/
def KeyKind.ofKey? (type : Oid) : Option KeyKind :=
  if type = Oid.ofArcs [1, 2, 840, 113549, 1, 1, 1] then some .rsa
  else if type = Oid.ofArcs [1, 2, 840, 113549, 1, 1, 10] then some .rsaSalted
  else if type = Oid.ofArcs [1, 2, 840, 10045, 2, 1] then some .curve
  else if type = Oid.ofArcs [1, 3, 101, 112] then some .ed25519
  else if type = Oid.ofArcs [1, 3, 101, 113] then some .ed448
  else none

/-- The identifiers of signatures with the older padding of RSA. -/
def fixedSignatures : List Oid :=
  [2, 4, 5, 11, 12, 13, 14].map fun n => Oid.ofArcs [1, 2, 840, 113549, 1, 1, n]

/-- The identifiers of signatures over curves. -/
def curveSignatures : List Oid :=
  Oid.ofArcs [1, 2, 840, 10045, 4, 1] ::
    [1, 2, 3, 4].map fun n => Oid.ofArcs [1, 2, 840, 10045, 4, 3, n]

/-- The kind of key that a signature is made with. -/
def KeyKind.ofSignature? (type : Oid) : Option KeyKind :=
  if fixedSignatures.contains type then some .rsa
  else if curveSignatures.contains type then some .curve
  else ofKey? type

/-- Can a signature be made with a key, as far as their identifiers say? -/
def suits (signature key : Oid) : Bool :=
  match KeyKind.ofSignature? signature, KeyKind.ofKey? key with
  | some s, some k => s = k || (s = .rsaSalted && k = .rsa)
  | _, _ => false

/-- The least number of bits of an RSA modulus that is strong enough. -/
def minModulusBits : Nat := 1963

/-- The identifiers of the curves that are strong enough for a client. -/
def strongCurves : List Oid :=
  [Oid.ofArcs [1, 2, 840, 10045, 3, 1, 7], Oid.ofArcs [1, 3, 132, 0, 34],
    Oid.ofArcs [1, 3, 132, 0, 35]]

/-- Is a key strong enough? -/
def isStrongKey (key : PublicKey) : Bool :=
  match KeyKind.ofKey? key.algorithm.algorithm with
  | some .rsa | some .rsaSalted =>
    (Der.Strict.positivePair? key.bits.octets).any fun (n, _) =>
      minModulusBits ≤ Rsa.bitLength n
  | some .curve => key.algorithm.parameters.any fun p => strongCurves.contains ⟨p.content⟩
  | some .ed25519 | some .ed448 => true
  | none => false

/-- The identifiers of signatures whose digest is too weak. -/
def weakSignatures : List Oid :=
  [Oid.ofArcs [1, 2, 840, 10045, 4, 1], Oid.ofArcs [1, 2, 840, 113549, 1, 1, 2],
    Oid.ofArcs [1, 2, 840, 113549, 1, 1, 4], Oid.ofArcs [1, 2, 840, 113549, 1, 1, 5]]

/-- Is the digest under a signature strong enough? -/
def isStrongSignature (signature : SignatureValue) : Bool :=
  !weakSignatures.contains signature.algorithm.algorithm

/-- The digest under a signature over a curve. -/
def curveDigest? (signature : Oid) : Option Digest :=
  if signature = Oid.ofArcs [1, 2, 840, 10045, 4, 3, 2] then some .sha256
  else if signature = Oid.ofArcs [1, 2, 840, 10045, 4, 3, 3] then some .sha384
  else if signature = Oid.ofArcs [1, 2, 840, 10045, 4, 3, 4] then some .sha512
  else none

/-- The curve of a key. -/
def curve? (key : AlgorithmIdentifier) : Option Curve.Weierstrass :=
  if key.parameters.any fun p => p.content = (Oid.ofArcs [1, 3, 132, 0, 35]).octets then
    some .p521
  else Scheme.curve? key

/-- The scheme of a signature.  Over a curve, any digest goes with any key. -/
def scheme? (signature key : AlgorithmIdentifier) : Option Scheme :=
  match curveDigest? signature.algorithm with
  | some digest => (curve? key).map (.ecdsa · digest)
  | none => Scheme.of? signature key

/-- Was a certificate signed with the key of another one? -/
def isSignedBy (c issuer : Certificate) : Bool :=
  match scheme? c.signature.algorithm issuer.publicKey.algorithm with
  | none => false
  | some scheme =>
    scheme.verify issuer.publicKey.bits.octets c.signed c.signature.bits.octets

end RevocationCheck.TrustPath
