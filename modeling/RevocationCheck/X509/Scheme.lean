import RevocationCheck.Curve.Edwards
import RevocationCheck.Curve.Weierstrass
import RevocationCheck.Rsa
import RevocationCheck.X509.Algorithm

/-!
# Signature schemes

Which scheme an algorithm identifier asks for, and the verification of a signature under it.
The scheme comes from the identifier beside the signature; of the key's own identifier only the
parameters count, and only for the choice of an elliptic curve.
-/

namespace RevocationCheck.X509

/-- A way to sign. -/
inductive Scheme
  | rsaFixed (digest : Digest) (minBits : Nat)
  | rsaSalted (digest : Digest)
  | ecdsa (curve : Curve.Weierstrass) (digest : Digest)
  | ed25519

namespace Scheme

/-- The content of an element with tag number `tag` in the context-specific class, if it comes
next; another element in its place is left alone, but one of another class is a fault. -/
def tagged? (tag : Nat) (bs : Octets) : Option (Option Octets × Octets) :=
  if bs.isEmpty then some (none, bs)
  else
    match Der.Element.read bs with
    | .error _ => none
    | .ok (element, rest) =>
      if element.tag ≠ tag then some (none, bs)
      else if element.tagClass ≠ .contextSpecific then none
      else some (some element.content, rest)

/-- Is the content, if there is one, a number below 2^32? -/
def isNumber (content : Option Octets) : Bool :=
  match content with
  | none => true
  | some bs =>
    match Der.Element.read bs with
    | .error _ => false
    | .ok (element, _) => (Der.unsigned32? element).isSome

/-- Is the content, if there is one, an algorithm identifier? -/
def isAlgorithm (content : Option Octets) : Bool :=
  match content with
  | none => true
  | some bs => (AlgorithmIdentifier.read bs).isOk

/-- The digest named by the parameters of the probabilistic padding.  The other parameters have
to decode, but the mask uses the same digest and the salt has its length whatever they say. -/
def saltedDigest? (parameters : Der.Element) : Option Digest := do
  if parameters.tag ≠ Der.tagSequence then none
  else
    let (hash, rest) ← tagged? 0 parameters.content
    let (maskAlgorithm, rest) ← tagged? 1 rest
    let (saltLength, rest) ← tagged? 2 rest
    let (trailer, _) ← tagged? 3 rest
    if isAlgorithm maskAlgorithm && isNumber saltLength && isNumber trailer then
      match (AlgorithmIdentifier.read (← hash)).toOption with
      | none => none
      | some (hash, _) =>
        if hash.algorithm = Oid.ofArcs [2, 16, 840, 1, 101, 3, 4, 2, 1] then some .sha256
        else if hash.algorithm = Oid.ofArcs [2, 16, 840, 1, 101, 3, 4, 2, 2] then some .sha384
        else if hash.algorithm = Oid.ofArcs [2, 16, 840, 1, 101, 3, 4, 2, 3] then some .sha512
        else none
    else none

/-- The curve named by the parameters of a key. -/
def curve? (key : AlgorithmIdentifier) : Option Curve.Weierstrass := do
  let oid : Oid := ⟨(← key.parameters).content⟩
  if oid = Oid.ofArcs [1, 2, 840, 10045, 3, 1, 7] then some Curve.Weierstrass.p256
  else if oid = Oid.ofArcs [1, 3, 132, 0, 34] then some Curve.Weierstrass.p384
  else none

/-- The scheme that an algorithm identifier asks for. -/
def of? (signature key : AlgorithmIdentifier) : Option Scheme :=
  let oid := signature.algorithm
  if oid = Oid.ofArcs [1, 2, 840, 113549, 1, 1, 5] ∨ oid = Oid.ofArcs [1, 3, 14, 3, 2, 29] then
    some (.rsaFixed .sha1 1024)
  else if oid = Oid.ofArcs [1, 2, 840, 113549, 1, 1, 11] then some (.rsaFixed .sha256 2048)
  else if oid = Oid.ofArcs [1, 2, 840, 113549, 1, 1, 12] then some (.rsaFixed .sha384 2048)
  else if oid = Oid.ofArcs [1, 2, 840, 113549, 1, 1, 13] then some (.rsaFixed .sha512 2048)
  else if oid = Oid.ofArcs [1, 2, 840, 113549, 1, 1, 10] then
    (signature.parameters.bind saltedDigest?).map .rsaSalted
  else if oid = Oid.ofArcs [1, 2, 840, 10045, 4, 3, 2] then
    (curve? key).map (.ecdsa · .sha256)
  else if oid = Oid.ofArcs [1, 2, 840, 10045, 4, 3, 3] then
    (curve? key).map (.ecdsa · .sha384)
  else if oid = Oid.ofArcs [1, 3, 101, 112] then some .ed25519
  else none

/-- Does a signature of a message verify under a key? -/
def verify (scheme : Scheme) (key message signature : Octets) : Bool :=
  match scheme with
  | .rsaFixed digest minBits => Rsa.verifyFixed digest minBits key message signature
  | .rsaSalted digest => Rsa.verifySalted digest 2048 key message signature
  | .ecdsa curve digest => curve.verify digest key message signature
  | .ed25519 => Curve.Edwards.verify key message signature

end Scheme

end RevocationCheck.X509
