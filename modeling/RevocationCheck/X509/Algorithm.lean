import RevocationCheck.X509.Name

/-!
# Algorithm identifiers

An algorithm is an identifier with optional parameters, which may be any element.
-/

namespace RevocationCheck.X509

/-- An algorithm and its parameters. -/
structure AlgorithmIdentifier where
  algorithm : Oid
  parameters : Option Der.Element
deriving Repr, DecidableEq

/-- Read an algorithm identifier. -/
def AlgorithmIdentifier.read (bs : Octets) : Except Fault (AlgorithmIdentifier × Octets) :=
  match Der.readTagged Der.tagSequence bs with
  | .error _ => .error .malformed
  | .ok (content, rest) =>
    match readOid content with
    | .error .truncated => .error .malformed
    | .error _ => .error .invalidAlgorithmIdentifier
    | .ok (algorithm, []) => .ok (⟨algorithm, none⟩, rest)
    | .ok (algorithm, more) =>
      match Der.Element.read more with
      | .error _ => .error .malformed
      | .ok (parameters, _) => .ok (⟨algorithm, some parameters⟩, rest)

/-- A public key: the algorithm it is for, and its bits. -/
structure PublicKey where
  algorithm : AlgorithmIdentifier
  bits : Der.BitString
deriving Repr, DecidableEq

/-- Turn any fault of an element reader into one fault. -/
def orFault {α : Type} (fault : Fault) (result : Except Der.Fault α) : Except Fault α :=
  match result with
  | .ok a => .ok a
  | .error _ => .error fault

/-- Read a public key. -/
def PublicKey.read (bs : Octets) : Except Fault (PublicKey × Octets) := do
  let (content, rest) ← orFault .malformed (Der.readTagged Der.tagSequence bs)
  let (algorithm, content) ← AlgorithmIdentifier.read content
  let (bits, _) ← orFault .invalidSubjectPublicKey (Der.BitString.read content)
  .ok (⟨algorithm, bits⟩, rest)

/-- A signature: the algorithm it was made with, and its bits. -/
structure SignatureValue where
  algorithm : AlgorithmIdentifier
  bits : Der.BitString
deriving Repr, DecidableEq

/-- Read the signature behind a signed structure. -/
def SignatureValue.read (bs : Octets) : Except Fault (SignatureValue × Octets) := do
  let (algorithm, rest) ← AlgorithmIdentifier.read bs
  let (bits, rest) ← orFault .invalidSignatureValue (Der.BitString.read rest)
  .ok (⟨algorithm, bits⟩, rest)

end RevocationCheck.X509
