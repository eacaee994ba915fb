import RevocationCheck.Der.Strict
import RevocationCheck.Digest
import RevocationCheck.Modular

/-!
# RSA signatures

Verification of signatures with the two paddings of PKCS #1: the older one, which fixes every
octet, and the probabilistic one with a salt as long as the digest.
-/

namespace RevocationCheck.Rsa

/-- A public key. -/
structure Key where
  modulus : Nat
  exponent : Nat
deriving Repr, DecidableEq

/-- The number of bits of a number. -/
def bitLength (n : Nat) : Nat := if n = 0 then 0 else Nat.log2 n + 1

/-- The number of octets of a number. -/
def octetLength (n : Nat) : Nat := (bitLength n + 7) / 8

/-- Decode a key whose modulus has at least `minBits` bits, rounded up to whole octets, and at
most 8192.  Modulus and exponent are odd, and the exponent lies between 3 and 2^33. -/
def Key.decode? (minBits : Nat) (bs : Octets) : Option Key := do
  let (n, e) ← Der.Strict.positivePair? bs
  if minBits ≤ 8 * octetLength n ∧ bitLength n ≤ 8192 ∧ n % 2 = 1 ∧ e % 2 = 1 ∧ 3 ≤ e ∧
      e < Nat.pow 2 33 then
    some ⟨n, e⟩
  else none

/-- The padded message that a signature of exactly the modulus's length stands for. -/
def Key.open? (key : Key) (signature : Octets) : Option Octets :=
  let size := octetLength key.modulus
  let s := Octets.toNat signature
  if signature.length = size ∧ 0 < s ∧ s < key.modulus then
    some (Octets.ofNat size (Modular.pow key.modulus s key.exponent))
  else none

/-- What stands in front of a digest to say which function it is of. -/
def digestLabel : Digest → Octets
  | .sha1 =>
    [0x30, 0x21, 0x30, 0x09, 0x06, 0x05, 0x2B, 0x0E, 0x03, 0x02, 0x1A, 0x05, 0x00, 0x04, 0x14]
  | .sha256 => label 0x31 0x01 0x20
  | .sha384 => label 0x41 0x02 0x30
  | .sha512 => label 0x51 0x03 0x40
where
  /-- The label of a SHA-2 function. -/
  label (total function size : UInt8) : Octets :=
    [0x30, total, 0x30, 0x0D, 0x06, 0x09, 0x60, 0x86, 0x48, 0x01, 0x65, 0x03, 0x04, 0x02,
      function, 0x05, 0x00, 0x04, size]

/-- The padded form of a message under the older padding. -/
def fixedPadding? (digest : Digest) (size : Nat) (message : Octets) : Option Octets :=
  let tail := digestLabel digest ++ digest.apply message
  if tail.length + 11 ≤ size then
    some (0 :: 1 :: List.replicate (size - tail.length - 3) 0xFF ++ 0 :: tail)
  else none

/-- Does a signature with the older padding verify? -/
def verifyFixed (digest : Digest) (minBits : Nat) (keyBits message signature : Octets) : Bool :=
  match Key.decode? minBits keyBits with
  | none => false
  | some key =>
    match key.open? signature, fixedPadding? digest (octetLength key.modulus) message with
    | some opened, some expected => opened = expected
    | _, _ => false

/-- `length` mask octets grown from a seed. -/
def mask (digest : Digest) (seed : Octets) (length : Nat) : Octets :=
  let count := (length + digest.size - 1) / digest.size
  ((List.range count).flatMap fun i => digest.apply (seed ++ Octets.ofNat 4 i)).take length

/-- Clear the `n` high bits of the first octet. -/
def clearHighBits (n : Nat) : Octets → Octets
  | [] => []
  | b :: rest => UInt8.ofNat (b.toNat % Nat.pow 2 (8 - n)) :: rest

/-- Does an opened signature of `bits` usable bits fit a message under the probabilistic
padding? -/
def fitsSalted (digest : Digest) (bits : Nat) (message opened : Octets) : Bool :=
  let size := (bits + 7) / 8
  let extra := opened.take (opened.length - size)
  let em := opened.drop (opened.length - size)
  let h := digest.size
  let dbLength := size - h - 1
  let unusedBits := 8 * size - bits
  let masked := em.take dbLength
  let hash := (em.drop dbLength).take h
  let db := clearHighBits unusedBits
    (List.zipWith (· ^^^ ·) masked (mask digest hash dbLength))
  let zeros := dbLength - h - 1
  let salt := db.drop (zeros + 1)
  2 * h + 2 ≤ size && extra.all (· = 0) && em.getLast? == some 0xBC &&
    clearHighBits unusedBits masked == masked &&
    (db.take zeros).all (· = 0) && db[zeros]? == some 1 &&
    digest.apply (List.replicate 8 0 ++ digest.apply message ++ salt) == hash

/-- Does a signature with the probabilistic padding verify? -/
def verifySalted (digest : Digest) (minBits : Nat) (keyBits message signature : Octets) : Bool :=
  match Key.decode? minBits keyBits with
  | none => false
  | some key =>
    match key.open? signature with
    | none => false
    | some opened => fitsSalted digest (bitLength key.modulus - 1) message opened

end RevocationCheck.Rsa
