import RevocationCheck.Digest
import RevocationCheck.Modular

/-!
# The twisted Edwards curve of Ed25519

Verification of Ed25519 signatures.  The scalar of a signature has to be reduced; the point of
a key may be written with an unreduced coordinate; and the point of a signature is compared as
it is written, without multiplying by the cofactor.
-/

namespace RevocationCheck.Curve.Edwards

/-- The prime of the field, 2^255 - 19. -/
def prime : Nat := Nat.pow 2 255 - 19

/-- The order of the base point. -/
def order : Nat := Nat.pow 2 252 + 27742317777372353535851937790883648493

/-- The coefficient -121665/121666 of the curve. -/
def coefficient : Nat :=
  37095705934669439343138083508754565189542113879843219016388785533085940283555

/-- A point in extended coordinates: x = X/Z, y = Y/Z and xy = T/Z. -/
structure Point where
  x : Nat
  y : Nat
  z : Nat
  t : Nat

/-- The neutral point. -/
def neutral : Point := ⟨0, 1, 1, 0⟩

/-- The base point. -/
def base : Point :=
  let x := 15112221349535400772501151409588531511454012693041857206046113283949847762202
  let y := 46316835694926478169428394003475163141307993866256225615783033603165251855960
  ⟨x, y, 1, x * y % prime⟩

/-- The sum of two points; the formulas hold for all of them. -/
def add (p q : Point) : Point :=
  let a := Modular.sub prime p.y p.x * Modular.sub prime q.y q.x % prime
  let b := (p.y + p.x) * (q.y + q.x) % prime
  let c := 2 * coefficient * p.t * q.t % prime
  let d := 2 * p.z * q.z % prime
  let e := Modular.sub prime b a
  let f := Modular.sub prime d c
  let g := d + c
  let h := b + a
  ⟨e * f % prime, g * h % prime, f * g % prime, e * h % prime⟩

/-- The point with the opposite sign. -/
def negate (p : Point) : Point :=
  ⟨Modular.sub prime 0 p.x, p.y, p.z, Modular.sub prime 0 p.t⟩

/-- A multiple of a point. -/
def multiple (n : Nat) (p : Point) : Point :=
  if _h : n = 0 then neutral
  else
    let rest := multiple (n / 2) (add p p)
    if n % 2 = 1 then add p rest else rest
termination_by n
decreasing_by omega

/-- A root of u/v, if there is one. -/
def rootOfRatio? (u v : Nat) : Option Nat :=
  let v3 := v * v * v % prime
  let power := Modular.pow prime (u * v3 * v3 * v % prime) ((prime - 5) / 8)
  let x := u * v3 * power % prime
  let square := v * x * x % prime
  if square = u % prime then some x
  else if square = Modular.sub prime 0 u then
    some (x * Modular.pow prime 2 ((prime - 1) / 4) % prime)
  else none

/-- Decode a point: the y-coordinate in little-endian order, and the lowest bit of x above it. -/
def decodePoint? (bs : Octets) : Option Point :=
  if bs.length = 32 then
    let n := Octets.toNatLE bs
    let y := n % Nat.pow 2 255 % prime
    let u := Modular.sub prime (y * y) 1
    let v := (coefficient * y * y + 1) % prime
    (rootOfRatio? u v).map fun root =>
      let x := if root % 2 = n / Nat.pow 2 255 then root else Modular.sub prime 0 root
      ⟨x, y, 1, x * y % prime⟩
  else none

/-- The written form of a point. -/
def encodePoint (p : Point) : Octets :=
  let inv := Modular.inverse prime p.z
  let x := p.x * inv % prime
  let y := p.y * inv % prime
  (Octets.ofNat 32 (y + if x % 2 = 1 then Nat.pow 2 255 else 0)).reverse

/-- Does an Ed25519 signature verify? -/
def verify (keyBits message signature : Octets) : Bool :=
  if signature.length = 64 then
    let written := signature.take 32
    let s := Octets.toNatLE (signature.drop 32)
    match decodePoint? keyBits with
    | none => false
    | some key =>
      if s < order then
        let h := Octets.toNatLE (Digest.sha512.apply (written ++ keyBits ++ message)) % order
        encodePoint (add (multiple s base) (multiple h (negate key))) == written
      else false
  else false

end RevocationCheck.Curve.Edwards
