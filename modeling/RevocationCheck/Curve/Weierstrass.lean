import RevocationCheck.Der.Strict
import RevocationCheck.Digest
import RevocationCheck.Modular

/-!
# Elliptic curves of the form y² = x³ - 3x + b

The curves P-256, P-384 and P-521 and the verification of ECDSA signatures over them.  Points are
computed in Jacobian coordinates, where (X, Y, Z) stands for x = X/Z², y = Y/Z³ and a zero Z
for the point at infinity.
-/

namespace RevocationCheck.Curve

/-- A curve with a base point of prime order. -/
structure Weierstrass where
  /-- The prime of the field. -/
  prime : Nat
  b : Nat
  baseX : Nat
  baseY : Nat
  order : Nat
  /-- The length of a coordinate in octets. -/
  size : Nat

namespace Weierstrass

/-- The curve P-256. -/
def p256 : Weierstrass where
  prime := 0xFFFFFFFF00000001000000000000000000000000FFFFFFFFFFFFFFFFFFFFFFFF
  b := 0x5AC635D8AA3A93E7B3EBBD55769886BC651D06B0CC53B0F63BCE3C3E27D2604B
  baseX := 0x6B17D1F2E12C4247F8BCE6E563A440F277037D812DEB33A0F4A13945D898C296
  baseY := 0x4FE342E2FE1A7F9B8EE7EB4A7C0F9E162BCE33576B315ECECBB6406837BF51F5
  order := 0xFFFFFFFF00000000FFFFFFFFFFFFFFFFBCE6FAADA7179E84F3B9CAC2FC632551
  size := 32

/-- The curve P-384. -/
def p384 : Weierstrass where
  prime := 0xFFFFFFFFFFFFFFFFFFFFFFFFFFFFFFFFFFFFFFFFFFFFFFFFFFFFFFFFFFFFFFFEFFFFFFFF0000000000000000FFFFFFFF
  b := 0xB3312FA7E23EE7E4988E056BE3F82D19181D9C6EFE8141120314088F5013875AC656398D8A2ED19D2A85C8EDD3EC2AEF
  baseX := 0xAA87CA22BE8B05378EB1C71EF320AD746E1D3B628BA79B9859F741E082542A385502F25DBF55296C3A545E3872760AB7
  baseY := 0x3617DE4A96262C6F5D9E98BF9292DC29F8F41DBD289A147CE9DA3113B5F0B8C00A60B1CE1D7E819D7A431D7C90EA0E5F
  order := 0xFFFFFFFFFFFFFFFFFFFFFFFFFFFFFFFFFFFFFFFFFFFFFFFFC7634D81F4372DDF581A0DB248B0A77AECEC196ACCC52973
  size := 48

/-- The curve P-521. -/
def p521 : Weierstrass where
  prime := Nat.pow 2 521 - 1
  b := 0x51953EB9618E1C9A1F929A21A0B68540EEA2DA725B99B315F3B8B489918EF109 * Nat.pow 2 264 +
    0xE156193951EC7E937B1652C0BD3BB1BF073573DF883D2C34F1EF451FD46B503F00
  baseX := 0xC6858E06B70404E9CD9E3ECB662395B4429C648139053FB521F828AF606B4D3D * Nat.pow 2 264 +
    0xBAA14B5E77EFE75928FE1DC127A2FFA8DE3348B3C1856A429BF97E7E31C2E5BD66
  baseY := 0x11839296A789A3BC0045C8A5FB42C7D1BD998F54449579B446817AFBD17273E66 * Nat.pow 2 264 +
    0x2C97EE72995EF42640C550B9013FAD0761353C7086A272C24088BE94769FD16650
  order := 0x1FFFFFFFFFFFFFFFFFFFFFFFFFFFFFFFFFFFFFFFFFFFFFFFFFFFFFFFFFFFFFFFF * Nat.pow 2 264 +
    0xFA51868783BF2F966B7FCC0148F709A5D03BB5C9B8899C47AEBB6FB71E91386409
  size := 66

/-- A point in Jacobian coordinates. -/
structure Point where
  x : Nat
  y : Nat
  z : Nat

/-- The point at infinity. -/
def infinity : Point := ⟨1, 1, 0⟩

/-- The base point. -/
def base (c : Weierstrass) : Point := ⟨c.baseX, c.baseY, 1⟩

/-- Is a pair of coordinates a point of the curve? -/
def contains (c : Weierstrass) (x y : Nat) : Bool :=
  x < c.prime && y < c.prime &&
    y * y % c.prime = Modular.sub c.prime (x * x * x + c.b) (3 * x)

/-- Twice a point. -/
def double (c : Weierstrass) (p : Point) : Point :=
  let m := c.prime
  let delta := p.z * p.z % m
  let gamma := p.y * p.y % m
  let beta := p.x * gamma % m
  let alpha := 3 * Modular.sub m p.x delta * (p.x + delta) % m
  let x := Modular.sub m (alpha * alpha) (8 * beta)
  let z := 2 * p.y * p.z % m
  ⟨x, Modular.sub m (alpha * Modular.sub m (4 * beta) x) (8 * gamma * gamma), z⟩

/-- The sum of two points. -/
def add (c : Weierstrass) (p q : Point) : Point :=
  let m := c.prime
  if p.z = 0 then q
  else if q.z = 0 then p
  else
    let pzz := p.z * p.z % m
    let qzz := q.z * q.z % m
    let u := p.x * qzz % m
    let s := p.y * qzz * q.z % m
    let h := Modular.sub m (q.x * pzz) u
    let r := Modular.sub m (q.y * pzz * p.z) s
    if h = 0 then
      if r = 0 then c.double p else infinity
    else
      let hh := h * h % m
      let hhh := h * hh % m
      let v := u * hh % m
      let x := Modular.sub m (r * r) (hhh + 2 * v)
      ⟨x, Modular.sub m (r * Modular.sub m v x) (s * hhh), p.z * q.z * h % m⟩

/-- A multiple of a point. -/
def multiple (c : Weierstrass) (n : Nat) (p : Point) : Point :=
  if _h : n = 0 then infinity
  else
    let rest := multiple c (n / 2) (c.double p)
    if n % 2 = 1 then c.add p rest else rest
termination_by n
decreasing_by omega

/-- The x-coordinate of a point that is not at infinity. -/
def xCoordinate? (c : Weierstrass) (p : Point) : Option Nat :=
  if p.z % c.prime = 0 then none
  else
    let inv := Modular.inverse c.prime p.z
    some (p.x * inv * inv % c.prime)

/-- Decode an uncompressed point. -/
def decodePoint? (c : Weierstrass) : Octets → Option Point
  | 4 :: coordinates =>
    if coordinates.length = 2 * c.size then
      let x := Octets.toNat (coordinates.take c.size)
      let y := Octets.toNat (coordinates.drop c.size)
      if c.contains x y then some ⟨x, y, 1⟩ else none
    else none
  | _ => none

/-- Does an ECDSA signature verify?  Of a digest longer than the order, the front counts. -/
def verify (c : Weierstrass) (digest : Digest) (keyBits message signature : Octets) : Bool :=
  match c.decodePoint? keyBits, Der.Strict.positivePair? signature with
  | some key, some (r, s) =>
    if r < c.order ∧ s < c.order then
      let e := Octets.toNat ((digest.apply message).take c.size)
      let w := Modular.inverse c.order s
      let sum := c.add (c.multiple (e * w % c.order) c.base) (c.multiple (r * w % c.order) key)
      match c.xCoordinate? sum with
      | none => false
      | some x => x % c.order = r
    else false
  | _, _ => false

end Weierstrass

end RevocationCheck.Curve
