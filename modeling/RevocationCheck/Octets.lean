/-!
# Octet strings

Binary data is a list of octets, so that every reader and writer of this library is a
structural recursion over it.  The module holds the two numeric readings of an octet string
and the exact split that every length-delimited format relies on.
-/

namespace RevocationCheck

/-- A string of octets. -/
abbrev Octets := List UInt8

namespace Octets

/-- The unsigned big-endian number that the octets spell; no octets spell zero. -/
def toNat (bs : Octets) : Nat :=
  bs.foldl (fun n b => 256 * n + b.toNat) 0

/-- The unsigned little-endian number that the octets spell. -/
def toNatLE : Octets → Nat
  | [] => 0
  | b :: rest => b.toNat + 256 * toNatLE rest

/-- The last `width` base-256 digits of `n`, most significant first. -/
def ofNat : (width n : Nat) → Octets
  | 0, _ => []
  | width + 1, n => ofNat width (n / 256) ++ [UInt8.ofNat (n % 256)]

/-- Split off exactly `n` octets; there is no split when fewer are left. -/
def split? (n : Nat) (bs : Octets) : Option (Octets × Octets) :=
  if n ≤ bs.length then some (bs.take n, bs.drop n) else none

theorem append_of_split? {n : Nat} {bs front rest : Octets}
    (h : split? n bs = some (front, rest)) : front ++ rest = bs ∧ front.length = n := by
  unfold split? at h
  split at h
  · cases h
    simp
    omega
  · cases h

theorem split?_append {front rest : Octets} :
    split? front.length (front ++ rest) = some (front, rest) := by
  simp [split?]

theorem length_ofNat (width n : Nat) : (ofNat width n).length = width := by
  induction width generalizing n with
  | zero => rfl
  | succ width ih => simp [ofNat, ih]

end Octets

end RevocationCheck
