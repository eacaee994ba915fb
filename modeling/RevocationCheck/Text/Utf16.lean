import RevocationCheck.Octets

/-!
# UTF-16, most significant octet first

A last octet without a partner is a unit of its own.  A surrogate that is not part of a pair
makes the text unreadable.
-/

namespace RevocationCheck.Text.Utf16

/-- The units of an octet string. -/
def units : Octets → List Nat
  | [] => []
  | [a] => [a.toNat]
  | a :: b :: rest => (256 * a.toNat + b.toNat) :: units rest

/-- The characters that units spell. -/
def ofUnits? : List Nat → Option (List Char)
  | [] => some []
  | [u] => if 0xD800 ≤ u ∧ u ≤ 0xDFFF then none else some [Char.ofNat u]
  | u :: v :: rest =>
    if 0xD800 ≤ u ∧ u ≤ 0xDBFF then
      if 0xDC00 ≤ v ∧ v ≤ 0xDFFF then
        (ofUnits? rest).map (Char.ofNat (0x10000 + 1024 * (u - 0xD800) + (v - 0xDC00)) :: ·)
      else none
    else if 0xDC00 ≤ u ∧ u ≤ 0xDFFF then none
    else (ofUnits? (v :: rest)).map (Char.ofNat u :: ·)

/-- The text of an octet string. -/
def decode? (bs : Octets) : Option String := (ofUnits? (units bs)).map String.ofList

end RevocationCheck.Text.Utf16
