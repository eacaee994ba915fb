/-!
# Decimal digits

The number that a run of decimal digits spells.
-/

namespace RevocationCheck.Digits

/-- The number that a digit stands for. -/
def ofChar (c : Char) : Nat := c.toNat - 48

/-- The number that digits spell; no digits spell zero. -/
def value (cs : List Char) : Nat := cs.foldl (fun n c => 10 * n + ofChar c) 0

example : value "0042".toList = 42 := by decide

end RevocationCheck.Digits
