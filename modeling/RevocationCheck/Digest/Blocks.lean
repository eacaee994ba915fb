import RevocationCheck.Octets

/-!
# Messages cut into blocks

Every digest of this library fills a message up in the same way: one octet 0x80, as many zeros
as needed, and the length of the message in bits, so that whole blocks result.
-/

namespace RevocationCheck.Digest

/-- The octets that fill a message of `length` octets up to whole blocks, of which the last
`lengthWidth` octets of the last one hold the length in bits. -/
def filling (blockSize lengthWidth length : Nat) : Octets :=
  let used := (length + 1 + lengthWidth) % blockSize
  let zeros := if used = 0 then 0 else blockSize - used
  0x80 :: List.replicate zeros 0 ++ Octets.ofNat lengthWidth (8 * length)

/-- Pieces of `size` items; a shorter piece at the end is dropped. -/
def pieces {α : Type} (size : Nat) (xs : List α) : List (List α) :=
  if _h : 0 < size ∧ size ≤ xs.length then xs.take size :: pieces size (xs.drop size) else []
termination_by xs.length
decreasing_by simp; omega

/-- The words that an octet string spells, each of `width` octets. -/
def words (width : Nat) (bs : Octets) : List Nat := (pieces width bs).map Octets.toNat

end RevocationCheck.Digest
