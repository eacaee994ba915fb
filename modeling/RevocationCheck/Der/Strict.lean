import RevocationCheck.Der.Element

/-!
# Distinguished encodings

The reader for keys and signature values: one identifier octet that has to be the expected one,
the shortest possible length of at most two octets, numbers above zero without padding, and
nothing left over.
-/

namespace RevocationCheck.Der.Strict

/-- Read a length in its shortest form. -/
def readLength : Octets → Option (Nat × Octets)
  | [] => none
  | a :: rest =>
    if a.toNat < 128 then some (a.toNat, rest)
    else if a = 0x81 then
      match rest with
      | b :: rest => if 128 ≤ b.toNat then some (b.toNat, rest) else none
      | [] => none
    else if a = 0x82 then
      match rest with
      | b :: c :: rest =>
        let n := 256 * b.toNat + c.toNat
        if 256 ≤ n then some (n, rest) else none
      | _ => none
    else none

/-- Read the content of an element with the identifier octet `id`. -/
def readElement (id : UInt8) : Octets → Option (Octets × Octets)
  | [] => none
  | a :: rest =>
    if a = id then (readLength rest).bind fun parts => Octets.split? parts.1 parts.2 else none

/-- Read a number above zero without padding. -/
def readPositive (bs : Octets) : Option (Nat × Octets) := do
  let (content, rest) ← readElement 0x02 bs
  match content with
  | [] => none
  | [a] => if a = 0 ∨ 128 ≤ a.toNat then none else some (a.toNat, rest)
  | a :: b :: more =>
    if 128 ≤ a.toNat ∨ (a = 0 ∧ b.toNat < 128) then none
    else some (Octets.toNat (a :: b :: more), rest)

/-- A sequence of exactly two numbers above zero, and nothing behind it. -/
def positivePair? (bs : Octets) : Option (Nat × Nat) := do
  let (content, rest) ← readElement 0x30 bs
  let (a, content) ← readPositive content
  let (b, content) ← readPositive content
  if content.isEmpty ∧ rest.isEmpty then some (a, b) else none

example : positivePair? [0x30, 6, 2, 1, 5, 2, 1, 7] = some (5, 7) := by decide
example : positivePair? [0x30, 7, 2, 2, 0, 5, 2, 1, 7] = none := by decide

end RevocationCheck.Der.Strict
