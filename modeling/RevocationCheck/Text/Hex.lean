import RevocationCheck.Octets

/-!
# Hexadecimal text

Two digits per octet, high half first.  Writing comes in both letter cases; reading accepts
either and refuses an odd number of digits.
-/

namespace RevocationCheck.Text.Hex

/-- The digit of a value below sixteen, in lower case. -/
def digit (n : Nat) : Char :=
  if n < 10 then Char.ofNat (48 + n) else Char.ofNat (87 + n)

/-- The value of a hexadecimal digit of either case. -/
def value? (c : Char) : Option Nat :=
  if '0' ≤ c ∧ c ≤ '9' then some (c.toNat - 48)
  else if 'a' ≤ c ∧ c ≤ 'f' then some (c.toNat - 87)
  else if 'A' ≤ c ∧ c ≤ 'F' then some (c.toNat - 55)
  else none

/-- The two digits of one octet. -/
def octetChars (b : UInt8) : List Char :=
  [digit (b.toNat / 16), digit (b.toNat % 16)]

/-- Lower-case digits of all octets. -/
def encodeChars : Octets → List Char
  | [] => []
  | b :: rest => octetChars b ++ encodeChars rest

/-- Read pairs of digits. -/
def decodeChars : List Char → Option Octets
  | [] => some []
  | [_] => none
  | a :: b :: rest =>
    match value? a, value? b, decodeChars rest with
    | some x, some y, some bs => some (UInt8.ofNat (16 * x + y) :: bs)
    | _, _, _ => none

/-- The lower-case text of an octet string. -/
def encode (bs : Octets) : String := String.ofList (encodeChars bs)

/-- The upper-case text of an octet string. -/
def encodeUpper (bs : Octets) : String := String.ofList ((encodeChars bs).map Char.toUpper)

/-- The octets that a text of digit pairs spells. -/
def decode? (s : String) : Option Octets := decodeChars s.toList

theorem value?_digit {n : Nat} (h : n < 16) : value? (digit n) = some n := by
  have all : ∀ m ∈ List.range 16, value? (digit m) = some m := by decide
  exact all n (List.mem_range.mpr h)

theorem decodeChars_encodeChars (bs : Octets) : decodeChars (encodeChars bs) = some bs := by
  induction bs with
  | nil => rfl
  | cons b rest ih =>
    have hb := b.toNat_lt
    have high : b.toNat / 16 < 16 := by omega
    have low : b.toNat % 16 < 16 := by omega
    simp only [encodeChars, octetChars, List.cons_append, List.nil_append, decodeChars,
      value?_digit high, value?_digit low, ih]
    rw [show 16 * (b.toNat / 16) + b.toNat % 16 = b.toNat by omega]
    simp

theorem decode?_encode (bs : Octets) : decode? (encode bs) = some bs := by
  simp [decode?, encode, decodeChars_encodeChars]

end RevocationCheck.Text.Hex
