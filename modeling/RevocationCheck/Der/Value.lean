import RevocationCheck.Der.Element

/-!
# Values inside elements

Unsigned numbers, truth values and bit strings.  The tag numbers of the universal types that
certificates and revocation lists are made of stand here, too.

Two ways to read a number are needed.  A version number is a minimal non-negative number below
2^32.  A serial number is any content under an INTEGER tag, even one with an indefinite length,
because serial numbers in the field do not keep to the encoding rules.
-/

namespace RevocationCheck.Der

/-- Tag numbers of universal types. -/
def tagBoolean : Nat := 1
def tagInteger : Nat := 2
def tagBitString : Nat := 3
def tagOctetString : Nat := 4
def tagSequence : Nat := 16
def tagSet : Nat := 17
def tagUtcTime : Nat := 23
def tagGeneralizedTime : Nat := 24

/-- Is the content of an INTEGER written with the fewest octets? -/
def isMinimalInteger : Octets → Bool
  | [] => false
  | [_] => true
  | a :: b :: _ =>
    !(a.toNat = 0 && b.toNat < 128) && !(a.toNat = 255 && 128 ≤ b.toNat)

/-- Is the content of an INTEGER a number below zero? -/
def isNegativeInteger : Octets → Bool
  | [] => false
  | a :: _ => 128 ≤ a.toNat

/-- The value of a minimal non-negative INTEGER below 2^32. -/
def unsigned32? (element : Element) : Option Nat :=
  if element.tag = tagInteger ∧ element.constructed = false ∧
      isMinimalInteger element.content ∧ ¬ isNegativeInteger element.content then
    let n := Octets.toNat element.content
    if n < Nat.pow 2 32 then some n else none
  else none

/-- A bit string: its octets, and how many bits of the last one do not count. -/
structure BitString where
  unused : Nat
  octets : Octets
deriving Repr, DecidableEq

/-- The number of zero bits at the low end of an octet. -/
def trailingZeros (b : UInt8) : Nat :=
  if b.toNat = 0 then 8
  else if b.toNat % 128 = 0 then 7
  else if b.toNat % 64 = 0 then 6
  else if b.toNat % 32 = 0 then 5
  else if b.toNat % 16 = 0 then 4
  else if b.toNat % 8 = 0 then 3
  else if b.toNat % 4 = 0 then 2
  else if b.toNat % 2 = 0 then 1
  else 0

/-- The bit string that a content spells: the count of unused bits comes first, and unused
bits are zero. -/
def BitString.ofContent? : Octets → Option BitString
  | [] => none
  | unused :: octets =>
    match octets.getLast? with
    | none => if unused.toNat = 0 then some ⟨0, []⟩ else none
    | some last =>
      if unused.toNat ≤ trailingZeros last then some ⟨unused.toNat, octets⟩ else none

/-- Read a primitive BIT STRING. -/
def BitString.read (bs : Octets) : Except Fault (BitString × Octets) := do
  let (element, rest) ← Element.read bs
  if element.tag = tagBitString ∧ element.constructed = false then
    match BitString.ofContent? element.content with
    | none => .error .badValue
    | some bits => .ok (bits, rest)
  else .error .unexpectedTag

/-- Skip one element of which `header` has been read; the result says whether it was the mark
that ends an indefinite length.  At most `depth` elements may be open at a time. -/
def skipContent (depth : Nat) (header : Header) (bs : Octets) : Except Fault (Bool × Octets) :=
  match depth with
  | 0 => .error .badLength
  | depth + 1 =>
    match header.length with
    | some n =>
      if n = 0 ∧ header.tag = 0 then .ok (true, bs)
      else (readContent n bs).map fun (_, rest) => (false, rest)
    | none =>
      if header.constructed then skipUntilEnd depth bs.length bs
      else .error .badLength
where
  /-- Skip elements up to and including the end mark. -/
  skipUntilEnd (depth : Nat) : Nat → Octets → Except Fault (Bool × Octets)
    | 0, _ => .error .truncated
    | fuel + 1, bs => do
      let (header, rest) ← Header.read bs
      let (isEnd, rest) ← skipContent depth header rest
      if isEnd then .ok (false, rest) else skipUntilEnd depth fuel rest

/-- Read the content octets of a serial number: any element with the INTEGER tag number.  An
indefinite length is allowed on a constructed one, whose end mark is not part of the content. -/
def readSerial (bs : Octets) : Except Fault (Octets × Octets) := do
  let (header, body) ← Header.read bs
  if header.length = none ∧ header.constructed = false then .error .badLength
  else
    let (_, rest) ← skipContent 50 header body
    if header.tag = tagInteger then
      let content := body.take (body.length - rest.length)
      match header.length with
      | some _ => .ok (content, rest)
      | none => .ok (content.take (content.length - 2), rest)
    else .error .unexpectedTag

end RevocationCheck.Der
