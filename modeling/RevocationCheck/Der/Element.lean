import RevocationCheck.Number.Word
import RevocationCheck.Octets

/-!
# Tagged elements

An element is a tag, a length and that many content octets.  Tags may have the long form; a
length may be written with more octets than it needs, but it has to be definite.

Every reader takes the octets that are left and gives back what it read together with the
octets behind it.  A reader that runs out of input reports `Fault.truncated`, so that a caller
can tell a short input from a wrong one.
-/

namespace RevocationCheck.Der

/-- Why an element could not be read. -/
inductive Fault
  /-- The input ends inside the element. -/
  | truncated
  /-- A long-form tag number does not end. -/
  | badTag
  /-- A length is indefinite, reserved, or does not fit in eight octets. -/
  | badLength
  /-- An element with another tag was expected. -/
  | unexpectedTag
  /-- The content is no value of the expected kind. -/
  | badValue
deriving Repr, DecidableEq

/-- The namespace of a tag number. -/
inductive TagClass
  | universal
  | application
  | contextSpecific
  | privateUse
deriving Repr, DecidableEq

/-- What stands in front of the content; no length means the indefinite form. -/
structure Header where
  tagClass : TagClass
  constructed : Bool
  tag : Nat
  length : Option Nat
deriving Repr, DecidableEq

/-- A complete element. -/
structure Element where
  tagClass : TagClass
  constructed : Bool
  tag : Nat
  content : Octets
deriving Repr, DecidableEq

/-- The class in the two high bits of an identifier octet. -/
def TagClass.ofOctet (b : UInt8) : TagClass :=
  match b.toNat / 64 with
  | 0 => .universal
  | 1 => .application
  | 2 => .contextSpecific
  | _ => .privateUse

/-- Read on in a long-form tag number of which `acc` is known and at most `limit` octets may
follow.  The number is kept modulo 2^32. -/
def readLongTag (acc : Nat) : (limit : Nat) → Octets → Except Fault (Nat × Octets)
  | 0, _ => .error .badTag
  | _ + 1, [] => .error .badTag
  | limit + 1, b :: rest =>
    let acc := (128 * acc + b.toNat % 128) % Nat.pow 2 32
    if b.toNat < 128 then .ok (acc, rest) else readLongTag acc limit rest

/-- Read a length; none is the indefinite form. -/
def readLength : Octets → Except Fault (Option Nat × Octets)
  | [] => .error .truncated
  | b :: rest =>
    let n := b.toNat
    if n < 128 then .ok (some n, rest)
    else if n = 128 then .ok (none, rest)
    else if n = 255 then .error .badLength
    else
      match Octets.split? (n - 128) rest with
      | none => .error .truncated
      | some (digits, rest) =>
        let length := Octets.toNat digits
        if length < Word.bound then .ok (some length, rest) else .error .badLength

/-- Read a header of either length form. -/
def Header.read : Octets → Except Fault (Header × Octets)
  | [] => .error .truncated
  | b :: rest => do
    let (tag, rest) ←
      if b.toNat % 32 = 31 then readLongTag 0 5 rest else .ok (b.toNat % 32, rest)
    let (length, rest) ← readLength rest
    .ok (⟨TagClass.ofOctet b, b.toNat / 32 % 2 = 1, tag, length⟩, rest)

/-- Read a header with a definite length, and give the length beside it. -/
def Header.readDefinite (bs : Octets) : Except Fault (Header × Nat × Octets) := do
  let (header, rest) ← Header.read bs
  match header.length with
  | none => .error .badLength
  | some n => .ok (header, n, rest)

/-- Split off the content of an element. -/
def readContent (n : Nat) (bs : Octets) : Except Fault (Octets × Octets) :=
  match Octets.split? n bs with
  | none => .error .truncated
  | some parts => .ok parts

/-- Read one element of any kind. -/
def Element.read (bs : Octets) : Except Fault (Element × Octets) := do
  let (header, n, rest) ← Header.readDefinite bs
  let (content, rest) ← readContent n rest
  .ok (⟨header.tagClass, header.constructed, header.tag, content⟩, rest)

/-- Read the content of one element with the given tag number, whatever its class and form. -/
def readTagged (tag : Nat) (bs : Octets) : Except Fault (Octets × Octets) := do
  let (header, n, rest) ← Header.readDefinite bs
  if header.tag = tag then readContent n rest else .error .unexpectedTag

/-- Read as many items as can be read, and give the octets at which reading stopped. -/
def readMany {α ε : Type} (item : Octets → Except ε (α × Octets)) (bs : Octets) :
    List α × Octets :=
  match item bs with
  | .error _ => ([], bs)
  | .ok (a, rest) =>
    if _h : rest.length < bs.length then
      let (others, final) := readMany item rest
      (a :: others, final)
    else ([], bs)
termination_by bs.length

/-- Read items until nothing is left; octets that are no item spoil all of it. -/
def readAll? {α ε : Type} (item : Octets → Except ε (α × Octets)) (bs : Octets) :
    Option (List α) :=
  match readMany item bs with
  | (items, []) => some items
  | (_, _ :: _) => none

end RevocationCheck.Der
