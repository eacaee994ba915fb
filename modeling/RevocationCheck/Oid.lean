import RevocationCheck.Number.Word
import RevocationCheck.Octets
import RevocationCheck.Text.Hex

/-!
# Object identifiers

An identifier is kept as the octets that encode it, and two identifiers are the same when their
octets are.  Its text is the dotted form of the arcs; different octets may have the same text,
because an arc may be written with leading zero groups.
-/

namespace RevocationCheck

/-- An object identifier in its encoded form. -/
structure Oid where
  octets : Octets
deriving Repr, DecidableEq

namespace Oid

/-- The groups of seven bits of an arc, most significant first. -/
def arcOctets (arc : Nat) : Octets :=
  if arc < 128 then [UInt8.ofNat arc]
  else
    leading (arc / 128) ++ [UInt8.ofNat (arc % 128)]
where
  /-- The groups that others follow. -/
  leading (n : Nat) : Octets :=
    if _h : n = 0 then [] else leading (n / 128) ++ [UInt8.ofNat (128 + n % 128)]
  termination_by n
  decreasing_by omega

/-- The identifier with the given arcs; the first two share an octet. -/
def ofArcs : List Nat → Oid
  | a :: b :: rest => ⟨arcOctets (40 * a + b) ++ rest.flatMap arcOctets⟩
  | _ => ⟨[]⟩

/-- Split octets after each one that ends an arc; a last arc may lack its end. -/
def arcGroups : Octets → List Octets
  | [] => []
  | b :: rest =>
    if b.toNat < 128 then [b] :: arcGroups rest
    else
      match arcGroups rest with
      | [] => [[b]]
      | group :: others => (b :: group) :: others

/-- The value of an arc, kept modulo 2^64. -/
def arcValue (group : Octets) : Nat :=
  group.foldl (fun n b => (128 * n + b.toNat % 128) % Word.bound) 0

/-- Does an arc that ends need more than 64 bits? -/
def isWide (group : Octets) : Bool :=
  9 < group.length && group.getLast?.any fun b => b.toNat < 128

/-- The dotted text.  An identifier with an arc that needs more than 64 bits is written as its
octets instead. -/
def text (oid : Oid) : String :=
  match oid.octets with
  | [] => ""
  | [0] => "0"
  | first :: rest =>
    let groups := arcGroups rest
    if groups.any isWide then
      " ".intercalate (oid.octets.map fun b => Text.Hex.encode [b])
    else
      let arcs := first.toNat / 40 :: first.toNat % 40 :: groups.map arcValue
      ".".intercalate (arcs.map toString)

example : (ofArcs [2, 5, 4, 5]).octets = [0x55, 4, 5] := by decide
example : (ofArcs [1, 2, 840, 113549]).octets = [0x2A, 0x86, 0x48, 0x86, 0xF7, 0x0D] := by
  decide +kernel

end Oid

end RevocationCheck
