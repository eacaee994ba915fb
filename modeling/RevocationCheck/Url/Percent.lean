import RevocationCheck.Text.Hex
import RevocationCheck.Text.Utf8

/-!
# Percent encoding

An octet is written as a percent sign and two upper-case digits.  Each part of a URL has its own
set of ASCII characters that are written so; characters beyond ASCII always are.
-/

namespace RevocationCheck.Url.Percent

/-- The characters that are written with a percent sign wherever they stand. -/
def controls (c : Char) : Bool := c.toNat < 0x20 || c.toNat = 0x7F

/-- The characters encoded in a fragment. -/
def inFragment (c : Char) : Bool := controls c || [' ', '"', '<', '>', '\x60'].contains c

/-- The characters encoded in a path. -/
def inPath (c : Char) : Bool := inFragment c || ['#', '?', '\x7b', '\x7d'].contains c

/-- The characters encoded in a user name or password. -/
def inUserInfo (c : Char) : Bool :=
  inPath c || ['/', ':', ';', '=', '@', '[', '\\', ']', '^', '|'].contains c

/-- The characters encoded in a query. -/
def inQuery (c : Char) : Bool := controls c || [' ', '"', '#', '<', '>'].contains c

/-- The characters encoded in a query of a scheme with its own rules. -/
def inSpecialQuery (c : Char) : Bool := inQuery c || c = '\x27'

/-- One octet written with a percent sign. -/
def octetChars (b : UInt8) : List Char := '%' :: (Text.Hex.octetChars b).map Char.toUpper

/-- A character, encoded if it is in the set or beyond ASCII. -/
def encodeChar (set : Char → Bool) (c : Char) : List Char :=
  if set c || 0x7F < c.toNat then (Text.Utf8.encodeChar c).flatMap octetChars else [c]

/-- A text with the characters of a set encoded. -/
def encode (set : Char → Bool) (cs : List Char) : List Char := cs.flatMap (encodeChar set)

/-- The octets of a text in which each percent sign with two digits stands for one octet. -/
def decode : List Char → Octets
  | [] => []
  | '%' :: a :: b :: rest =>
    match Text.Hex.value? a, Text.Hex.value? b with
    | some x, some y => UInt8.ofNat (16 * x + y) :: decode rest
    | _, _ => Text.Utf8.encodeChar '%' ++ decode (a :: b :: rest)
  | c :: rest => Text.Utf8.encodeChar c ++ decode rest

end RevocationCheck.Url.Percent
