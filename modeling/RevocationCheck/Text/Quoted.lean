import RevocationCheck.Text.PrintTable

/-!
# Quoted text

Text between double quotes, as messages show it.  Quotes and backslashes get a backslash in
front, and characters that have no shape of their own, or only extend the one in front, are
written by their codes.
-/

namespace RevocationCheck.Text.Quoted

/-- Is a character written by its code? -/
def isHidden (c : Char) : Bool :=
  if c.toNat < 0x80 then c.toNat < 0x20 || c.toNat = 0x7F
  else PrintTable.extending.contains c || PrintTable.shapeless.contains c

/-- A character as it stands between quotes. -/
def encodeChar (c : Char) : List Char :=
  if c = '"' then ['\\', '"']
  else if c = '\\' then ['\\', '\\']
  else if c = '\n' then ['\\', 'n']
  else if c = '\r' then ['\\', 'r']
  else if c = '\t' then ['\\', 't']
  else if c = '\x00' then ['\\', '0']
  else if isHidden c then ['\\', 'u', '\x7b'] ++ Nat.toDigits 16 c.toNat ++ ['\x7d']
  else [c]

/-- A text between quotes. -/
def encode (s : String) : String :=
  String.ofList ('"' :: s.toList.flatMap encodeChar ++ ['"'])

end RevocationCheck.Text.Quoted
