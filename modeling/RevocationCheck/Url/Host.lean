import RevocationCheck.Url.Domain
import RevocationCheck.Url.Percent

/-!
# Hosts

A host is a domain name or an address.  In a scheme with its own rules a name that ends in a
number has to be an IPv4 address, whose parts may be decimal, octal or hexadecimal, and the last
part fills the octets that are left.  In other schemes a name is taken as it is.
-/

namespace RevocationCheck.Url

/-- A host. -/
inductive Host
  | domain (name : List Char)
  | ipv4 (address : Nat)
  | ipv6 (pieces : List Nat)
deriving Repr, DecidableEq

namespace Host

/-- The number that digits spell in a base; nothing when one of them is no digit of it. -/
def digits? (base : Nat) (cs : List Char) : Option Nat :=
  cs.foldl
    (fun n c =>
      match n, Text.Hex.value? c with
      | some n, some d => if d < base then some (base * n + d) else none
      | _, _ => none)
    (some 0)

/-- A part of an IPv4 address: octal with a leading zero, hexadecimal with `0x`, else decimal. -/
def ipv4Number? : List Char → Option Nat
  | [] => none
  | '0' :: 'x' :: rest => digits? 16 rest
  | '0' :: 'X' :: rest => digits? 16 rest
  | '0' :: rest => digits? 8 rest
  | cs => digits? 10 cs

/-- Is the last part of a name a number?  An empty part at the very end does not count. -/
def endsInNumber (name : List Char) : Bool :=
  let parts := (name.splitOn '.').reverse
  let last :=
    match parts with
    | [] :: next :: _ => some next
    | [[]] => none
    | last :: _ => some last
    | [] => none
  match last with
  | none => false
  | some last => (!last.isEmpty && last.all Char.isDigit) || (ipv4Number? last).isSome

/-- The address that parts spell: all but the last are octets, and the last fills what is left. -/
def combineParts (numbers : List Nat) : Option Nat :=
  match numbers.reverse with
  | [] => none
  | last :: others =>
    let room := Nat.pow 256 (4 - others.length)
    if last < room && others.all (· < 256) then
      some (others.foldr (fun n acc => 256 * acc + n) 0 * room + last)
    else none

/-- Read an IPv4 address. -/
def ipv4? (name : List Char) : Option Nat := do
  let parts := name.splitOn '.'
  let parts := if parts.getLast? = some [] then parts.dropLast else parts
  if 4 < parts.length then none
  else combineParts (← parts.mapM ipv4Number?)

/-- Up to `limit` hexadecimal digits, their value, and what follows. -/
def hexRun (limit value : Nat) : List Char → Nat × Nat × List Char
  | [] => (value, 0, [])
  | c :: rest =>
    match limit, Text.Hex.value? c with
    | limit + 1, some d =>
      let (value, count, rest) := hexRun limit (16 * value + d) rest
      (value, count + 1, rest)
    | _, _ => (value, 0, c :: rest)

/-- An octet in decimal without leading zeros. -/
def decimalOctet? (cs : List Char) : Option Nat :=
  match cs with
  | [] => none
  | ['0'] => some 0
  | '0' :: _ => none
  | _ => (digits? 10 cs).filter (· < 256)

/-- Four decimal octets, as two pieces. -/
def embeddedIpv4? (cs : List Char) : Option (List Nat) :=
  match (cs.splitOn '.').mapM decimalOctet? with
  | some [a, b, c, d] => some [256 * a + b, 256 * c + d]
  | _ => none

/-- The pieces in front of and behind a double colon; nothing behind means there was none. -/
structure Pieces where
  front : List Nat
  back : Option (List Nat)

/-- Add a piece at the end. -/
def Pieces.push (p : Pieces) (piece : Nat) : Pieces :=
  match p.back with
  | none => ⟨p.front ++ [piece], none⟩
  | some back => ⟨p.front, some (back ++ [piece])⟩

/-- The number of pieces. -/
def Pieces.size (p : Pieces) : Nat := p.front.length + (p.back.getD []).length

/-- Read pieces; at the beginning of each, at most `fuel` can still come. -/
def readPieces (fuel : Nat) (p : Pieces) (cs : List Char) : Option Pieces :=
  match fuel with
  | 0 => none
  | fuel + 1 =>
    match cs with
    | [] => some p
    | ':' :: rest =>
      if p.back.isSome then none else readPieces fuel ⟨p.front, some []⟩ rest
    | _ =>
      let (value, count, rest) := hexRun 4 0 cs
      match rest with
      | '.' :: _ =>
        if count = 0 then none
        else (embeddedIpv4? cs).map fun pieces => pieces.foldl Pieces.push p
      | ':' :: rest =>
        if rest.isEmpty || count = 0 then none else readPieces fuel (p.push value) rest
      | [] => some (p.push value)
      | _ => none

/-- Read an IPv6 address. -/
def ipv6? (cs : List Char) : Option (List Nat) := do
  let start : Option (Pieces × List Char) :=
    match cs with
    | ':' :: ':' :: rest => some (⟨[], some []⟩, rest)
    | ':' :: _ => none
    | _ => some (⟨[], none⟩, cs)
  let (p, cs) ← start
  let p ← readPieces 12 p cs
  match p.back with
  | none => if p.size = 8 then some p.front else none
  | some back =>
    if p.size ≤ 7 then some (p.front ++ List.replicate (8 - p.size) 0 ++ back) else none

/-- The ASCII characters that a host of another scheme may not have. -/
def isForbiddenOutside (c : Char) : Bool :=
  ['\x00', '\t', '\n', '\r', ' ', '#', '/', ':', '<', '>', '?', '@', '[', '\\', ']', '^',
    '|'].contains c

/-- Read what stands in brackets. -/
def ofBrackets (cs : List Char) : Except Fault Host :=
  match cs.reverse with
  | ']' :: inner =>
    match ipv6? inner.reverse with
    | none => .error .invalidIpv6
    | some pieces => .ok (.ipv6 pieces)
  | _ => .error .invalidIpv6

/-- Read a host of a scheme with its own rules. -/
def ofSpecial (cs : List Char) : Except Fault Host :=
  match cs with
  | '[' :: rest => ofBrackets rest
  | _ => do
    let name ← Domain.toAscii (Percent.decode cs)
    if name.isEmpty then .error .emptyHost
    else if endsInNumber name then
      match ipv4? name with
      | none => .error .invalidIpv4
      | some address => .ok (.ipv4 address)
    else .ok (.domain name)

/-- Read a host of another scheme. -/
def ofOther (cs : List Char) : Except Fault Host :=
  match cs with
  | '[' :: rest => ofBrackets rest
  | _ =>
    if cs.any isForbiddenOutside then .error .invalidDomainCharacter
    else .ok (.domain (Percent.encode Percent.controls cs))

/-- The first longest run of at least two zero pieces: where it begins and how long it is. -/
def zeroRun (pieces : List Nat) : Option (Nat × Nat) :=
  let runs := (List.range pieces.length).map fun i =>
    (i, ((pieces.drop i).takeWhile (· = 0)).length)
  runs.foldl
    (fun best run =>
      match best with
      | none => if 2 ≤ run.2 then some run else none
      | some b => if b.2 < run.2 then some run else some b)
    none

/-- A piece in hexadecimal without leading zeros. -/
def pieceText (n : Nat) : List Char := Nat.toDigits 16 n

/-- Pieces joined by colons. -/
def piecesText (pieces : List Nat) : List Char := [':'].intercalate (pieces.map pieceText)

/-- An IPv4 address as four decimal octets. -/
def ipv4Text (address : Nat) : List Char :=
  ['.'].intercalate
    ([address / 16777216 % 256, address / 65536 % 256, address / 256 % 256, address % 256].map
      (Nat.toDigits 10))

/-- The text of a host.  The longest run of zero pieces of an address is left out. -/
def text : Host → List Char
  | domain name => name
  | ipv4 address => ipv4Text address
  | ipv6 pieces =>
    match zeroRun pieces with
    | none => ['['] ++ piecesText pieces ++ [']']
    | some (start, length) =>
      ['['] ++ piecesText (pieces.take start) ++ "::".toList ++
        piecesText (pieces.drop (start + length)) ++ [']']

end Host

end RevocationCheck.Url
