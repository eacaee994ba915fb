import RevocationCheck.Digest.Blocks

/-!
# SHA-1

The 160-bit digest of FIPS 180.  Each round uses the oldest of sixteen schedule words and puts
a new one behind them.
-/

namespace RevocationCheck.Digest.Sha1

/-- The chaining value. -/
structure State where
  a : UInt32
  b : UInt32
  c : UInt32
  d : UInt32
  e : UInt32

/-- Rotation to the left. -/
def rotl (x : UInt32) (n : UInt32) : UInt32 := (x <<< n) ||| (x >>> (32 - n))

/-- The chaining value before the first block. -/
def initial : State := ⟨0x67452301, 0xEFCDAB89, 0x98BADCFE, 0x10325476, 0xC3D2E1F0⟩

/-- The mixing function and constant of a round. -/
def mix (t : Nat) (b c d : UInt32) : UInt32 :=
  if t < 20 then ((b &&& c) ||| (~~~b &&& d)) + 0x5A827999
  else if t < 40 then (b ^^^ c ^^^ d) + 0x6ED9EBA1
  else if t < 60 then ((b &&& c) ||| (b &&& d) ||| (c &&& d)) + 0x8F1BBCDC
  else (b ^^^ c ^^^ d) + 0xCA62C1D6

/-- One round with the schedule word `w`. -/
def step (t : Nat) (w : UInt32) (s : State) : State :=
  ⟨rotl s.a 5 + mix t s.b s.c s.d + s.e + w, s.a, rotl s.b 30, s.c, s.d⟩

/-- The word that follows sixteen schedule words. -/
def nextWord (window : List UInt32) : UInt32 :=
  rotl (window.getD 13 0 ^^^ window.getD 8 0 ^^^ window.getD 2 0 ^^^ window.getD 0 0) 1

/-- The rounds numbered `ts`, with the sixteen schedule words that come next. -/
def rounds : List Nat → List UInt32 → State → State
  | [], _, s => s
  | t :: ts, window, s =>
    rounds ts (window.drop 1 ++ [nextWord window]) (step t (window.headD 0) s)

/-- Work one block into the chaining value. -/
def compress (s : State) (block : List UInt32) : State :=
  let r := rounds (List.range 80) block s
  ⟨s.a + r.a, s.b + r.b, s.c + r.c, s.d + r.d, s.e + r.e⟩

/-- The digest of a message. -/
def digest (message : Octets) : Octets :=
  let ws := (words 4 (message ++ filling 64 8 message.length)).map UInt32.ofNat
  let s := (pieces 16 ws).foldl compress initial
  [s.a, s.b, s.c, s.d, s.e].flatMap fun w => Octets.ofNat 4 w.toNat

end RevocationCheck.Digest.Sha1
