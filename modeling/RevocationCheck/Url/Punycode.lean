/-!
# Punycode

The encoding of Unicode labels in ASCII: the ASCII characters first, then the others as
generalised variable-length numbers in the order of their code points, with thresholds that
adapt to the size of the numbers seen so far.
-/

namespace RevocationCheck.Url.Punycode

/-- The character of a digit below thirty-six. -/
def digit (n : Nat) : Char := if n < 26 then Char.ofNat (97 + n) else Char.ofNat (22 + n)

/-- The value of a digit of either case. -/
def value? (c : Char) : Option Nat :=
  if 'a' ≤ c ∧ c ≤ 'z' then some (c.toNat - 97)
  else if 'A' ≤ c ∧ c ≤ 'Z' then some (c.toNat - 65)
  else if '0' ≤ c ∧ c ≤ '9' then some (c.toNat - 22)
  else none

/-- The threshold of a digit position. -/
def threshold (position bias : Nat) : Nat := min 26 (max 1 (position - bias))

/-- Reduce a delta until it fits, counting thirty-six for each step. -/
def reduce (delta steps : Nat) : Nat × Nat :=
  if _h : 455 < delta then reduce (delta / 35) (steps + 36) else (delta, steps)
termination_by delta
decreasing_by omega

/-- The bias after a delta. -/
def adapt (delta count : Nat) (first : Bool) : Nat :=
  let delta := if first then delta / 700 else delta / 2
  let (delta, steps) := reduce (delta + delta / count) 0
  steps + 36 * delta / (delta + 38)

/-- The digits of a number. -/
def number (bias position n : Nat) : List Char :=
  let t := threshold position bias
  if _h : n < t then [digit n]
  else digit (t + (n - t) % (36 - t)) :: number bias (position + 36) ((n - t) / (36 - t))
termination_by n
decreasing_by
  have ht : 1 ≤ threshold position bias := by unfold threshold; omega
  have := Nat.div_le_self (n - threshold position bias) (36 - threshold position bias)
  omega

/-- What the encoder keeps between characters. -/
structure Progress where
  output : List Char
  delta : Nat
  bias : Nat
  handled : Nat

/-- Account for one character of the input while characters with the code `code` are due. -/
def account (basic code : Nat) (p : Progress) (c : Char) : Progress :=
  if c.toNat < code then { p with delta := p.delta + 1 }
  else if c.toNat = code then
    ⟨p.output ++ number p.bias 36 p.delta, 0, adapt p.delta (p.handled + 1) (p.handled = basic),
      p.handled + 1⟩
  else p

/-- Encode the characters with the codes `codes`, which come in ascending order. -/
def encodeCodes (input : List Char) (basic : Nat) : (codes : List Nat) → (next : Nat) →
    Progress → Progress
  | [], _, p => p
  | code :: codes, next, p =>
    let p := { p with delta := p.delta + (code - next) * (p.handled + 1) }
    let p := input.foldl (account basic code) p
    encodeCodes input basic codes (code + 1) { p with delta := p.delta + 1 }

/-- Encode a label. -/
def encode (input : List Char) : List Char :=
  let basic := input.filter fun c => c.toNat < 128
  let codes := (((input.filter fun c => 128 ≤ c.toNat).map Char.toNat).mergeSort).eraseDups
  let front := if basic.isEmpty then [] else basic ++ ['-']
  front ++ (encodeCodes input basic.length codes 128 ⟨[], 0, 72, basic.length⟩).output

/-- Read a number: the digits' weight and what has been read so far go along. -/
def readNumber (bias position weight n : Nat) : List Char → Option (Nat × List Char)
  | [] => none
  | c :: rest =>
    match value? c with
    | none => none
    | some d =>
      let n := n + d * weight
      let t := threshold position bias
      if d < t then some (n, rest) else readNumber bias (position + 36) (weight * (36 - t)) n rest

theorem length_of_readNumber {bias position weight n m : Nat} {cs rest : List Char}
    (h : readNumber bias position weight n cs = some (m, rest)) : rest.length < cs.length := by
  induction cs generalizing position weight n with
  | nil => simp [readNumber] at h
  | cons c cs ih =>
    rw [readNumber] at h
    split at h
    · cases h
    · dsimp only at h
      split at h
      · cases h
        simp
      · have := ih h
        simp
        omega

/-- Insert characters as the numbers say. -/
def insertAll (bias code position : Nat) (output : List Char) (cs : List Char) :
    Option (List Char) :=
  if cs.isEmpty then some output
  else
    match h : readNumber bias 36 1 position cs with
    | none => none
    | some (next, rest) =>
      have := length_of_readNumber h
      let count := output.length + 1
      let code := code + next / count
      let index := next % count
      if code.isValidChar then
        insertAll (adapt (next - position) count (position = 0)) code (index + 1)
          (output.insertIdx index (Char.ofNat code)) rest
      else none
termination_by cs.length

/-- Split at the last hyphen. -/
def splitBasic (cs : List Char) : List Char × List Char :=
  match cs.reverse.dropWhile (· ≠ '-') with
  | [] => ([], cs)
  | _ :: front => (front.reverse, cs.drop (front.length + 1))

/-- Decode a label. -/
def decode? (cs : List Char) : Option (List Char) :=
  let (basic, numbers) := splitBasic cs
  if basic.all fun c => c.toNat < 128 then insertAll 72 128 0 basic numbers else none

end RevocationCheck.Url.Punycode
