import RevocationCheck.Octets

/-!
# UTF-8

The strict reading of UTF-8: no surrogates, no overlong forms, nothing above U+10FFFF.  The
smallest allowed second octet depends on the lead octet, which is how the overlong forms and
surrogates are excluded.
-/

namespace RevocationCheck.Text.Utf8

/-- How a lead octet starts a character: the bits it contributes, the number of further
octets, and the range of the first of them. -/
structure Lead where
  bits : Nat
  more : Nat
  low : Nat
  high : Nat

/-- The well-formed lead octets. -/
def lead? (b : UInt8) : Option Lead :=
  let n := b.toNat
  if n < 0x80 then some ⟨n, 0, 0x80, 0xBF⟩
  else if n < 0xC2 then none
  else if n < 0xE0 then some ⟨n - 0xC0, 1, 0x80, 0xBF⟩
  else if n < 0xF0 then
    some ⟨n - 0xE0, 2, if n = 0xE0 then 0xA0 else 0x80, if n = 0xED then 0x9F else 0xBF⟩
  else if n < 0xF5 then
    some ⟨n - 0xF0, 3, if n = 0xF0 then 0x90 else 0x80, if n = 0xF4 then 0x8F else 0xBF⟩
  else none

/-- Read on inside a character of which `bits` are known, `more` octets are missing, and the
next must lie between `low` and `high`; at a character's end start the next one. -/
def decodeFrom (bits more low high : Nat) : Octets → Option (List Char)
  | [] => if more = 0 then some [] else none
  | b :: rest =>
    if more = 0 then
      match lead? b with
      | none => none
      | some l =>
        if l.more = 0 then (decodeFrom 0 0 0x80 0xBF rest).map (Char.ofNat l.bits :: ·)
        else decodeFrom l.bits l.more l.low l.high rest
    else if low ≤ b.toNat ∧ b.toNat ≤ high then
      let bits := 64 * bits + (b.toNat - 0x80)
      if more = 1 then (decodeFrom 0 0 0x80 0xBF rest).map (Char.ofNat bits :: ·)
      else decodeFrom bits (more - 1) 0x80 0xBF rest
    else none

/-- The characters of a well-formed octet string. -/
def decodeChars (bs : Octets) : Option (List Char) := decodeFrom 0 0 0x80 0xBF bs

/-- The text of a well-formed octet string. -/
def decode? (bs : Octets) : Option String := (decodeChars bs).map String.ofList

/-- How many octets in front belong together: a character, or the beginning of one that breaks
off. -/
def runLength : Octets → Nat
  | [] => 0
  | b :: rest =>
    match lead? b with
    | none => 1
    | some l =>
      if l.more = 0 then 1
      else
        match rest with
        | [] => 1
        | c :: rest =>
          if l.low ≤ c.toNat ∧ c.toNat ≤ l.high then
            2 + ((rest.take (l.more - 1)).takeWhile fun d => 0x80 ≤ d.toNat ∧ d.toNat ≤ 0xBF).length
          else 1

/-- The characters of an octet string, where U+FFFD stands for each piece that is ill-formed. -/
def decodeLossy (bs : Octets) : List Char :=
  if _h : bs = [] then []
  else
    let n := max 1 (runLength bs)
    ((decodeChars (bs.take n)).getD [Char.ofNat 0xFFFD]) ++ decodeLossy (bs.drop n)
termination_by bs.length
decreasing_by
  have := List.length_pos_iff.mpr _h
  simp
  omega

/-- A text without the mark U+FEFF that may stand in front of it. -/
def withoutMark : Octets → Octets
  | 0xEF :: 0xBB :: 0xBF :: rest => rest
  | bs => bs

/-- The octets of one character. -/
def encodeChar (c : Char) : Octets :=
  let n := c.toNat
  if n < 0x80 then [UInt8.ofNat n]
  else if n < 0x800 then [UInt8.ofNat (0xC0 + n / 64), UInt8.ofNat (0x80 + n % 64)]
  else if n < 0x10000 then
    [UInt8.ofNat (0xE0 + n / 4096), UInt8.ofNat (0x80 + n / 64 % 64), UInt8.ofNat (0x80 + n % 64)]
  else
    [UInt8.ofNat (0xF0 + n / 262144), UInt8.ofNat (0x80 + n / 4096 % 64),
      UInt8.ofNat (0x80 + n / 64 % 64), UInt8.ofNat (0x80 + n % 64)]

/-- The octets of a list of characters. -/
def encodeChars (cs : List Char) : Octets := cs.flatMap encodeChar

/-- The octets of a text. -/
def encode (s : String) : Octets := encodeChars s.toList

/-! ### Reading back -/

theorem lead?_one {n : Nat} (h : n < 0x80) :
    lead? (UInt8.ofNat n) = some ⟨n, 0, 0x80, 0xBF⟩ := by
  have hn : (UInt8.ofNat n).toNat = n := by
    rw [UInt8.toNat_ofNat']
    omega
  simp [lead?, hn, h]

theorem lead?_two {q : Nat} (hlow : 2 ≤ q) (hhigh : q < 32) :
    lead? (UInt8.ofNat (0xC0 + q)) = some ⟨q, 1, 0x80, 0xBF⟩ := by
  have hn : (UInt8.ofNat (0xC0 + q)).toNat = 0xC0 + q := by
    rw [UInt8.toNat_ofNat']
    omega
  simp only [lead?, hn]
  rw [if_neg (by omega), if_neg (by omega), if_pos (by omega), Nat.add_sub_cancel_left]

theorem lead?_three {q : Nat} (hhigh : q < 16) :
    lead? (UInt8.ofNat (0xE0 + q)) =
      some ⟨q, 2, if q = 0 then 0xA0 else 0x80, if q = 13 then 0x9F else 0xBF⟩ := by
  have hn : (UInt8.ofNat (0xE0 + q)).toNat = 0xE0 + q := by
    rw [UInt8.toNat_ofNat']
    omega
  simp only [lead?, hn]
  rw [if_neg (by omega), if_neg (by omega), if_neg (by omega), if_pos (by omega),
    Nat.add_sub_cancel_left]
  simp only [show (0xE0 + q = 0xE0) = (q = 0) by simp, show (0xE0 + q = 0xED) = (q = 13) by
    simp only [eq_iff_iff]; omega]

theorem lead?_four {q : Nat} (hhigh : q < 5) :
    lead? (UInt8.ofNat (0xF0 + q)) =
      some ⟨q, 3, if q = 0 then 0x90 else 0x80, if q = 4 then 0x8F else 0xBF⟩ := by
  have hn : (UInt8.ofNat (0xF0 + q)).toNat = 0xF0 + q := by
    rw [UInt8.toNat_ofNat']
    omega
  simp only [lead?, hn]
  rw [if_neg (by omega), if_neg (by omega), if_neg (by omega), if_neg (by omega),
    if_pos (by omega), Nat.add_sub_cancel_left]
  simp only [show (0xF0 + q = 0xF0) = (q = 0) by simp, show (0xF0 + q = 0xF4) = (q = 4) by
    simp only [eq_iff_iff]; omega]

/-- A further octet of a character, which is not the last one. -/
theorem decodeFrom_more {bits more low high r : Nat} (hlow : low ≤ 0x80 + r)
    (hhigh : 0x80 + r ≤ high) (hr : r < 64) (rest : Octets) :
    decodeFrom bits (more + 2) low high (UInt8.ofNat (0x80 + r) :: rest) =
      decodeFrom (64 * bits + r) (more + 1) 0x80 0xBF rest := by
  have hn : (UInt8.ofNat (0x80 + r)).toNat = 0x80 + r := by
    rw [UInt8.toNat_ofNat']
    omega
  rw [decodeFrom, if_neg (by omega), hn, if_pos ⟨hlow, hhigh⟩]
  simp

/-- The last octet of a character. -/
theorem decodeFrom_last {bits low high r : Nat} (hlow : low ≤ 0x80 + r)
    (hhigh : 0x80 + r ≤ high) (hr : r < 64) (rest : Octets) :
    decodeFrom bits 1 low high (UInt8.ofNat (0x80 + r) :: rest) =
      (decodeChars rest).map (Char.ofNat (64 * bits + r) :: ·) := by
  have hn : (UInt8.ofNat (0x80 + r)).toNat = 0x80 + r := by
    rw [UInt8.toNat_ofNat']
    omega
  rw [decodeFrom, if_neg (by omega), hn, if_pos ⟨hlow, hhigh⟩]
  simp [decodeChars]

theorem decodeChars_cons_one {b : UInt8} {bits low high : Nat}
    (h : lead? b = some ⟨bits, 0, low, high⟩) (rest : Octets) :
    decodeChars (b :: rest) = (decodeChars rest).map (Char.ofNat bits :: ·) := by
  rw [decodeChars, decodeFrom, if_pos rfl, h]
  simp [decodeChars]

theorem decodeChars_cons_more {b : UInt8} {bits more low high : Nat}
    (h : lead? b = some ⟨bits, more + 1, low, high⟩) (rest : Octets) :
    decodeChars (b :: rest) = decodeFrom bits (more + 1) low high rest := by
  rw [decodeChars, decodeFrom, if_pos rfl, h]
  simp

/-- A character is read from its octets, whatever follows. -/
theorem decodeChars_encodeChar_append (c : Char) (rest : Octets) :
    decodeChars (encodeChar c ++ rest) = (decodeChars rest).map (c :: ·) := by
  have hchar : Char.ofNat c.toNat = c := Char.ofNat_toNat c
  have hvalid : c.toNat < 0xD800 ∨ 0xDFFF < c.toNat ∧ c.toNat < 0x110000 := c.valid
  unfold encodeChar
  generalize c.toNat = n at hchar hvalid
  dsimp only
  split
  case isTrue h => rw [List.singleton_append, decodeChars_cons_one (lead?_one h), hchar]
  case isFalse h1 =>
    split
    case isTrue h =>
      simp only [List.cons_append, List.nil_append]
      rw [decodeChars_cons_more (lead?_two (by omega) (by omega)),
        decodeFrom_last (by omega) (by omega) (by omega), Nat.div_add_mod, hchar]
    case isFalse h2 =>
      split
      case isTrue h =>
        -- The range of the second octet leaves out overlong forms and surrogates.
        have hlow : (if n / 4096 = 0 then 0xA0 else 0x80) ≤ 0x80 + n / 64 % 64 := by split <;> omega
        have hhigh : 0x80 + n / 64 % 64 ≤ (if n / 4096 = 13 then 0x9F else 0xBF) := by
          split <;> omega
        simp only [List.cons_append, List.nil_append]
        rw [decodeChars_cons_more (lead?_three (by omega)), decodeFrom_more hlow hhigh (by omega),
          decodeFrom_last (by omega) (by omega) (by omega),
          show 64 * (64 * (n / 4096) + n / 64 % 64) + n % 64 = n by omega, hchar]
      case isFalse h3 =>
        have hlow : (if n / 262144 = 0 then 0x90 else 0x80) ≤ 0x80 + n / 4096 % 64 := by
          split <;> omega
        have hhigh : 0x80 + n / 4096 % 64 ≤ (if n / 262144 = 4 then 0x8F else 0xBF) := by
          split <;> omega
        simp only [List.cons_append, List.nil_append]
        rw [decodeChars_cons_more (lead?_four (by omega)), decodeFrom_more hlow hhigh (by omega),
          decodeFrom_more (by omega) (by omega) (by omega),
          decodeFrom_last (by omega) (by omega) (by omega),
          show 64 * (64 * (64 * (n / 262144) + n / 4096 % 64) + n / 64 % 64) + n % 64 = n by omega,
          hchar]

/-- What is written is read again. -/
theorem decodeChars_encodeChars (cs : List Char) : decodeChars (encodeChars cs) = some cs := by
  induction cs with
  | nil => rfl
  | cons c rest ih =>
    rw [encodeChars, List.flatMap_cons, decodeChars_encodeChar_append]
    exact congrArg (Option.map (c :: ·)) ih

/-- The octets of a character that takes more than one are none of those that stand for
themselves. -/
theorem le_of_mem_encodeChar {c : Char} (h : 0x80 ≤ c.toNat) {b : UInt8}
    (hb : b ∈ encodeChar c) : 0x80 ≤ b.toNat := by
  have hvalid : c.toNat < 0xD800 ∨ 0xDFFF < c.toNat ∧ c.toNat < 0x110000 := c.valid
  unfold encodeChar at hb
  generalize c.toNat = n at h hb hvalid
  dsimp only at hb
  rw [if_neg (by omega)] at hb
  split at hb
  · simp only [List.mem_cons, List.not_mem_nil, or_false] at hb
    rcases hb with rfl | rfl <;> rw [UInt8.toNat_ofNat'] <;> omega
  · split at hb
    · simp only [List.mem_cons, List.not_mem_nil, or_false] at hb
      rcases hb with rfl | rfl | rfl <;> rw [UInt8.toNat_ofNat'] <;> omega
    · simp only [List.mem_cons, List.not_mem_nil, or_false] at hb
      rcases hb with rfl | rfl | rfl | rfl <;> rw [UInt8.toNat_ofNat'] <;> omega

/-- A line feed is written for nothing but itself. -/
theorem feed_notMem_encodeChars {cs : List Char} (h : '\n' ∉ cs) : 10 ∉ encodeChars cs := by
  intro hmem
  obtain ⟨c, hc, hb⟩ := List.mem_flatMap.mp hmem
  rcases Nat.lt_or_ge c.toNat 0x80 with hone | hmore
  · simp only [encodeChar, if_pos hone, List.mem_singleton] at hb
    have hn : c.toNat = 10 := by
      have htoNat : (10 : UInt8).toNat = (UInt8.ofNat c.toNat).toNat := congrArg UInt8.toNat hb
      rw [UInt8.toNat_ofNat'] at htoNat
      change 10 = c.toNat % 256 at htoNat
      omega
    rw [← Char.ofNat_toNat c, hn] at hc
    exact h hc
  · have hle := le_of_mem_encodeChar hmore hb
    exact absurd hle (by decide)

end RevocationCheck.Text.Utf8
