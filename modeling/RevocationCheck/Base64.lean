import RevocationCheck.Octets

/-!
# Base64

Three octets are four symbols of six bits.  A group of one or two octets is filled up with
`=`.  Reading is strict: every group is complete, and the bits that a filled group leaves over
are zero.  A filled group need not be the last one, so the concatenation of two written forms
reads as the concatenation of their octets.
-/

namespace RevocationCheck.Base64

/-- The symbol of a six-bit value. -/
def symbol (n : Nat) : Char :=
  if n < 26 then Char.ofNat (65 + n)
  else if n < 52 then Char.ofNat (71 + n)
  else if n < 62 then Char.ofNat (n - 4)
  else if n = 62 then '+'
  else '/'

/-- The six-bit value of a symbol. -/
def value? (c : Char) : Option Nat :=
  if 'A' ≤ c ∧ c ≤ 'Z' then some (c.toNat - 65)
  else if 'a' ≤ c ∧ c ≤ 'z' then some (c.toNat - 71)
  else if '0' ≤ c ∧ c ≤ '9' then some (c.toNat + 4)
  else if c = '+' then some 62
  else if c = '/' then some 63
  else none

/-- The octets of one group of four symbols. -/
def group? (a b c d : Char) : Option Octets :=
  match value? a, value? b with
  | some x, some y =>
    if c = '=' ∧ d = '=' then
      if y % 16 = 0 then some [UInt8.ofNat (4 * x + y / 16)] else none
    else
      match value? c with
      | none => none
      | some z =>
        if d = '=' then
          if z % 4 = 0 then
            some [UInt8.ofNat (4 * x + y / 16), UInt8.ofNat (16 * (y % 16) + z / 4)]
          else none
        else
          (value? d).map fun w =>
            [UInt8.ofNat (4 * x + y / 16), UInt8.ofNat (16 * (y % 16) + z / 4),
              UInt8.ofNat (64 * (z % 4) + w)]
  | _, _ => none

/-- The octets that a text of complete groups spells. -/
def decode? : List Char → Option Octets
  | [] => some []
  | a :: b :: c :: d :: rest =>
    match group? a b c d, decode? rest with
    | some front, some back => some (front ++ back)
    | _, _ => none
  | _ => none

/-- The text of an octet string, filled up to complete groups. -/
def encode : Octets → List Char
  | [] => []
  | [x] => [symbol (x.toNat / 4), symbol (16 * (x.toNat % 4)), '=', '=']
  | [x, y] =>
    [symbol (x.toNat / 4), symbol (16 * (x.toNat % 4) + y.toNat / 16),
      symbol (4 * (y.toNat % 16)), '=']
  | x :: y :: z :: rest =>
    symbol (x.toNat / 4) :: symbol (16 * (x.toNat % 4) + y.toNat / 16) ::
      symbol (4 * (y.toNat % 16) + z.toNat / 64) :: symbol (z.toNat % 64) :: encode rest

theorem value?_symbol {n : Nat} (h : n < 64) : value? (symbol n) = some n := by
  have all : ∀ m ∈ List.range 64, value? (symbol m) = some m := by decide
  exact all n (List.mem_range.mpr h)

theorem symbol_ne_fill {n : Nat} (h : n < 64) : symbol n ≠ '=' := by
  have all : ∀ m ∈ List.range 64, symbol m ≠ '=' := by decide
  exact all n (List.mem_range.mpr h)

private theorem group?_one (x : UInt8) :
    group? (symbol (x.toNat / 4)) (symbol (16 * (x.toNat % 4))) '=' '=' = some [x] := by
  have hx := x.toNat_lt
  simp only [group?, value?_symbol (show x.toNat / 4 < 64 by omega),
    value?_symbol (show 16 * (x.toNat % 4) < 64 by omega)]
  rw [show 4 * (x.toNat / 4) + 16 * (x.toNat % 4) / 16 = x.toNat by omega]
  simp

private theorem group?_two (x y : UInt8) :
    group? (symbol (x.toNat / 4)) (symbol (16 * (x.toNat % 4) + y.toNat / 16))
      (symbol (4 * (y.toNat % 16))) '=' = some [x, y] := by
  have hx := x.toNat_lt
  have hy := y.toNat_lt
  have h4 : 4 * (y.toNat % 16) < 64 := by omega
  simp only [group?, value?_symbol (show x.toNat / 4 < 64 by omega),
    value?_symbol (show 16 * (x.toNat % 4) + y.toNat / 16 < 64 by omega), symbol_ne_fill h4,
    value?_symbol h4, false_and, if_false, if_true]
  rw [show 4 * (x.toNat / 4) + (16 * (x.toNat % 4) + y.toNat / 16) / 16 = x.toNat by omega,
    show 16 * ((16 * (x.toNat % 4) + y.toNat / 16) % 16) + 4 * (y.toNat % 16) / 4 = y.toNat by
      omega]
  simp

private theorem group?_three (x y z : UInt8) :
    group? (symbol (x.toNat / 4)) (symbol (16 * (x.toNat % 4) + y.toNat / 16))
      (symbol (4 * (y.toNat % 16) + z.toNat / 64)) (symbol (z.toNat % 64)) =
        some [x, y, z] := by
  have hx := x.toNat_lt
  have hy := y.toNat_lt
  have hz := z.toNat_lt
  have h3 : 4 * (y.toNat % 16) + z.toNat / 64 < 64 := by omega
  have h4 : z.toNat % 64 < 64 := by omega
  simp only [group?, value?_symbol (show x.toNat / 4 < 64 by omega),
    value?_symbol (show 16 * (x.toNat % 4) + y.toNat / 16 < 64 by omega), symbol_ne_fill h3,
    symbol_ne_fill h4, value?_symbol h3, value?_symbol h4, false_and, if_false, Option.map_some]
  rw [show 4 * (x.toNat / 4) + (16 * (x.toNat % 4) + y.toNat / 16) / 16 = x.toNat by omega,
    show 16 * ((16 * (x.toNat % 4) + y.toNat / 16) % 16) +
      (4 * (y.toNat % 16) + z.toNat / 64) / 4 = y.toNat by omega,
    show 64 * ((4 * (y.toNat % 16) + z.toNat / 64) % 4) + z.toNat % 64 = z.toNat by omega]
  simp

/-- Written text is read from the front, whatever follows. -/
theorem decode?_encode_append (bs : Octets) (rest : List Char) :
    decode? (encode bs ++ rest) = (decode? rest).map (bs ++ ·) := by
  fun_induction encode bs with
  | case1 => simp
  | case2 x => cases h : decode? rest <;> simp [decode?, group?_one, h]
  | case3 x y => cases h : decode? rest <;> simp [decode?, group?_two, h]
  | case4 x y z tail ih =>
    rw [List.cons_append, List.cons_append, List.cons_append, List.cons_append, decode?, ih,
      group?_three]
    cases decode? rest <;> simp

theorem decode?_encode (bs : Octets) : decode? (encode bs) = some bs := by
  have h := decode?_encode_append bs []
  rw [List.append_nil] at h
  rw [h, decode?, Option.map_some, List.append_nil]

/-! ### What is base64 -/

/-- The characters of base64 text: the symbols and the fill. -/
def IsSign (c : Char) : Prop := (value? c).isSome ∨ c = '='

instance (c : Char) : Decidable (IsSign c) :=
  inferInstanceAs (Decidable ((value? c).isSome = true ∨ c = '='))

theorem isSign_symbol {n : Nat} (h : n < 64) : IsSign (symbol n) := by
  left
  rw [value?_symbol h]
  rfl

theorem isSign_of_mem_encode {bs : Octets} {c : Char} (h : c ∈ encode bs) : IsSign c := by
  fun_induction encode bs with
  | case1 => cases h
  | case2 x =>
    have hx := x.toNat_lt
    simp only [List.mem_cons, List.not_mem_nil, or_false] at h
    rcases h with rfl | rfl | rfl | rfl
    · exact isSign_symbol (by omega)
    · exact isSign_symbol (by omega)
    · exact .inr rfl
    · exact .inr rfl
  | case3 x y =>
    have hx := x.toNat_lt
    have hy := y.toNat_lt
    simp only [List.mem_cons, List.not_mem_nil, or_false] at h
    rcases h with rfl | rfl | rfl | rfl
    · exact isSign_symbol (by omega)
    · exact isSign_symbol (by omega)
    · exact isSign_symbol (by omega)
    · exact .inr rfl
  | case4 x y z rest ih =>
    have hx := x.toNat_lt
    have hy := y.toNat_lt
    have hz := z.toNat_lt
    simp only [List.mem_cons] at h
    rcases h with rfl | rfl | rfl | rfl | h
    · exact isSign_symbol (by omega)
    · exact isSign_symbol (by omega)
    · exact isSign_symbol (by omega)
    · exact isSign_symbol (by omega)
    · exact ih h

/-- A value belongs to one symbol. -/
theorem symbol_of_value? {c : Char} {n : Nat} (h : value? c = some n) : n < 64 ∧ symbol n = c := by
  have hchar : Char.ofNat c.toNat = c := Char.ofNat_toNat c
  unfold value? at h
  split at h
  case isTrue hc =>
    obtain ⟨hlow, hhigh⟩ : 65 ≤ c.toNat ∧ c.toNat ≤ 90 := hc
    cases h
    refine ⟨by omega, ?_⟩
    rw [symbol, if_pos (by omega), show 65 + (c.toNat - 65) = c.toNat by omega, hchar]
  case isFalse =>
    split at h
    case isTrue hc =>
      obtain ⟨hlow, hhigh⟩ : 97 ≤ c.toNat ∧ c.toNat ≤ 122 := hc
      cases h
      refine ⟨by omega, ?_⟩
      rw [symbol, if_neg (by omega), if_pos (by omega),
        show 71 + (c.toNat - 71) = c.toNat by omega, hchar]
    case isFalse =>
      split at h
      case isTrue hc =>
        obtain ⟨hlow, hhigh⟩ : 48 ≤ c.toNat ∧ c.toNat ≤ 57 := hc
        cases h
        refine ⟨by omega, ?_⟩
        rw [symbol, if_neg (by omega), if_neg (by omega), if_pos (by omega),
          Nat.add_sub_cancel, hchar]
      case isFalse =>
        split at h
        case isTrue hc =>
          subst hc
          cases h
          exact ⟨by decide, rfl⟩
        case isFalse =>
          split at h
          case isTrue hc =>
            subst hc
            cases h
            exact ⟨by decide, rfl⟩
          case isFalse => cases h

/-- A group that reads is the written form of what it reads as. -/
theorem group?_eq_some {a b c d : Char} {bs : Octets} (h : group? a b c d = some bs) :
    [a, b, c, d] = encode bs := by
  unfold group? at h
  split at h
  case h_2 => cases h
  case h_1 x y ha hb =>
    obtain ⟨hx, rfl⟩ := symbol_of_value? ha
    obtain ⟨hy, rfl⟩ := symbol_of_value? hb
    have h1 : (UInt8.ofNat (4 * x + y / 16)).toNat = 4 * x + y / 16 := by
      rw [UInt8.toNat_ofNat']
      omega
    split at h
    case isTrue hfill =>
      obtain ⟨rfl, rfl⟩ := hfill
      split at h
      case isFalse => cases h
      case isTrue hzero =>
        cases h
        simp only [encode, h1]
        rw [show (4 * x + y / 16) / 4 = x by omega, show 16 * ((4 * x + y / 16) % 4) = y by omega]
    case isFalse =>
      split at h
      case h_1 => cases h
      case h_2 z hc =>
        obtain ⟨hz, rfl⟩ := symbol_of_value? hc
        have h2 : (UInt8.ofNat (16 * (y % 16) + z / 4)).toNat = 16 * (y % 16) + z / 4 := by
          rw [UInt8.toNat_ofNat']
          omega
        have hyz : 16 * ((4 * x + y / 16) % 4) + (16 * (y % 16) + z / 4) / 16 = y := by omega
        split at h
        case isTrue hfill =>
          subst hfill
          split at h
          case isFalse => cases h
          case isTrue hzero =>
            cases h
            simp only [encode, h1, h2, hyz]
            rw [show (4 * x + y / 16) / 4 = x by omega,
              show 4 * ((16 * (y % 16) + z / 4) % 16) = z by omega]
        case isFalse =>
          obtain ⟨w, hd, rfl⟩ := Option.map_eq_some_iff.mp h
          obtain ⟨hw, rfl⟩ := symbol_of_value? hd
          have h3 : (UInt8.ofNat (64 * (z % 4) + w)).toNat = 64 * (z % 4) + w := by
            rw [UInt8.toNat_ofNat']
            omega
          simp only [encode, h1, h2, h3, hyz]
          rw [show (4 * x + y / 16) / 4 = x by omega,
            show 4 * ((16 * (y % 16) + z / 4) % 16) + (64 * (z % 4) + w) / 64 = z by omega,
            show (64 * (z % 4) + w) % 64 = w by omega]

/-- Base64 text is text that has been written, in one piece or in several: behind a group that is
filled up there may be more. -/
theorem decode?_eq_some_iff {cs : List Char} {bs : Octets} :
    decode? cs = some bs ↔
      ∃ pieces : List Octets, cs = pieces.flatMap encode ∧ bs = pieces.flatten := by
  constructor
  · intro h
    fun_induction decode? cs generalizing bs with
    | case1 =>
      cases h
      exact ⟨[], rfl, rfl⟩
    | case2 a b c d rest front back hrest hgroup ih =>
      cases h
      obtain ⟨pieces, rfl, rfl⟩ := ih hrest
      exact ⟨front :: pieces, by simp [← group?_eq_some hgroup], by simp⟩
    | case3 => cases h
    | case4 => cases h
  · rintro ⟨pieces, rfl, rfl⟩
    induction pieces with
    | nil => rfl
    | cons piece pieces ih => simp [decode?_encode_append, ih]

/-- Text with a character that is no sign of base64 does not read. -/
theorem decode?_eq_none_of_mem {cs : List Char} {c : Char} (hmem : c ∈ cs) (hc : ¬ IsSign c) :
    decode? cs = none := by
  rw [Option.eq_none_iff_forall_ne_some]
  intro bs h
  obtain ⟨pieces, rfl, -⟩ := decode?_eq_some_iff.mp h
  obtain ⟨piece, -, hpiece⟩ := List.mem_flatMap.mp hmem
  exact hc (isSign_of_mem_encode hpiece)

end RevocationCheck.Base64
