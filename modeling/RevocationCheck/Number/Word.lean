import RevocationCheck.Number.Digits

/-!
# Words written in decimal

A word is a natural number below 2^64.  It is written with digits only, behind a plus sign if
one likes.
-/

namespace RevocationCheck.Word

/-- Why a text is no word. -/
inductive Fault
  | empty
  | noDigit
  | tooLarge
deriving Repr, DecidableEq

/-- The text of a fault. -/
def Fault.message : Fault → String
  | empty => "cannot parse integer from empty string"
  | noDigit => "invalid digit found in string"
  | tooLarge => "number too large to fit in target type"

/-- How many words there are. -/
def bound : Nat := Nat.pow 2 64

/-- Does an integer fit in a word that keeps one bit for the sign? -/
def isSigned (n : Int) : Bool := -(bound / 2 : Nat) ≤ n && n < (bound / 2 : Nat)

/-- Go on reading digits behind the number `n`.  The first digit that goes wrong decides the
fault. -/
def readDigits (n : Nat) : List Char → Except Fault Nat
  | [] => .ok n
  | c :: rest =>
    if c.isDigit then
      let next := 10 * n + Digits.ofChar c
      if next < bound then readDigits next rest else .error .tooLarge
    else .error .noDigit

/-- The word that a text spells. -/
def parse (s : String) : Except Fault Nat :=
  match s.toList with
  | [] => .error .empty
  | ['+'] => .error .noDigit
  | '+' :: rest => readDigits 0 rest
  | cs => readDigits 0 cs

/-! ### Words in writing -/

/-- The decimal digits of a number behind some zeros. -/
def numeral (zeros n : Nat) : List Char := List.replicate zeros '0' ++ Nat.toDigits 10 n

/-- A text writes a word: it has a numeral of a number that fits, and perhaps a plus sign in front
of it. -/
structure Writes (text : String) (n : Nat) : Prop where
  fits : n < UInt64.size
  spelled : ∃ zeros, text.toList = numeral zeros n ∨ text.toList = '+' :: numeral zeros n

theorem bound_eq_size : bound = UInt64.size := by decide

theorem numeral_ne_nil (zeros n : Nat) : numeral zeros n ≠ [] := by
  simp [numeral, Nat.toDigits_ne_nil]

theorem isDigit_of_mem_numeral {zeros n : Nat} {c : Char} (h : c ∈ numeral zeros n) :
    c.isDigit := by
  rcases List.mem_append.mp h with hzero | hdigit
  · rw [List.eq_of_mem_replicate hzero]
    rfl
  · exact Nat.isDigit_of_mem_toDigits (by decide) (by decide) hdigit

theorem ofDigitChars_numeral (zeros n : Nat) : Nat.ofDigitChars 10 (numeral zeros n) 0 = n := by
  rw [numeral, Nat.ofDigitChars_append, Nat.ofDigitChars_replicate_zero, Nat.mul_zero,
    Nat.ofDigitChars_ten_toDigits]

theorem digitChar_of_isDigit {c : Char} (h : c.isDigit) :
    c.toNat - '0'.toNat < 10 ∧ Nat.digitChar (c.toNat - '0'.toNat) = c := by
  obtain ⟨hlow, hhigh⟩ := Char.isDigit_iff_toNat.mp h
  have hzero : '0'.toNat = 48 := rfl
  have hnine : '9'.toNat = 57 := rfl
  have hlt : c.toNat - '0'.toNat < 10 := by omega
  refine ⟨hlt, Char.toNat_inj.mp ?_⟩
  rw [Nat.toNat_digitChar_of_lt_ten hlt]
  omega

/-- Digits behind those of a positive number are the digits of another one. -/
theorem toDigits_append {cs : List Char} (hdigits : ∀ c ∈ cs, c.isDigit) {n : Nat} (hn : 0 < n) :
    Nat.toDigits 10 n ++ cs = Nat.toDigits 10 (Nat.ofDigitChars 10 cs n) := by
  induction cs generalizing n with
  | nil => rw [List.append_nil, Nat.ofDigitChars_nil]
  | cons c rest ih =>
      obtain ⟨hlt, hc⟩ := digitChar_of_isDigit (hdigits c List.mem_cons_self)
      have hnext := Nat.toDigits_append_toDigits (by decide) hn hlt
      rw [Nat.toDigits_of_lt_base hlt, hc] at hnext
      rw [Nat.ofDigitChars_cons, ← ih (fun d hd => hdigits d (List.mem_cons_of_mem c hd)) (by omega),
        ← hnext, List.append_assoc, List.singleton_append]

/-- Digits are the numeral of the number that they spell. -/
theorem exists_eq_numeral {cs : List Char} (hne : cs ≠ []) (hdigits : ∀ c ∈ cs, c.isDigit) :
    ∃ zeros, cs = numeral zeros (Nat.ofDigitChars 10 cs 0) := by
  induction cs with
  | nil => exact absurd rfl hne
  | cons c rest ih =>
      obtain ⟨hc, hrest⟩ := List.forall_mem_cons.mp hdigits
      obtain ⟨hlt, hchar⟩ := digitChar_of_isDigit hc
      rw [Nat.ofDigitChars_cons, Nat.mul_zero, Nat.zero_add]
      by_cases hzero : c.toNat - '0'.toNat = 0
      · rw [hzero] at hchar ⊢
        obtain rfl : '0' = c := hchar
        by_cases hnil : rest = []
        · exact ⟨0, by rw [hnil]; rfl⟩
        · obtain ⟨zeros, hzeros⟩ := ih hnil hrest
          refine ⟨zeros + 1, ?_⟩
          rw [numeral, List.replicate_succ, List.cons_append, ← numeral, ← hzeros]
      · refine ⟨0, ?_⟩
        rw [numeral, List.replicate_zero, List.nil_append,
          ← toDigits_append hrest (Nat.pos_of_ne_zero hzero), Nat.toDigits_of_lt_base hlt, hchar,
          List.singleton_append]

/-- Reading goes on to the end if all signs are digits and what they spell is a word. -/
theorem readDigits_eq_ok_iff {cs : List Char} {n m : Nat} (hn : n < bound) :
    readDigits n cs = .ok m ↔
      (∀ c ∈ cs, c.isDigit) ∧ Nat.ofDigitChars 10 cs n = m ∧ m < bound := by
  induction cs generalizing n with
  | nil =>
      simp only [readDigits, Except.ok.injEq, List.not_mem_nil, false_implies, implies_true,
        true_and, Nat.ofDigitChars_nil]
      exact ⟨fun h => ⟨h, h ▸ hn⟩, And.left⟩
  | cons c rest ih =>
      have hcons : Nat.ofDigitChars 10 (c :: rest) n =
          Nat.ofDigitChars 10 rest (10 * n + Digits.ofChar c) := rfl
      rw [readDigits, List.forall_mem_cons, hcons]
      split
      case isTrue hc =>
        dsimp only
        split
        case isTrue hnext => rw [ih hnext, and_assoc, and_iff_right hc]
        case isFalse hnext =>
          -- What has been read is too large already, and more digits make it no smaller.
          refine iff_of_false nofun fun ⟨_, hvalue, hfits⟩ => hnext ?_
          rw [Nat.ofDigitChars_eq_ofDigitChars_zero] at hvalue
          have hle : 10 * n + Digits.ofChar c ≤
              10 ^ rest.length * (10 * n + Digits.ofChar c) :=
            Nat.le_mul_of_pos_left _ (Nat.pow_pos (by decide))
          omega
      case isFalse hc => exact iff_of_false nofun fun ⟨⟨hdigit, _⟩, _⟩ => hc hdigit

theorem readDigits_zero_eq_ok_iff {cs : List Char} (hne : cs ≠ []) {n : Nat} :
    readDigits 0 cs = .ok n ↔ n < bound ∧ ∃ zeros, cs = numeral zeros n := by
  rw [readDigits_eq_ok_iff (by decide)]
  constructor
  · rintro ⟨hdigits, rfl, hfits⟩
    exact ⟨hfits, exists_eq_numeral hne hdigits⟩
  · rintro ⟨hfits, zeros, rfl⟩
    exact ⟨fun c => isDigit_of_mem_numeral, ofDigitChars_numeral zeros n, hfits⟩

theorem plus_notMem_numeral (zeros n : Nat) : '+' ∉ numeral zeros n :=
  fun h => absurd (isDigit_of_mem_numeral h) (by decide)

theorem plus_cons_ne_numeral (rest : List Char) (zeros n : Nat) :
    '+' :: rest ≠ numeral zeros n :=
  fun h => plus_notMem_numeral zeros n (h ▸ List.mem_cons_self)

/-- The texts that are read are those that write a word. -/
theorem parse_eq_ok_iff {text : String} {n : Nat} : parse text = .ok n ↔ Writes text n := by
  have hwrites : Writes text n ↔ n < bound ∧
      ∃ zeros, text.toList = numeral zeros n ∨ text.toList = '+' :: numeral zeros n := by
    rw [bound_eq_size]
    exact ⟨fun h => ⟨h.fits, h.spelled⟩, fun h => ⟨h.1, h.2⟩⟩
  rw [hwrites]
  unfold parse
  split
  case h_1 hnil => simp [hnil, (numeral_ne_nil _ _).symm]
  case h_2 hplus => simp [hplus, plus_cons_ne_numeral, (numeral_ne_nil _ _).symm]
  case h_3 rest hne hplus =>
    rw [readDigits_zero_eq_ok_iff (by simpa using hne), hplus]
    simp [plus_cons_ne_numeral]
  case h_4 hnil _ hplus =>
    rw [readDigits_zero_eq_ok_iff (by simpa using hnil)]
    have hunsigned (zeros : Nat) : text.toList ≠ '+' :: numeral zeros n := hplus _
    simp [hunsigned]

/-- A text that writes a word begins with a digit or a plus sign. -/
theorem Writes.head?_ne_minus {text : String} {n : Nat} (h : Writes text n) :
    text.toList.head? ≠ some '-' := by
  intro hminus
  obtain ⟨rest, hrest⟩ := List.head?_eq_some_iff.mp hminus
  obtain ⟨zeros, hplain | hplus⟩ := h.spelled
  · have hdigit : '-' ∈ numeral zeros n := by rw [← hplain, hrest]; exact List.mem_cons_self
    exact absurd (isDigit_of_mem_numeral hdigit) (by decide)
  · rw [hrest] at hplus
    cases hplus

end RevocationCheck.Word
