/-!
# Blank characters

The characters with the Unicode property White_Space, and trimming by it.  U+FEFF and the
zero-width characters are not blank.
-/

namespace RevocationCheck.Text

/-- Does the character have the property White_Space? -/
def isBlank (c : Char) : Bool :=
  let n := c.toNat
  (0x09 ≤ n && n ≤ 0x0D) || n == 0x20 || n == 0x85 || n == 0xA0 || n == 0x1680 ||
    (0x2000 ≤ n && n ≤ 0x200A) || n == 0x2028 || n == 0x2029 || n == 0x202F || n == 0x205F ||
    n == 0x3000

/-- Drop blank characters at the front. -/
def trimStart (cs : List Char) : List Char := cs.dropWhile isBlank

/-- Drop blank characters at the back. -/
def trimEnd (cs : List Char) : List Char := (cs.reverse.dropWhile isBlank).reverse

/-- Drop blank characters on both sides. -/
def trim (cs : List Char) : List Char := trimEnd (trimStart cs)

theorem trimEnd_append_blank (cs blanks : List Char) (h : ∀ c ∈ blanks, isBlank c = true) :
    trimEnd (cs ++ blanks) = trimEnd cs := by
  have drop : ∀ (xs ys : List Char), (∀ c ∈ xs, isBlank c = true) →
      (xs ++ ys).dropWhile isBlank = ys.dropWhile isBlank := by
    intro xs ys hx
    induction xs with
    | nil => rfl
    | cons x xs ih =>
      rw [List.cons_append, List.dropWhile_cons_of_pos (hx x (by simp))]
      exact ih fun c hc => hx c (by simp [hc])
  unfold trimEnd
  rw [List.reverse_append, drop blanks.reverse cs.reverse (by simpa using h)]

theorem trimEnd_of_forall {cs : List Char} (h : ∀ c ∈ cs, isBlank c = false) : trimEnd cs = cs := by
  have hnone : cs.reverse.dropWhile isBlank = cs.reverse := by
    cases hcs : cs.reverse with
    | nil => rfl
    | cons c rest =>
      have hmem : c ∈ cs := List.mem_reverse.mp (by simp [hcs])
      rw [List.dropWhile_cons_of_neg (by simp [h c hmem])]
  rw [trimEnd, hnone, List.reverse_reverse]

/-- What is not blank is not trimmed. -/
theorem mem_trimEnd {cs : List Char} {c : Char} (hmem : c ∈ cs) (hc : isBlank c = false) :
    c ∈ trimEnd cs := by
  rw [← List.mem_reverse, ← List.takeWhile_append_dropWhile (p := isBlank) (l := cs.reverse)] at hmem
  rcases List.mem_append.mp hmem with hfront | hback
  · have hblank : isBlank c = true := List.all_eq_true.mp List.all_takeWhile c hfront
    rw [hc] at hblank
    cases hblank
  · exact List.mem_reverse.mpr hback

end RevocationCheck.Text
