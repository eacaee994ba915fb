import Mathlib.Data.List.Induction
import Mathlib.Tactic.Ring
import RevocationCheck.Octets

/-!
# The numbers that octets spell

* `toNat_ofNat`: a number is spelt by its own digits, if there are enough of them;
* `toNat_eq_iff_dropZeros`: two octet strings spell the same number if and only if they are the same
  without the zeros in front.
-/

namespace RevocationCheck.Octets

theorem toNat_append_singleton (bs : Octets) (b : UInt8) :
    toNat (bs ++ [b]) = 256 * toNat bs + b.toNat := by
  simp [toNat]

theorem toNat_ofNat {width n : Nat} (h : n < 256 ^ width) : toNat (ofNat width n) = n := by
  induction width generalizing n with
  | zero =>
      have hzero : n = 0 := by simpa using h
      rw [hzero]
      rfl
  | succ width ih =>
      have hhigh : n / 256 < 256 ^ width := by
        rw [Nat.div_lt_iff_lt_mul (by decide), ← Nat.pow_succ]
        exact h
      rw [ofNat, toNat_append_singleton, ih hhigh, UInt8.toNat_ofNat']
      omega

theorem toNat_cons (b : UInt8) (bs : Octets) :
    toNat (b :: bs) = b.toNat * 256 ^ bs.length + toNat bs := by
  induction bs using List.reverseRecOn generalizing b with
  | nil => simp [toNat]
  | append_singleton bs c ih =>
      rw [← List.cons_append, toNat_append_singleton, toNat_append_singleton, ih,
        List.length_append, List.length_singleton, Nat.pow_succ]
      ring

theorem toNat_lt (bs : Octets) : toNat bs < 256 ^ bs.length := by
  induction bs with
  | nil => decide
  | cons b bs ih =>
      have hb : b.toNat ≤ 255 := by
        have := b.toNat_lt
        omega
      rw [toNat_cons, List.length_cons, Nat.pow_succ]
      have := Nat.mul_le_mul_right (256 ^ bs.length) hb
      omega

theorem toNat_cons_div (b : UInt8) (bs : Octets) :
    toNat (b :: bs) / 256 ^ bs.length = b.toNat := by
  rw [toNat_cons, Nat.add_comm, Nat.add_mul_div_right _ _ (Nat.pow_pos (by decide)),
    Nat.div_eq_of_lt (toNat_lt bs), Nat.zero_add]

theorem eq_of_toNat_eq {bs cs : Octets} (hlength : bs.length = cs.length)
    (h : toNat bs = toNat cs) : bs = cs := by
  induction bs generalizing cs with
  | nil => exact (List.length_eq_zero_iff.mp hlength.symm).symm
  | cons b bs ih =>
      cases cs with
      | nil => simp at hlength
      | cons c cs =>
          have htails : bs.length = cs.length := by simpa using hlength
          -- The heads are the quotients by the same power.
          have hhead : b.toNat = c.toNat := by
            rw [← toNat_cons_div b bs, h, htails, toNat_cons_div]
          rw [toNat_cons, toNat_cons, htails, hhead] at h
          rw [UInt8.toNat_inj.mp hhead, ih htails (Nat.add_left_cancel h)]

/-! ### Zeros in front -/

/-- The octets without the zeros in front. -/
def dropZeros (bs : Octets) : Octets := bs.dropWhile fun b => b = 0

theorem toNat_dropZeros (bs : Octets) : toNat (dropZeros bs) = toNat bs := by
  induction bs with
  | nil => rfl
  | cons b bs ih =>
      unfold dropZeros at ih ⊢
      rw [List.dropWhile_cons]
      split
      · rename_i hzero
        have hb : b = 0 := by simpa using hzero
        rw [ih, toNat_cons, hb]
        simp
      · rfl

/-- Octets with a first one above zero spell at least the power that this one counts. -/
theorem le_toNat_of_dropZeros_eq_cons {bs rest : Octets} {b : UInt8}
    (h : dropZeros bs = b :: rest) : 256 ^ rest.length ≤ toNat (b :: rest) := by
  have hne : b ≠ 0 := by
    have := List.head?_dropWhile_not (fun b : UInt8 => decide (b = 0)) bs
    unfold dropZeros at h
    rw [h] at this
    simpa using this
  have hb : 1 ≤ b.toNat := Nat.one_le_iff_ne_zero.mpr fun hzero => hne (UInt8.toNat_inj.mp hzero)
  rw [toNat_cons]
  have := Nat.mul_le_mul_right (256 ^ rest.length) hb
  omega

/-- Without zeros in front, a smaller number does not have more octets. -/
theorem length_dropZeros_le {bs cs : Octets} (h : toNat bs ≤ toNat cs) :
    (dropZeros bs).length ≤ (dropZeros cs).length := by
  cases hbs : dropZeros bs with
  | nil => simp
  | cons b rest =>
      have hlow := le_toNat_of_dropZeros_eq_cons hbs
      rw [← hbs, toNat_dropZeros] at hlow
      have hhigh := toNat_lt (dropZeros cs)
      rw [toNat_dropZeros] at hhigh
      have hpow : 256 ^ rest.length < 256 ^ (dropZeros cs).length := by omega
      exact (Nat.pow_lt_pow_iff_right (by decide)).mp hpow

/-- Two octet strings spell the same number if and only if they are the same without the zeros in
front. -/
theorem toNat_eq_iff_dropZeros {bs cs : Octets} :
    toNat bs = toNat cs ↔ dropZeros bs = dropZeros cs := by
  constructor
  · intro h
    have hlength := Nat.le_antisymm (length_dropZeros_le (Nat.le_of_eq h))
      (length_dropZeros_le (Nat.le_of_eq h.symm))
    refine eq_of_toNat_eq hlength ?_
    rw [toNat_dropZeros, toNat_dropZeros, h]
  · intro h
    rw [← toNat_dropZeros bs, h, toNat_dropZeros]

end RevocationCheck.Octets
