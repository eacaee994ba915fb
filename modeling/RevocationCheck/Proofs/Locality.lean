import RevocationCheck.Proofs.Elements

/-!
# What a reader has looked at

A reader of one element looks at no octet behind the element.  So the octets that it has taken
(`Takes`) mean the same wherever they stand: with others behind them, or alone.

* `isLocal_elementRead`: this holds of the reader of any element;
* `Takes.unique`: octets that begin with one element begin with no other.
-/

namespace RevocationCheck.Der

section Readers

variable {α ε : Type}

/-- A reader takes a value from `front`, whatever stands behind it. -/
def Takes (item : Octets → Except ε (α × Octets)) (front : Octets) (a : α) : Prop :=
  ∀ rest, item (front ++ rest) = .ok (a, rest)

/-- Where a reader succeeds, it has looked at no more than it has taken. -/
def IsLocal (item : Octets → Except ε (α × Octets)) : Prop :=
  ∀ bs a rest, item bs = .ok (a, rest) → ∃ front, bs = front ++ rest ∧ Takes item front a

theorem Takes.alone {item : Octets → Except ε (α × Octets)} {front : Octets} {a : α}
    (h : Takes item front a) : item front = .ok (a, []) := by
  simpa using h []

/-- The same octets do not begin with two values that take up different numbers of them. -/
theorem Takes.unique {item : Octets → Except ε (α × Octets)} {front front' rest rest' : Octets}
    {a a' : α} (h : Takes item front a) (h' : Takes item front' a')
    (heq : front ++ rest = front' ++ rest') : front = front' ∧ a = a' := by
  have hread := h rest
  rw [heq, h' rest', Except.ok.injEq, Prod.mk.injEq] at hread
  obtain ⟨ha, rfl⟩ := hread
  exact ⟨List.append_cancel_right heq, ha.symm⟩

end Readers

/-! ### Headers -/

theorem isLocal_readLongTag (acc limit : Nat) : IsLocal (readLongTag acc limit) := by
  intro bs tag rest h
  induction limit generalizing acc bs with
  | zero => simp [readLongTag] at h
  | succ limit ih =>
      cases bs with
      | nil => simp [readLongTag] at h
      | cons b bs =>
          rw [readLongTag] at h
          split at h
          · rename_i hlast
            cases h
            exact ⟨[b], rfl, fun t => by simp [readLongTag, hlast]⟩
          · rename_i hmore
            obtain ⟨front, rfl, htakes⟩ := ih _ _ h
            refine ⟨b :: front, rfl, fun t => ?_⟩
            rw [List.cons_append, readLongTag, if_neg hmore]
            exact htakes t

theorem isLocal_readLength : IsLocal readLength := by
  intro bs length rest h
  cases bs with
  | nil => cases h
  | cons b bs =>
      unfold readLength at h
      dsimp only at h
      split at h
      · rename_i hshort
        cases h
        exact ⟨[b], rfl, fun t => by simp [readLength, hshort]⟩
      · rename_i hlong
        split at h
        · rename_i hindefinite
          cases h
          exact ⟨[b], rfl, fun t => by simp [readLength, hindefinite]⟩
        · rename_i hdefinite
          split at h
          · cases h
          · rename_i hreserved
            split at h
            · cases h
            · rename_i digits behind hsplit
              split at h
              · rename_i hfits
                cases h
                -- As many digits as the first octet says are taken with it.
                obtain ⟨rfl, hcount⟩ := Octets.append_of_split? hsplit
                refine ⟨b :: digits, rfl, fun t => ?_⟩
                have hagain : Octets.split? (b.toNat - 128) (digits ++ t) = some (digits, t) := by
                  rw [← hcount]
                  exact Octets.split?_append
                simp [readLength, hlong, hdefinite, hreserved, hagain, hfits]
              · cases h

theorem isLocal_headerRead : IsLocal Header.read := by
  intro bs header rest h
  cases bs with
  | nil => cases h
  | cons b bs =>
      unfold Header.read at h
      dsimp only at h
      split at h
      · rename_i hlong
        obtain ⟨⟨tag, behind⟩, htag, h⟩ := bind_eq_ok_iff.mp h
        obtain ⟨⟨length, final⟩, hlength, heq⟩ := bind_eq_ok_iff.mp h
        cases heq
        obtain ⟨tagOctets, rfl, htagTakes⟩ := isLocal_readLongTag 0 5 _ _ _ htag
        obtain ⟨lengthOctets, rfl, hlengthTakes⟩ := isLocal_readLength _ _ _ hlength
        refine ⟨b :: (tagOctets ++ lengthOctets), by simp, fun t => ?_⟩
        rw [List.cons_append, List.append_assoc, Header.read, if_pos hlong, htagTakes]
        change (readLength (lengthOctets ++ t) >>= _) = _
        rw [hlengthTakes]
        rfl
      · rename_i hshort
        obtain ⟨⟨tag, behind⟩, htag, h⟩ := bind_eq_ok_iff.mp h
        obtain ⟨⟨length, final⟩, hlength, heq⟩ := bind_eq_ok_iff.mp h
        cases htag
        cases heq
        obtain ⟨lengthOctets, rfl, hlengthTakes⟩ := isLocal_readLength _ _ _ hlength
        refine ⟨b :: lengthOctets, rfl, fun t => ?_⟩
        rw [List.cons_append, Header.read, if_neg hshort]
        change (readLength (lengthOctets ++ t) >>= _) = _
        rw [hlengthTakes]
        rfl

/-! ### Elements -/

theorem isLocal_readContent (n : Nat) : IsLocal (readContent n) := by
  intro bs content rest h
  unfold readContent at h
  split at h
  · cases h
  · rename_i hsplit
    cases h
    obtain ⟨rfl, rfl⟩ := Octets.append_of_split? hsplit
    exact ⟨content, rfl, fun t => by rw [readContent, Octets.split?_append]⟩

theorem isLocal_elementRead : IsLocal Element.read := by
  intro bs element rest h
  obtain ⟨header, n, body, content, hheader, hcontent, rfl⟩ := read_eq_ok_iff.mp h
  obtain ⟨hread, hlength⟩ := readDefinite_eq_ok_iff.mp hheader
  obtain ⟨headerOctets, rfl, hheaderTakes⟩ := isLocal_headerRead _ _ _ hread
  obtain ⟨contentOctets, rfl, hcontentTakes⟩ := isLocal_readContent n _ _ _ hcontent
  refine ⟨headerOctets ++ contentOctets, by simp, fun t => ?_⟩
  rw [List.append_assoc]
  exact read_eq_ok_iff.mpr ⟨header, n, contentOctets ++ t, content,
    readDefinite_eq_ok_iff.mpr ⟨hheaderTakes _, hlength⟩, hcontentTakes t, rfl⟩

end RevocationCheck.Der
