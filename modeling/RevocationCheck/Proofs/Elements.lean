import Mathlib.Data.List.Forall2
import RevocationCheck.Der.Value

/-!
# Elements one behind the other

Facts about the readers of elements that hold for all octets:

* `readTagged_eq_ok_iff`: a reader with an expected tag reads the same element as the reader of any
  element;
* `readSerial_of_read`: so does the reader of serial numbers, where the length is definite;
* `readAll?_eq_some_iff`: repeated reading succeeds if and only if the octets are items and nothing
  else (`Tiled`);
* `tiled_iff_elements`: items that are elements of a certain form are the elements of the octets, in
  the same number and order.
-/

namespace RevocationCheck.Der

theorem bind_eq_ok_iff {ε α β : Type} {x : Except ε α} {f : α → Except ε β} {b : β} :
    (x >>= f) = .ok b ↔ ∃ a, x = .ok a ∧ f a = .ok b := by
  cases x with
  | error e => simp [bind, Except.bind]
  | ok a => simp [bind, Except.bind]

theorem map_eq_ok_iff {ε α β : Type} {x : Except ε α} {f : α → β} {b : β} :
    x.map f = .ok b ↔ ∃ a, x = .ok a ∧ f a = b := by
  cases x with
  | error e => simp [Except.map]
  | ok a => simp [Except.map]

theorem pure_eq_ok_iff {ε α : Type} {a b : α} : (pure a : Except ε α) = .ok b ↔ b = a := by
  simp [pure, Except.pure, eq_comm]

theorem throw_ne_ok {ε α : Type} {e : ε} {a : α} : (throw e : Except ε α) ≠ .ok a := nofun

/-! ### Single elements -/

theorem read_eq_ok_iff {bs rest : Octets} {element : Element} :
    Element.read bs = .ok (element, rest) ↔
      ∃ header n body content, Header.readDefinite bs = .ok (header, n, body) ∧
        readContent n body = .ok (content, rest) ∧
        element = ⟨header.tagClass, header.constructed, header.tag, content⟩ := by
  simp only [Element.read, bind_eq_ok_iff, Prod.exists, Except.ok.injEq, Prod.mk.injEq]
  constructor
  · rintro ⟨header, n, body, hheader, content, behind, hcontent, rfl, rfl⟩
    exact ⟨header, n, body, content, hheader, hcontent, rfl⟩
  · rintro ⟨header, n, body, content, hheader, hcontent, rfl⟩
    exact ⟨header, n, body, hheader, content, rest, hcontent, rfl, rfl⟩

theorem readTagged_eq_ok_iff {tag : Nat} {bs content rest : Octets} :
    readTagged tag bs = .ok (content, rest) ↔
      ∃ element, Element.read bs = .ok (element, rest) ∧ element.tag = tag ∧
        element.content = content := by
  simp only [readTagged, bind_eq_ok_iff, Prod.exists, read_eq_ok_iff]
  constructor
  · rintro ⟨header, n, body, hheader, hcontent⟩
    split at hcontent
    · rename_i htag
      exact ⟨_, ⟨header, n, body, content, hheader, hcontent, rfl⟩, htag, rfl⟩
    · cases hcontent
  · rintro ⟨element, ⟨header, n, body, _, hheader, hcontent, rfl⟩, htag, rfl⟩
    exact ⟨header, n, body, hheader, by rw [if_pos htag]; exact hcontent⟩

theorem readDefinite_eq_ok_iff {bs body : Octets} {header : Header} {n : Nat} :
    Header.readDefinite bs = .ok (header, n, body) ↔
      Header.read bs = .ok (header, body) ∧ header.length = some n := by
  simp only [Header.readDefinite, bind_eq_ok_iff, Prod.exists]
  constructor
  · rintro ⟨header', body', hread, h⟩
    split at h
    · cases h
    · rename_i hlength
      cases h
      exact ⟨hread, hlength⟩
  · rintro ⟨hread, hlength⟩
    exact ⟨header, body, hread, by rw [hlength]⟩

/-- Where the length is definite, the octets of a serial number are the content of an INTEGER. -/
theorem readSerial_of_read {bs rest : Octets} {element : Element}
    (hread : Element.read bs = .ok (element, rest)) {serial behind : Octets} :
    readSerial bs = .ok (serial, behind) ↔
      element.tag = tagInteger ∧ element.content = serial ∧ rest = behind := by
  obtain ⟨header, n, body, content, hheader, hcontent, rfl⟩ := read_eq_ok_iff.mp hread
  obtain ⟨hheader, hlength⟩ := readDefinite_eq_ok_iff.mp hheader
  have hbody : content ++ rest = body := by
    unfold readContent at hcontent
    split at hcontent
    · cases hcontent
    · rename_i parts hsplit
      cases hcontent
      exact (Octets.append_of_split? hsplit).1
  have htake : body.take (body.length - rest.length) = content := by
    rw [← hbody]
    simp
  unfold readSerial
  simp only [bind_eq_ok_iff, hheader, hlength, Except.ok.injEq, exists_eq_left', reduceCtorEq,
    false_and, ↓reduceIte]
  by_cases htag : header.tag = tagInteger
  · have hskip : skipContent 50 header body = .ok (false, rest) := by
      rw [skipContent, hlength]
      simp [htag, tagInteger, hcontent, Except.map]
    simp [hskip, htag, htake]
  · simp [htag]

/-! ### Repeated reading -/

/-- Octets that are items, one behind the other, and nothing else. -/
inductive Tiled {α ε : Type} (item : Octets → Except ε (α × Octets)) : Octets → List α → Prop
  | nil : Tiled item [] []
  | cons {bs rest : Octets} {a : α} {others : List α} (head : item bs = .ok (a, rest))
      (shorter : rest.length < bs.length) (tail : Tiled item rest others) :
      Tiled item bs (a :: others)

theorem tiled_of_readMany {α ε : Type} {item : Octets → Except ε (α × Octets)} {bs : Octets}
    {items : List α} (h : readMany item bs = (items, [])) : Tiled item bs items := by
  fun_induction readMany item bs generalizing items with
  | case1 bs fault hitem =>
      cases h
      exact .nil
  | case2 bs a rest hitem shorter others final hothers ih =>
      cases h
      exact .cons hitem shorter (ih hothers)
  | case3 bs a rest hitem hlong =>
      cases h
      exact .nil

theorem readMany_of_tiled {α ε : Type} {item : Octets → Except ε (α × Octets)} {bs : Octets}
    {items : List α} (h : Tiled item bs items) : readMany item bs = (items, []) := by
  induction h with
  | nil =>
      -- Whatever is read from no octets is not shorter than they are.
      rw [readMany]
      split
      · rfl
      · simp
  | cons head shorter _ ih =>
      rw [readMany, head]
      simp [shorter, ih]

theorem readAll?_eq_some_iff {α ε : Type} {item : Octets → Except ε (α × Octets)} {bs : Octets}
    {items : List α} : readAll? item bs = some items ↔ Tiled item bs items := by
  constructor
  · intro h
    unfold readAll? at h
    split at h
    · rename_i hmany
      cases h
      exact tiled_of_readMany hmany
    · cases h
  · intro h
    unfold readAll?
    rw [readMany_of_tiled h]

/-- Items that are elements of a certain form. -/
theorem tiled_iff_elements {α ε : Type} {item : Octets → Except ε (α × Octets)}
    {form : Element → α → Prop}
    (hitem : ∀ bs a rest, item bs = .ok (a, rest) ↔
      ∃ element, Element.read bs = .ok (element, rest) ∧ form element a)
    {bs : Octets} {items : List α} :
    Tiled item bs items ↔
      ∃ elements, Tiled Element.read bs elements ∧ List.Forall₂ form elements items := by
  constructor
  · intro h
    induction h with
    | nil => exact ⟨[], .nil, .nil⟩
    | cons head shorter _ ih =>
        obtain ⟨element, hread, hform⟩ := (hitem _ _ _).mp head
        obtain ⟨elements, htiled, hforms⟩ := ih
        exact ⟨element :: elements, .cons hread shorter htiled, .cons hform hforms⟩
  · rintro ⟨elements, htiled, hforms⟩
    induction htiled generalizing items with
    | nil =>
        cases hforms
        exact .nil
    | cons head shorter _ ih =>
        cases hforms with
        | cons hform hforms =>
            exact .cons ((hitem _ _ _).mpr ⟨_, head, hform⟩) shorter (ih hforms)

end RevocationCheck.Der
