import Mathlib.Data.List.Basic
import RevocationCheck.Proofs.WrittenElements

/-!
# The text of identifiers

Two identifiers that are written with the fewest octets and have the same text are the same
(`IsShortest.eq_of_text_eq`).  It need not be so for others: an arc that is padded in front has the
text of the arc without padding.

A text is dotted, or it is a row of octets behind an arc that is too wide for 64 bits; the dots
and the blanks tell the two apart.  No text contains one of the signs that stand between the
attributes of a name (`isTextSign_of_mem_text`).
-/

namespace RevocationCheck

section Intercalate

variable {α : Type} {separator : List α} {parts : List (List α)} {x : α}

theorem intercalate_cons (separator part : List α) (rest : List (List α)) :
    separator.intercalate (part :: rest) = part ++ rest.flatMap (separator ++ ·) := by
  induction rest generalizing part with
  | nil => simp
  | cons next rest ih =>
      rw [List.intercalate_cons_cons, ih, List.flatMap_cons, List.append_assoc,
        List.append_assoc]

theorem mem_intercalate_iff : x ∈ separator.intercalate parts ↔
    (2 ≤ parts.length ∧ x ∈ separator) ∨ ∃ part ∈ parts, x ∈ part := by
  cases parts with
  | nil => simp
  | cons first rest =>
      rw [intercalate_cons, List.mem_append, List.mem_flatMap]
      simp only [List.mem_append]
      cases rest with
      | nil => simp
      | cons second rest =>
          simp only [List.length_cons, List.exists_mem_cons_iff]
          grind

/-- Texts that have been joined by a sign that is in none of them can be told from the whole. -/
theorem eq_of_intercalate_eq {sign : Char} {texts others : List String}
    (hfree : ∀ text ∈ texts, sign ∉ text.toList) (hfree' : ∀ text ∈ others, sign ∉ text.toList)
    (hne : texts ≠ []) (hne' : others ≠ [])
    (h : [sign].intercalate (texts.map String.toList) =
      [sign].intercalate (others.map String.toList)) : texts = others := by
  have hcut : ∀ items : List String, items ≠ [] → (∀ text ∈ items, sign ∉ text.toList) →
      List.splitOn sign ([sign].intercalate (items.map String.toList)) =
        items.map String.toList := by
    intro items hitems hsign
    refine List.splitOn_intercalate sign ?_ (by simpa using hitems)
    simpa using hsign
  have hmaps : texts.map String.toList = others.map String.toList := by
    rw [← hcut texts hne hfree, ← hcut others hne' hfree', h]
  exact List.map_injective_iff.mpr (fun _ _ => String.toList_inj.mp) hmaps

end Intercalate

namespace Oid

/-! ### Arcs in the fewest octets -/

/-- Is an identifier written with the fewest octets, as `ofArcs` writes the arcs behind the first
octet? -/
def IsShortest (oid : Oid) : Prop :=
  ∃ (first : UInt8) (arcs : List Nat), oid.octets = first :: arcs.flatMap arcOctets

theorem arcOctets_eq (arc : Nat) :
    arcOctets arc = arcOctets.leading (arc / 128) ++ [UInt8.ofNat (arc % 128)] := by
  unfold arcOctets
  split
  · rename_i hsmall
    have hnone : arcOctets.leading (arc / 128) = [] := by
      rw [arcOctets.leading]
      simp [Nat.div_eq_of_lt hsmall]
    rw [hnone, Nat.mod_eq_of_lt hsmall, List.nil_append]
  · rfl

theorem toNat_lastOctet_lt (arc : Nat) : (UInt8.ofNat (arc % 128)).toNat < 128 := by
  rw [UInt8.toNat_ofNat']
  omega

/-- An octet that others of its arc follow has its high bit set. -/
theorem le_of_mem_leading {n : Nat} {b : UInt8} (h : b ∈ arcOctets.leading n) :
    128 ≤ b.toNat := by
  induction n using Nat.strongRecOn with
  | ind n ih =>
      rw [arcOctets.leading] at h
      split at h
      · cases h
      · rcases List.mem_append.mp h with hfront | hlast
        · exact ih (n / 128) (by omega) hfront
        · rw [List.mem_singleton.mp hlast, UInt8.toNat_ofNat']
          omega

theorem arcGroups_append {front rest : Octets} {last : UInt8}
    (hfront : ∀ b ∈ front, 128 ≤ b.toNat) (hlast : last.toNat < 128) :
    arcGroups (front ++ last :: rest) = (front ++ [last]) :: arcGroups rest := by
  induction front with
  | nil => simp [arcGroups, hlast]
  | cons b front ih =>
      obtain ⟨hb, hrest⟩ := List.forall_mem_cons.mp hfront
      rw [List.cons_append, arcGroups, if_neg (by omega), ih hrest]
      rfl

/-- Arcs that have been written are told apart by their last octets. -/
theorem arcGroups_flatMap (arcs : List Nat) :
    arcGroups (arcs.flatMap arcOctets) = arcs.map arcOctets := by
  induction arcs with
  | nil => rfl
  | cons arc arcs ih =>
      rw [List.flatMap_cons, List.map_cons, ← ih, arcOctets_eq, List.append_assoc,
        List.singleton_append]
      exact arcGroups_append (fun b => le_of_mem_leading) (toNat_lastOctet_lt arc)

theorem arcValue_concat (group : Octets) (b : UInt8) :
    arcValue (group ++ [b]) = (128 * arcValue group + b.toNat % 128) % Word.bound := by
  simp [arcValue]

theorem word_bound : Word.bound = 18446744073709551616 := rfl

theorem arcValue_leading (n : Nat) : arcValue (arcOctets.leading n) = n % Word.bound := by
  induction n using Nat.strongRecOn with
  | ind n ih =>
      rw [arcOctets.leading]
      split
      · rename_i hzero
        simp [hzero, arcValue]
      · rw [arcValue_concat, ih (n / 128) (by omega), UInt8.toNat_ofNat', word_bound]
        omega

theorem arcValue_arcOctets (arc : Nat) : arcValue (arcOctets arc) = arc % Word.bound := by
  rw [arcOctets_eq, arcValue_concat, arcValue_leading, UInt8.toNat_ofNat', word_bound]
  omega

theorem lt_pow_length_leading (n : Nat) : n < 128 ^ (arcOctets.leading n).length := by
  induction n using Nat.strongRecOn with
  | ind n ih =>
      rw [arcOctets.leading]
      split
      · rename_i hzero
        simp [hzero]
      · have hhigh := ih (n / 128) (by omega)
        rw [List.length_append, List.length_singleton, Nat.pow_succ]
        omega

/-- The value of an arc of at most nine octets is kept whole. -/
theorem lt_bound_of_not_wide {arc : Nat} (h : isWide (arcOctets arc) = false) :
    arc < Word.bound := by
  have hlast : (arcOctets arc).getLast? = some (UInt8.ofNat (arc % 128)) := by
    rw [arcOctets_eq, List.getLast?_concat]
  have hlength : (arcOctets.leading (arc / 128)).length ≤ 8 := by
    have hnine : (arcOctets arc).length ≤ 9 := by
      simpa only [isWide, hlast, Option.any_some, toNat_lastOctet_lt, decide_true, Bool.and_true,
        decide_eq_false_iff_not, Nat.not_lt] using h
    rw [arcOctets_eq, List.length_append, List.length_singleton] at hnine
    omega
  have hhigh : arc / 128 < 128 ^ 8 :=
    Nat.lt_of_lt_of_le (lt_pow_length_leading _) (Nat.pow_le_pow_right (by decide) hlength)
  rw [word_bound]
  omega

/-! ### The signs of a text -/

/-- The signs that the text of an identifier is made of. -/
def IsTextSign (c : Char) : Prop := c = '.' ∨ c = ' ' ∨ (Text.Hex.value? c).isSome

theorem toList_toString (n : Nat) : (toString n).toList = Nat.toDigits 10 n := Nat.toList_repr

theorem isSome_value?_of_mem_toString {c : Char} {n : Nat} (h : c ∈ (toString n).toList) :
    (Text.Hex.value? c).isSome := by
  rw [toList_toString] at h
  have hdigit : c.isDigit = true := Nat.isDigit_of_mem_toDigits (by decide) (by decide) h
  have hrange : '0' ≤ c ∧ c ≤ '9' := by simpa [Char.isDigit, Char.le_def] using hdigit
  simp [Text.Hex.value?, hrange]

theorem isSome_value?_of_mem_encode {c : Char} {b : UInt8} (h : c ∈ (Text.Hex.encode [b]).toList) :
    (Text.Hex.value? c).isSome := by
  have hb := b.toNat_lt
  have hdigits : c = Text.Hex.digit (b.toNat / 16) ∨ c = Text.Hex.digit (b.toNat % 16) := by
    simpa [Text.Hex.encode, Text.Hex.encodeChars, Text.Hex.octetChars] using h
  rcases hdigits with rfl | rfl
  · rw [Text.Hex.value?_digit (by omega)]
    rfl
  · rw [Text.Hex.value?_digit (by omega)]
    rfl

/-- The dotted form of a list of arcs. -/
def dotted (arcs : List Nat) : String := ".".intercalate (arcs.map toString)

/-- The form of an identifier with an arc that is too wide: its octets in a row. -/
def row (octets : Octets) : String := " ".intercalate (octets.map fun b => Text.Hex.encode [b])

theorem mem_dotted_iff {arcs : List Nat} {c : Char} : c ∈ (dotted arcs).toList ↔
    (2 ≤ arcs.length ∧ c = '.') ∨ ∃ arc ∈ arcs, c ∈ (toString arc).toList := by
  simp [dotted, String.toList_intercalate, mem_intercalate_iff]

theorem mem_row_iff {octets : Octets} {c : Char} : c ∈ (row octets).toList ↔
    (2 ≤ octets.length ∧ c = ' ') ∨ ∃ b ∈ octets, c ∈ (Text.Hex.encode [b]).toList := by
  simp [row, String.toList_intercalate, mem_intercalate_iff]

theorem text_cons {first : UInt8} {rest : Octets} (h : ¬ (first = 0 ∧ rest = [])) :
    text ⟨first :: rest⟩ =
      if (arcGroups rest).any isWide then row (first :: rest)
      else dotted (first.toNat / 40 :: first.toNat % 40 :: (arcGroups rest).map arcValue) := by
  unfold text
  split <;> simp_all [row, dotted]

theorem isTextSign_of_mem_text {oid : Oid} {c : Char} (h : c ∈ oid.text.toList) :
    IsTextSign c := by
  obtain ⟨octets⟩ := oid
  cases octets with
  | nil => simp [text] at h
  | cons first rest =>
      by_cases hzero : first = 0 ∧ rest = []
      · obtain ⟨rfl, rfl⟩ := hzero
        have hc : c = '0' := by simpa [text] using h
        rw [hc]
        exact .inr (.inr (by decide))
      · rw [text_cons hzero] at h
        split at h
        · rcases mem_row_iff.mp h with ⟨-, hblank⟩ | ⟨b, -, hmem⟩
          · exact .inr (.inl hblank)
          · exact .inr (.inr (isSome_value?_of_mem_encode hmem))
        · rcases mem_dotted_iff.mp h with ⟨-, hdot⟩ | ⟨arc, -, hmem⟩
          · exact .inl hdot
          · exact .inr (.inr (isSome_value?_of_mem_toString hmem))

/-! ### Two identifiers with one text -/

theorem dotted_injective {arcs others : List Nat} (hne : arcs ≠ []) (hne' : others ≠ [])
    (h : dotted arcs = dotted others) : arcs = others := by
  have hfree : ∀ arcs : List Nat, ∀ part ∈ arcs.map (toString : Nat → String),
      '.' ∉ part.toList := by
    intro arcs part hpart hdot
    obtain ⟨arc, -, rfl⟩ := List.mem_map.mp hpart
    exact absurd (isSome_value?_of_mem_toString hdot) (by decide)
  have hparts : arcs.map (toString : Nat → String) = others.map toString := by
    refine eq_of_intercalate_eq (hfree arcs) (hfree others) (by simpa) (by simpa) ?_
    simpa [dotted, String.toList_intercalate] using congrArg String.toList h
  refine List.map_injective_iff.mpr (fun arc other heq => ?_) hparts
  rw [← Nat.ofDigitChars_ten_toDigits (n := arc), ← toList_toString, heq, toList_toString,
    Nat.ofDigitChars_ten_toDigits]

theorem row_injective {octets others : Octets} (hne : octets ≠ []) (hne' : others ≠ [])
    (h : row octets = row others) : octets = others := by
  have hfree : ∀ octets : Octets, ∀ part ∈ octets.map (fun b => Text.Hex.encode [b]),
      ' ' ∉ part.toList := by
    intro octets part hpart hblank
    obtain ⟨b, -, rfl⟩ := List.mem_map.mp hpart
    exact absurd (isSome_value?_of_mem_encode hblank) (by decide)
  have hparts : octets.map (fun b => Text.Hex.encode [b]) =
      others.map fun b => Text.Hex.encode [b] := by
    refine eq_of_intercalate_eq (hfree octets) (hfree others) (by simpa) (by simpa) ?_
    simpa [row, String.toList_intercalate] using congrArg String.toList h
  refine List.map_injective_iff.mpr (fun b c heq => ?_) hparts
  have hdecoded := congrArg Text.Hex.decode? heq
  simpa [Text.Hex.decode?_encode] using hdecoded

/-- A shortest identifier is zero, or it has an arc that is too wide and its text is the row of its
octets, or its text is dotted and says all of its arcs. -/
theorem IsShortest.text_cases {oid : Oid} (h : oid.IsShortest) :
    (oid.octets = [0] ∧ oid.text = "0") ∨
    (2 ≤ oid.octets.length ∧ oid.text = row oid.octets) ∨
    ∃ (first : UInt8) (arcs : List Nat), oid.octets = first :: arcs.flatMap arcOctets ∧
      oid.text = dotted (first.toNat / 40 :: first.toNat % 40 :: arcs) := by
  obtain ⟨octets⟩ := oid
  obtain ⟨first, arcs, hoctets⟩ := h
  obtain rfl : octets = first :: arcs.flatMap arcOctets := hoctets
  by_cases hzero : first = 0 ∧ arcs.flatMap arcOctets = []
  · obtain ⟨rfl, hnil⟩ := hzero
    simp only [hnil]
    exact .inl ⟨trivial, rfl⟩
  · refine .inr ?_
    have htext := text_cons hzero
    rw [arcGroups_flatMap] at htext
    split at htext
    · rename_i hwide
      refine .inl ⟨?_, htext⟩
      cases arcs with
      | nil => cases hwide
      | cons arc arcs =>
          simp only [List.flatMap_cons, arcOctets_eq arc, List.length_cons, List.length_append]
          omega
    · rename_i hnarrow
      -- No arc is too wide, so the value that is kept is the arc itself.
      have hvalue : ∀ arc ∈ arcs, (arcValue ∘ arcOctets) arc = id arc := by
        intro arc hmem
        have hnot : isWide (arcOctets arc) = false := by
          rw [List.any_map, List.any_eq_true] at hnarrow
          simpa using fun hwide => hnarrow ⟨arc, hmem, hwide⟩
        exact (arcValue_arcOctets arc).trans (Nat.mod_eq_of_lt (lt_bound_of_not_wide hnot))
      rw [List.map_map, List.map_congr_left hvalue, List.map_id] at htext
      exact .inr ⟨first, arcs, rfl, htext⟩

theorem dot_mem_dotted (first second : Nat) (arcs : List Nat) :
    '.' ∈ (dotted (first :: second :: arcs)).toList :=
  mem_dotted_iff.mpr (.inl ⟨by simp, rfl⟩)

theorem blank_mem_row {octets : Octets} (h : 2 ≤ octets.length) : ' ' ∈ (row octets).toList :=
  mem_row_iff.mpr (.inl ⟨h, rfl⟩)

theorem blank_notMem_dotted (arcs : List Nat) : ' ' ∉ (dotted arcs).toList := by
  rw [mem_dotted_iff]
  rintro (⟨-, heq⟩ | ⟨arc, -, hmem⟩)
  · exact absurd heq (by decide)
  · exact absurd (isSome_value?_of_mem_toString hmem) (by decide)

/-- The text of an identifier that is written with the fewest octets says which one it is. -/
theorem IsShortest.eq_of_text_eq {oid other : Oid} (h : oid.IsShortest) (h' : other.IsShortest)
    (heq : oid.text = other.text) : oid = other := by
  have hzero : '.' ∉ "0".toList ∧ ' ' ∉ "0".toList := by decide
  suffices hoctets : oid.octets = other.octets by
    cases oid
    cases other
    exact congrArg Oid.mk hoctets
  -- There is a blank in every row and in no other text, and a dot in every dotted text and not in
  -- that of zero, so that the mixed cases are impossible.
  rcases h.text_cases with ⟨ho, ht⟩ | ⟨hlength, ht⟩ | ⟨first, arcs, ho, ht⟩ <;>
    rcases h'.text_cases with ⟨ho', ht'⟩ | ⟨hlength', ht'⟩ | ⟨first', arcs', ho', ht'⟩ <;>
    rw [ht, ht'] at heq
  · rw [ho, ho']
  · exact absurd (heq ▸ blank_mem_row hlength') hzero.2
  · exact absurd (heq ▸ dot_mem_dotted _ _ _) hzero.1
  · exact absurd (heq ▸ blank_mem_row hlength) hzero.2
  · refine row_injective ?_ ?_ heq
    · exact List.ne_nil_of_length_pos (by omega)
    · exact List.ne_nil_of_length_pos (by omega)
  · exact absurd (heq ▸ blank_mem_row hlength) (blank_notMem_dotted _)
  · exact absurd (heq ▸ dot_mem_dotted _ _ _) hzero.1
  · exact absurd (heq ▸ blank_mem_row hlength') (blank_notMem_dotted _)
  · have harcs := dotted_injective (List.cons_ne_nil _ _) (List.cons_ne_nil _ _) heq
    simp only [List.cons.injEq] at harcs
    obtain ⟨hhigh, hlow, rfl⟩ := harcs
    have hfirst : first = first' := UInt8.toNat_inj.mp (by omega)
    rw [ho, ho', hfirst]

example : (ofArcs [1, 2, 840, 113549]).IsShortest := ⟨0x2A, [840, 113549], by decide +kernel⟩

-- An octet in front of the second arc that says nothing.
example : text ⟨[0x2A, 0x80, 3]⟩ = text ⟨[0x2A, 3]⟩ := by decide +kernel

end Oid

end RevocationCheck
