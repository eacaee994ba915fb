import RevocationCheck.Proofs.DottedText
import RevocationCheck.X509.Name

/-!
# What the text of a name says

In the text of a name each attribute stands as its key, an equals sign and the text of its value.
Nothing in the text is quoted, so that a value can look like further attributes: it has a *false
start* if it contains a separator, a key and an equals sign in a row.  Where no value has one, the
text says which keys and value texts there are and how they are grouped
(`Reading.textOf_injective`).

The keys come from a registry, of which little is asked (`Registry.IsReadable`): they have no sign
that opens an attribute, and none passes for a dotted identifier.  What a key says of its type is
`Registry.key_eq_iff_alike`.

The argument goes along the text.  Each attribute opens with a separator, a key and an equals
sign.  If two texts agree and a value of the one ends later than that of the other, then the longer
value contains an opening, or what is behind the first sign of an opening begins with a separator.
Without false starts the former is excluded, and the latter by the signs that keys are made of
(`value_append_spell_injective`).
-/

namespace RevocationCheck.X509

/-! ### Keys -/

/-- A sign that no key contains. -/
def IsMark (c : Char) : Prop := c = '=' ∨ c = ',' ∨ c = '+'

instance (c : Char) : Decidable (IsMark c) := inferInstanceAs (Decidable (_ ∨ _))

theorem not_isMark_of_isTextSign {c : Char} (h : Oid.IsTextSign c) : ¬ IsMark c := by
  rintro (rfl | rfl | rfl) <;> revert h <;> simp [Oid.IsTextSign] <;> decide

namespace Registry

/-- What a registry must be like for names to be readable. -/
structure IsReadable (registry : Registry) : Prop where
  /-- No key contains a mark. -/
  unmarked : ∀ type key, registry.key? type = some key → ∀ c ∈ key.toList, ¬ IsMark c
  /-- No key looks like a dotted identifier. -/
  undotted : ∀ type key, registry.key? type = some key → ¬ "OID(".toList <+: key.toList

theorem key_of_some {registry : Registry} {type : Oid} {key : String}
    (h : registry.key? type = some key) : registry.key type = key := by
  rw [Registry.key, h, Option.getD_some]

theorem key_of_none {registry : Registry} {type : Oid} (h : registry.key? type = none) :
    registry.key type = "OID(" ++ type.text ++ ")" := by
  rw [Registry.key, h, Option.getD_none]

variable {registry : Registry}

theorem IsReadable.not_isMark (readable : registry.IsReadable) {type : Oid} {c : Char}
    (h : c ∈ (registry.key type).toList) : ¬ IsMark c := by
  cases hkey : registry.key? type with
  | some key => exact readable.unmarked type key hkey c (key_of_some hkey ▸ h)
  | none =>
      have hc : (c = 'O' ∨ c = 'I' ∨ c = 'D' ∨ c = '(') ∨ c ∈ type.text.toList ∨ c = ')' := by
        simpa [key_of_none hkey, or_assoc] using h
      rcases hc with (rfl | rfl | rfl | rfl) | htext | rfl
      · decide
      · decide
      · decide
      · decide
      · exact not_isMark_of_isTextSign (Oid.isTextSign_of_mem_text htext)
      · decide

/-- A registered key is not that of a type without one. -/
theorem IsReadable.key_ne (readable : registry.IsReadable) {type other : Oid} {key : String}
    (hkey : registry.key? type = some key) (hnone : registry.key? other = none) :
    registry.key type ≠ registry.key other := by
  intro heq
  rw [key_of_some hkey, key_of_none hnone] at heq
  refine readable.undotted type key hkey ?_
  rw [heq, String.toList_append, String.toList_append, List.append_assoc]
  exact List.prefix_append _ _

/-- Two types that have one key. -/
inductive Alike (registry : Registry) : Oid → Oid → Prop
  | same (type : Oid) : Alike registry type type
  /-- Both are registered with this key. -/
  | registered {type other : Oid} {key : String} (left : registry.key? type = some key)
      (right : registry.key? other = some key) : Alike registry type other
  /-- Neither is registered, and one of them is padded, so that the dotted texts are the same. -/
  | padded {type other : Oid} (left : registry.key? type = none)
      (right : registry.key? other = none) (text : type.text = other.text)
      (padding : ¬ (type.IsShortest ∧ other.IsShortest)) : Alike registry type other

theorem key_eq_iff_alike (readable : registry.IsReadable) {type other : Oid} :
    registry.key type = registry.key other ↔ registry.Alike type other := by
  constructor
  · intro h
    cases htype : registry.key? type with
    | some key =>
        cases hother : registry.key? other with
        | some key' =>
            rw [key_of_some htype, key_of_some hother] at h
            exact .registered htype (h ▸ hother)
        | none => exact absurd h (readable.key_ne htype hother)
    | none =>
        cases hother : registry.key? other with
        | some key' => exact absurd h.symm (readable.key_ne hother htype)
        | none =>
            rw [key_of_none htype, key_of_none hother] at h
            have htext : type.text = other.text := by simpa [← String.toList_inj] using h
            by_cases hshort : type.IsShortest ∧ other.IsShortest
            · exact hshort.1.eq_of_text_eq hshort.2 htext ▸ .same type
            · exact .padded htype hother htext hshort
  · intro h
    cases h with
    | same => rfl
    | registered left right => rw [key_of_some left, key_of_some right]
    | padded left right text => rw [key_of_none left, key_of_none right, text]

theorem exists_mem_of_known {type : Oid} {key : String} (h : known.key? type = some key) :
    ∃ entry ∈ attributeKeys, entry.2 = key := by
  obtain ⟨entry, hfound, hkey⟩ := Option.map_eq_some_iff.mp h
  exact ⟨entry, List.mem_of_find?_eq_some hfound, hkey⟩

theorem isReadable_known : known.IsReadable where
  unmarked type key h := by
    -- As a test of lists, since a statement over all characters would go through all there are.
    have table : attributeKeys.all (fun entry => entry.2.toList.all (¬ IsMark ·)) = true := by
      decide +kernel
    obtain ⟨entry, hmem, rfl⟩ := exists_mem_of_known h
    intro c hc
    exact of_decide_eq_true (List.all_eq_true.mp (List.all_eq_true.mp table entry hmem) c hc)
  undotted type key h := by
    have table : ∀ entry ∈ attributeKeys, ¬ "OID(".toList <+: entry.2.toList := by
      decide +kernel
    obtain ⟨entry, hmem, rfl⟩ := exists_mem_of_known h
    exact table entry hmem

end Registry

/-! ### Readings -/

/-- What the text of a name says of an attribute. -/
structure Reading where
  key : String
  value : String
deriving Repr, DecidableEq

namespace Reading

/-- The text of an attribute. -/
def text (r : Reading) : String := r.key ++ "=" ++ r.value

end Reading

/-- What stands in front of an attribute. -/
inductive Separator
  /-- In front of the first attribute of a relative name. -/
  | nextName
  /-- In front of any other. -/
  | nextAttribute
deriving Repr, DecidableEq

def Separator.text : Separator → String
  | .nextName => ", "
  | .nextAttribute => " + "

/-- The beginning of an attribute with a key, up to its value. -/
def opening (separator : Separator) (key : String) : List Char :=
  separator.text.toList ++ key.toList ++ ['=']

/-- Does a text contain what looks like the beginning of an attribute? -/
def HasFalseStart (registry : Registry) (text : String) : Prop :=
  ∃ separator type, opening separator (registry.key type) <:+: text.toList

variable {registry : Registry}

theorem not_hasFalseStart_of_notMem {text : String} (h : '=' ∉ text.toList) :
    ¬ HasFalseStart registry text := by
  rintro ⟨separator, type, hwithin⟩
  exact h (hwithin.subset (by simp [opening]))

/-- A reading of an attribute whose value has no false start. -/
structure Reading.IsPlain (registry : Registry) (r : Reading) : Prop where
  key : ∃ type, r.key = registry.key type
  value : ¬ HasFalseStart registry r.value

/-! ### Unique readability -/

/-- The text of attributes, each behind its separator. -/
def spell (pieces : List (Separator × Reading)) : List Char :=
  pieces.flatMap fun piece => opening piece.1 piece.2.key ++ piece.2.value.toList

theorem spell_cons (separator : Separator) (r : Reading) (rest : List (Separator × Reading)) :
    spell ((separator, r) :: rest) =
      opening separator r.key ++ (r.value.toList ++ spell rest) := by
  simp [spell]

/-- Does a row of signs begin with a separator? -/
def StartsWithSeparator (signs : List Char) : Prop :=
  ∃ separator : Separator, separator.text.toList <+: signs

theorem startsWithSeparator_spell {pieces : List (Separator × Reading)} (h : pieces ≠ []) :
    StartsWithSeparator (spell pieces) := by
  obtain ⟨⟨separator, r⟩, rest, rfl⟩ := List.exists_cons_of_ne_nil h
  rw [spell_cons, opening, List.append_assoc, List.append_assoc]
  exact ⟨separator, List.prefix_append _ _⟩

/-- What is behind the first sign of an opening begins with a plus sign or is a part of a blank, a
key and an equals sign. -/
theorem back_of_opening {separator : Separator} {key : String} {front back : List Char}
    (h : opening separator key = front ++ back) (hfront : front ≠ []) :
    back.head? = some '+' ∨ ∃ between, between ++ back = ' ' :: key.toList ++ ['='] := by
  obtain ⟨first, front, rfl⟩ := List.exists_cons_of_ne_nil hfront
  cases separator with
  | nextName =>
      have htail : ' ' :: key.toList ++ ['='] = front ++ back :=
        (List.cons.inj (h : ',' :: (' ' :: key.toList ++ ['=']) = first :: (front ++ back))).2
      exact .inr ⟨front, htail.symm⟩
  | nextAttribute =>
      have htail : '+' :: (' ' :: key.toList ++ ['=']) = front ++ back :=
        (List.cons.inj (h : ' ' :: '+' :: (' ' :: key.toList ++ ['=']) =
          first :: (front ++ back))).2
      cases front with
      | nil =>
          rw [List.nil_append] at htail
          exact .inl (by rw [← htail, List.head?_cons])
      | cons second front => exact .inr ⟨front, (List.cons.inj htail).2.symm⟩

/-- What is behind the first sign of an opening does not begin with a separator. -/
theorem not_startsWithSeparator {separator : Separator} {key : String}
    {front back rest : List Char} (hkey : ∀ c ∈ key.toList, ¬ IsMark c)
    (h : opening separator key = front ++ back) (hfront : front ≠ []) (hback : back ≠ []) :
    ¬ StartsWithSeparator (back ++ rest) := by
  rintro ⟨other, behind, hother⟩
  obtain ⟨x, back, rfl⟩ := List.exists_cons_of_ne_nil hback
  rcases back_of_opening h hfront with hplus | ⟨between, hbetween⟩
  · have hx : x = '+' := by simpa using hplus
    cases other <;> simp [Separator.text, hx] at hother
  · have hsigns : ∀ c ∈ x :: back, c ≠ ',' ∧ c ≠ '+' := by
      intro c hc
      have hmem : c ∈ ' ' :: key.toList ++ ['='] := hbetween ▸ List.mem_append_right between hc
      have hcases : c = ' ' ∨ c ∈ key.toList ∨ c = '=' := by simpa using hmem
      rcases hcases with rfl | hc | rfl
      · decide
      · exact ⟨fun heq => hkey c hc (.inr (.inl heq)), fun heq => hkey c hc (.inr (.inr heq))⟩
      · decide
    cases other with
    | nextName =>
        have hx : ',' = x := (List.cons.inj hother).1
        exact (hsigns x List.mem_cons_self).1 hx.symm
    | nextAttribute =>
        have htail : '+' :: ' ' :: behind = back ++ rest := (List.cons.inj hother).2
        cases back with
        | nil =>
            -- A blank alone is not the end of an opening, which is an equals sign.
            have hx : ' ' = x := (List.cons.inj hother).1
            have hlast := congrArg List.getLast? hbetween
            rw [List.getLast?_concat, List.getLast?_concat, ← hx] at hlast
            exact absurd hlast (by decide)
        | cons y back =>
            have hy : '+' = y := (List.cons.inj htail).1
            exact (hsigns y (by simp)).2 hy.symm

/-- If attributes spell other attributes behind some signs, then these signs begin with an
opening. -/
theorem opening_of_spell_eq_append {pieces others : List (Separator × Reading)}
    {signs : List Char} (hkeys : ∀ piece ∈ pieces, ∀ c ∈ piece.2.key.toList, ¬ IsMark c)
    (hsigns : signs ≠ []) (h : spell pieces = signs ++ spell others) :
    ∃ piece ∈ pieces, opening piece.1 piece.2.key <+: signs := by
  cases pieces with
  | nil =>
      have hnil : signs ++ spell others = [] := h.symm
      exact absurd (List.append_eq_nil_iff.mp hnil).1 hsigns
  | cons piece rest =>
      obtain ⟨separator, r⟩ := piece
      refine ⟨(separator, r), List.mem_cons_self, ?_⟩
      rw [spell_cons] at h
      -- The first opening ends within the signs, or its end is where the other attributes begin.
      rcases List.append_eq_append_iff.mp h with ⟨behind, hbehind, _⟩ | ⟨back, hopening, hback⟩
      · exact ⟨behind, hbehind.symm⟩
      · by_cases hnil : back = []
        · rw [hnil, List.append_nil] at hopening
          exact hopening ▸ List.prefix_rfl
        · have hothers : others ≠ [] := by
            rintro rfl
            exact hnil (List.append_eq_nil_iff.mp hback.symm).1
          have hstarts := startsWithSeparator_spell hothers
          rw [hback] at hstarts
          exact absurd hstarts (not_startsWithSeparator (hkeys _ List.mem_cons_self) hopening
            hsigns hnil)

theorem Reading.IsPlain.not_isMark {r : Reading} (readable : registry.IsReadable)
    (h : r.IsPlain registry) : ∀ c ∈ r.key.toList, ¬ IsMark c := by
  obtain ⟨type, hkey⟩ := h.key
  rw [hkey]
  exact fun c => readable.not_isMark

/-- A value without a false start ends where the next attribute begins. -/
theorem eq_nil_of_spell_eq_append (readable : registry.IsReadable)
    {pieces others : List (Separator × Reading)} {value : String} {front signs : List Char}
    (hplain : ∀ piece ∈ pieces, piece.2.IsPlain registry)
    (hvalue : ¬ HasFalseStart registry value) (hsigns : value.toList = front ++ signs)
    (h : spell pieces = signs ++ spell others) : signs = [] := by
  by_contra hne
  obtain ⟨piece, hmem, hopening⟩ :=
    opening_of_spell_eq_append (fun piece hmem => (hplain piece hmem).not_isMark readable) hne h
  obtain ⟨type, hkey⟩ := (hplain piece hmem).key
  refine hvalue ⟨piece.1, type, ?_⟩
  rw [hsigns, ← hkey]
  exact hopening.isInfix.trans (List.suffix_append front signs).isInfix

/-- A value without a false start can be cut off from the attributes behind it. -/
theorem value_append_spell_injective (readable : registry.IsReadable)
    {pieces others : List (Separator × Reading)} {value value' : String}
    (hplain : ∀ piece ∈ pieces, piece.2.IsPlain registry)
    (hplain' : ∀ piece ∈ others, piece.2.IsPlain registry)
    (hvalue : ¬ HasFalseStart registry value) (hvalue' : ¬ HasFalseStart registry value')
    (h : value.toList ++ spell pieces = value'.toList ++ spell others) :
    value = value' ∧ spell pieces = spell others := by
  rcases List.append_eq_append_iff.mp h with ⟨signs, hsigns, hspell⟩ | ⟨signs, hsigns, hspell⟩
  · obtain rfl := eq_nil_of_spell_eq_append readable hplain hvalue' hsigns hspell
    rw [List.append_nil] at hsigns
    exact ⟨String.toList_inj.mp hsigns.symm, hspell⟩
  · obtain rfl := eq_nil_of_spell_eq_append readable hplain' hvalue hsigns hspell
    rw [List.append_nil] at hsigns
    exact ⟨String.toList_inj.mp hsigns, hspell.symm⟩

/-- The signs in front of the first mark end where the mark is. -/
theorem append_mark_injective {mark : Char} {front front' back back' : List Char}
    (hfront : mark ∉ front) (hfront' : mark ∉ front')
    (h : front ++ mark :: back = front' ++ mark :: back') : front = front' ∧ back = back' := by
  induction front generalizing front' with
  | nil =>
      cases front' with
      | nil => exact ⟨rfl, (List.cons.inj h).2⟩
      | cons c front' =>
          have hc : mark = c := (List.cons.inj h).1
          exact absurd (hc ▸ List.mem_cons_self) hfront'
  | cons c front ih =>
      cases front' with
      | nil =>
          have hc : c = mark := (List.cons.inj h).1
          exact absurd (hc ▸ List.mem_cons_self) hfront
      | cons d front' =>
          obtain ⟨rfl, htail⟩ := List.cons.inj h
          obtain ⟨rfl, hback⟩ := ih (List.not_mem_of_not_mem_cons hfront)
            (List.not_mem_of_not_mem_cons hfront') htail
          exact ⟨rfl, hback⟩

/-- An opening can be cut off from what is behind it. -/
theorem opening_append_injective {separator separator' : Separator} {key key' : String}
    {rest rest' : List Char} (hkey : ∀ c ∈ key.toList, ¬ IsMark c)
    (hkey' : ∀ c ∈ key'.toList, ¬ IsMark c)
    (h : opening separator key ++ rest = opening separator' key' ++ rest') :
    separator = separator' ∧ key = key' ∧ rest = rest' := by
  have hequals : ∀ {k : String}, (∀ c ∈ k.toList, ¬ IsMark c) → '=' ∉ k.toList :=
    fun hk hmem => hk '=' hmem (.inl rfl)
  have hseparator : separator = separator' := by
    cases separator <;> cases separator' <;> simp [opening, Separator.text] at h ⊢
  subst hseparator
  simp only [opening, List.append_assoc, List.singleton_append, List.append_cancel_left_eq] at h
  obtain ⟨hkeys, hrest⟩ := append_mark_injective (hequals hkey) (hequals hkey') h
  exact ⟨rfl, String.toList_inj.mp hkeys, hrest⟩

/-- Attributes can be read back from their text if no value has a false start. -/
theorem spell_injective (readable : registry.IsReadable)
    {pieces others : List (Separator × Reading)}
    (hplain : ∀ piece ∈ pieces, piece.2.IsPlain registry)
    (hplain' : ∀ piece ∈ others, piece.2.IsPlain registry)
    (h : spell pieces = spell others) : pieces = others := by
  have hne : ∀ (piece : Separator × Reading) (rest : List (Separator × Reading)),
      spell (piece :: rest) ≠ [] := by
    intro piece rest
    simp [spell, opening]
  induction pieces generalizing others with
  | nil =>
      cases others with
      | nil => rfl
      | cons piece rest => exact absurd h.symm (hne piece rest)
  | cons piece rest ih =>
      cases others with
      | nil => exact absurd h (hne piece rest)
      | cons other rest' =>
          obtain ⟨hpiece, hrest⟩ := List.forall_mem_cons.mp hplain
          obtain ⟨hother, hrest'⟩ := List.forall_mem_cons.mp hplain'
          obtain ⟨separator, key, value⟩ := piece
          obtain ⟨separator', key', value'⟩ := other
          rw [spell_cons, spell_cons] at h
          -- The opening is cut off first, then the value; the induction is on what is left.
          obtain ⟨rfl, hkeys, hback⟩ :=
            opening_append_injective (hpiece.not_isMark readable) (hother.not_isMark readable) h
          obtain ⟨hvalues, hspell⟩ :=
            value_append_spell_injective readable hrest hrest' hpiece.value hother.value hback
          cases hkeys
          cases hvalues
          rw [ih hrest hrest' hspell]

/-! ### Relative names -/

/-- The items of a group, each with what stands in front of it. -/
def mark {α : Type} : List α → List (Separator × α)
  | [] => []
  | first :: others => (.nextName, first) :: others.map (Separator.nextAttribute, ·)

section Groups

variable {α : Type} {group : List α} {groups others : List (List α)}

theorem head?_flatMap_mark {piece : Separator × α}
    (h : (groups.flatMap mark).head? = some piece) : piece.1 = .nextName := by
  induction groups with
  | nil => cases h
  | cons group groups ih =>
      cases group with
      | nil => exact ih h
      | cons first rest =>
          have hpiece : (Separator.nextName, first) = piece := Option.some.inj h
          rw [← hpiece]

/-- A group ends in front of the next first attribute. -/
theorem marked_append_injective {items items' : List α}
    (h : items.map (Separator.nextAttribute, ·) ++ groups.flatMap mark =
      items'.map (Separator.nextAttribute, ·) ++ others.flatMap mark) :
    items = items' ∧ groups.flatMap mark = others.flatMap mark := by
  induction items generalizing items' with
  | nil =>
      cases items' with
      | nil => exact ⟨rfl, h⟩
      | cons item items' =>
          have hhead : (groups.flatMap mark).head? = some (Separator.nextAttribute, item) :=
            congrArg List.head? h
          cases head?_flatMap_mark hhead
  | cons item items ih =>
      cases items' with
      | nil =>
          have hhead : (others.flatMap mark).head? = some (Separator.nextAttribute, item) :=
            congrArg List.head? h.symm
          cases head?_flatMap_mark hhead
      | cons item' items' =>
          obtain ⟨hitem, htail⟩ := List.cons.inj h
          cases hitem
          obtain ⟨rfl, hrest⟩ := ih htail
          exact ⟨rfl, hrest⟩

/-- Groups that are not empty can be told from what stands in front of their items. -/
theorem flatMap_mark_injective (hne : ∀ group ∈ groups, group ≠ [])
    (hne' : ∀ group ∈ others, group ≠ []) (h : groups.flatMap mark = others.flatMap mark) :
    groups = others := by
  have hmark : ∀ (group : List α) (rest : List (List α)), group ≠ [] →
      (group :: rest).flatMap mark ≠ [] := by
    intro group rest hgroup
    obtain ⟨first, items, rfl⟩ := List.exists_cons_of_ne_nil hgroup
    simp [mark]
  induction groups generalizing others with
  | nil =>
      cases others with
      | nil => rfl
      | cons other others =>
          exact absurd h.symm (hmark other others (hne' other List.mem_cons_self))
  | cons group groups ih =>
      cases others with
      | nil => exact absurd h (hmark group groups (hne group List.mem_cons_self))
      | cons other others =>
          obtain ⟨hgroup, hgroups⟩ := List.forall_mem_cons.mp hne
          obtain ⟨hother, hothers⟩ := List.forall_mem_cons.mp hne'
          obtain ⟨first, items, rfl⟩ := List.exists_cons_of_ne_nil hgroup
          obtain ⟨first', items', rfl⟩ := List.exists_cons_of_ne_nil hother
          -- The rest of the first group ends at the next item that is a first one.
          obtain ⟨hfirst, htail⟩ := List.cons.inj
            (h : (Separator.nextName, first) :: (items.map (Separator.nextAttribute, ·) ++
              groups.flatMap mark) = (Separator.nextName, first') ::
                (items'.map (Separator.nextAttribute, ·) ++ others.flatMap mark))
          obtain ⟨rfl, hrest⟩ := marked_append_injective htail
          cases hfirst
          rw [ih hgroups hothers hrest]

end Groups

theorem mem_of_mem_mark {α : Type} {group : List α} {piece : Separator × α}
    (h : piece ∈ mark group) : piece.2 ∈ group := by
  cases group with
  | nil => cases h
  | cons first others =>
      rcases List.mem_cons.mp h with rfl | hmem
      · exact List.mem_cons_self
      · obtain ⟨item, hitem, rfl⟩ := List.mem_map.mp hmem
        exact List.mem_cons_of_mem first hitem

namespace Reading

/-- The text of the attributes of relative names. -/
def textOf (groups : List (List Reading)) : String :=
  ", ".intercalate (groups.map fun group => " + ".intercalate (group.map text))

theorem toList_text (r : Reading) : r.text.toList = r.key.toList ++ ['='] ++ r.value.toList := by
  simp [text]

/-- The text of a relative name behind a comma is the one of its attributes behind their
separators. -/
theorem spell_mark {group : List Reading} (h : group ≠ []) :
    spell (mark group) = Separator.nextName.text.toList ++
      (" + ".intercalate (group.map text)).toList := by
  obtain ⟨first, others, rfl⟩ := List.exists_cons_of_ne_nil h
  have hothers : spell (others.map (Separator.nextAttribute, ·)) =
      (others.map text).flatMap fun part => " + ".toList ++ part.toList := by
    simp only [spell, List.flatMap_map, toList_text, opening, Separator.text, List.append_assoc]
  rw [mark, spell_cons, hothers, String.toList_intercalate, List.map_cons, List.map_cons,
    intercalate_cons, toList_text]
  simp only [opening, List.append_assoc, List.flatMap_map]

/-- Behind a comma, the text of relative names is the one of their attributes behind their
separators. -/
theorem spell_flatMap_mark {groups : List (List Reading)} (hne : groups ≠ [])
    (hgroups : ∀ group ∈ groups, group ≠ []) :
    spell (groups.flatMap mark) = Separator.nextName.text.toList ++ (textOf groups).toList := by
  have hspell : spell (groups.flatMap mark) = groups.flatMap fun group =>
      Separator.nextName.text.toList ++ (" + ".intercalate (group.map text)).toList := by
    rw [spell, List.flatMap_assoc]
    exact List.flatMap_congr fun group hmem => spell_mark (hgroups group hmem)
  obtain ⟨group, rest, rfl⟩ := List.exists_cons_of_ne_nil hne
  rw [hspell, textOf, String.toList_intercalate, List.map_cons, List.map_cons, intercalate_cons,
    List.flatMap_cons, List.flatMap_map, List.flatMap_map, List.append_assoc]
  rfl

/-- A name with attributes has an equals sign in its text. -/
theorem equals_mem_textOf {groups : List (List Reading)} (hne : groups ≠ [])
    (hgroups : ∀ group ∈ groups, group ≠ []) : '=' ∈ (textOf groups).toList := by
  obtain ⟨group, rest, rfl⟩ := List.exists_cons_of_ne_nil hne
  obtain ⟨first, others, rfl⟩ := List.exists_cons_of_ne_nil (hgroups group List.mem_cons_self)
  simp [textOf, String.toList_intercalate, intercalate_cons, text]

/-- The text of relative names that are not empty says what they are, if no value has a false
start. -/
theorem textOf_injective (readable : registry.IsReadable) {groups others : List (List Reading)}
    (hgroups : ∀ group ∈ groups, group ≠ []) (hothers : ∀ group ∈ others, group ≠ [])
    (hplain : ∀ group ∈ groups, ∀ r ∈ group, r.IsPlain registry)
    (hplain' : ∀ group ∈ others, ∀ r ∈ group, r.IsPlain registry)
    (h : textOf groups = textOf others) : groups = others := by
  -- A name without attributes is told apart by its text, which has no equals sign.
  have hempty : '=' ∉ (textOf []).toList := by decide
  have hpieces : ∀ groups : List (List Reading),
      (∀ group ∈ groups, ∀ r ∈ group, r.IsPlain registry) →
      ∀ piece ∈ groups.flatMap mark, piece.2.IsPlain registry := by
    intro groups hall piece hpiece
    obtain ⟨group, hmem, hmark⟩ := List.mem_flatMap.mp hpiece
    exact hall group hmem piece.2 (mem_of_mem_mark hmark)
  by_cases hne : groups = []
  · by_cases hne' : others = []
    · rw [hne, hne']
    · rw [hne] at h
      exact absurd (h ▸ equals_mem_textOf hne' hothers) hempty
  · by_cases hne' : others = []
    · rw [hne'] at h
      exact absurd (h ▸ equals_mem_textOf hne hgroups) hempty
    · have hspell : spell (groups.flatMap mark) = spell (others.flatMap mark) := by
        rw [spell_flatMap_mark hne hgroups, spell_flatMap_mark hne' hothers, h]
      exact flatMap_mark_injective hgroups hothers
        (spell_injective readable (hpieces groups hplain) (hpieces others hplain') hspell)

end Reading

end RevocationCheck.X509
