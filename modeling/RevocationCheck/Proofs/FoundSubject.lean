import Mathlib.Data.List.Forall2
import RevocationCheck.Proofs.DecodedChains
import RevocationCheck.Proofs.IssuerRank
import RevocationCheck.Proofs.ReadableNames

/-!
# The subject of the issuer that is found

Without a serialNumber an issuer is found by the text of its name.  A name that has been read has
no empty relative names, and then its text says which attributes it has, up to what the text leaves
out (`found_subject_reads_as_wanted`):

* the names with a string that does not decode all have one text;
* a value with a false start looks like further attributes;
* a value that is no string looks like the string of its hexadecimal digits;
* a type that is not registered looks the same with and without padding in its octets;
* types that are registered with one key look the same.

For each of the first four there is a certificate that is found under the name of another issuer
(`found_under_another_name`).  The last is up to the registry, of which no more is asked than that
names are readable with it.
-/

namespace RevocationCheck

namespace Text.Hex

theorem value?_toUpper_digit {n : Nat} (h : n < 16) : value? (digit n).toUpper = some n := by
  have all : ∀ m ∈ List.range 16, value? (digit m).toUpper = some m := by decide
  exact all n (List.mem_range.mpr h)

theorem decode?_encodeUpper (bs : Octets) : decode? (encodeUpper bs) = some bs := by
  rw [decode?, encodeUpper, String.toList_ofList]
  induction bs with
  | nil => rfl
  | cons b rest ih =>
      have hb := b.toNat_lt
      have hhigh : b.toNat / 16 < 16 := by omega
      have hlow : b.toNat % 16 < 16 := by omega
      simp only [encodeChars, octetChars, List.cons_append, List.nil_append, List.map_cons,
        decodeChars, value?_toUpper_digit hhigh, value?_toUpper_digit hlow, ih]
      rw [Nat.div_add_mod, UInt8.ofNat_toNat]

end Text.Hex

namespace Der

theorem exists_read_of_mem_readMany {α ε : Type} {item : Octets → Except ε (α × Octets)}
    {bs : Octets} {a : α} (h : a ∈ (readMany item bs).1) :
    ∃ front rest, item front = .ok (a, rest) := by
  fun_induction readMany item bs with
  | case1 bs fault hitem => cases h
  | case2 bs first rest hitem shorter others final hothers ih =>
      rcases List.mem_cons.mp h with rfl | hmem
      · exact ⟨bs, rest, hitem⟩
      · exact ih (by rw [hothers]; exact hmem)
  | case3 bs first rest hitem hlong => cases h

end Der

namespace X509

/-! ### Names that have been read -/

/-- No relative name is empty. -/
def Name.IsProper (name : Name) : Prop := ∀ attributes ∈ name.relativeNames, attributes ≠ []

theorem ne_nil_of_readRelativeName {bs rest : Octets} {attributes : List Attribute}
    (h : readRelativeName bs = .ok (attributes, rest)) : attributes ≠ [] := by
  obtain ⟨⟨content, behind⟩, _, h⟩ := Der.bind_eq_ok_iff.mp h
  cases hmany : (Der.readMany Attribute.read content).1 with
  | nil => simp [hmany] at h
  | cons first others =>
      have hall : first :: others = attributes ∧ behind = rest := by simpa [hmany] using h
      rw [← hall.1]
      exact List.cons_ne_nil first others

theorem Name.isProper_of_read {name : Name} {bs rest : Octets}
    (h : Name.read bs = .ok (name, rest)) : name.IsProper := by
  obtain ⟨⟨content, behind⟩, _, h⟩ := Der.bind_eq_ok_iff.mp h
  cases h
  intro attributes hmem
  obtain ⟨front, rest, hread⟩ := Der.exists_read_of_mem_readMany hmem
  exact ne_nil_of_readRelativeName hread

/-- The names of a certificate have been read. -/
theorem Certificate.names_of_decode {c : Certificate} {der : Octets}
    (h : Certificate.decode der = .ok c) :
    (∃ bs rest, Name.read bs = .ok (c.issuer, rest)) ∧
      ∃ bs rest, Name.read bs = .ok (c.subject, rest) := by
  obtain ⟨⟨_, rest⟩, hread, rfl⟩ := Der.map_eq_ok_iff.mp h
  simp only [Certificate.read, Der.bind_eq_ok_iff, Prod.exists, orFault_eq_ok_iff,
    Except.ok.injEq, Prod.mk.injEq] at hread
  -- In the order of the reader: two sequences, version, serial number and algorithm first.
  obtain ⟨_, _, _, _, _, _, hread⟩ := hread
  obtain ⟨_, _, _, _, _, _, _, _, _, hread⟩ := hread
  obtain ⟨issuer, _, hissuer, _, _, _, _, subject, _, hsubject, hread⟩ := hread
  obtain ⟨_, _, _, _, _, _, _, _, _, _, _, _, rfl, _⟩ := hread
  exact ⟨⟨_, _, hissuer⟩, ⟨_, _, hsubject⟩⟩

theorem Name.serialNumber_of_none {name : Name}
    (h : ∀ a ∈ name.attributes, a.type.text ≠ "2.5.4.5") : name.serialNumber = "" := by
  have hnone : (name.attributes.find? fun a => a.type.text = "2.5.4.5") = none :=
    List.find?_eq_none.mpr (by simpa using h)
  rw [Name.serialNumber, hnone]

/-! ### What the text of a name says -/

/-- What the text of a name says of an attribute whose value has a text. -/
def Attribute.reading (registry : Registry) (a : Attribute) : Reading :=
  ⟨registry.key a.type, (Attribute.valueText? a.value).getD ""⟩

/-- What the text of a name says of its relative names. -/
def Name.readings (registry : Registry) (name : Name) : List (List Reading) :=
  name.relativeNames.map fun attributes => attributes.map (Attribute.reading registry)

/-- Do all values of a name have a text? -/
def Name.IsDisplayed (name : Name) : Prop :=
  ∀ attributes ∈ name.relativeNames, ∀ a ∈ attributes, Attribute.valueText? a.value ≠ none

/-- No value has a false start. -/
def Name.IsPlain (registry : Registry) (name : Name) : Prop :=
  ∀ attributes ∈ name.relativeNames, ∀ a ∈ attributes, ∀ text,
    Attribute.valueText? a.value = some text → ¬ HasFalseStart registry text

section Map

variable {α β : Type} {f : α → Option β} {items : List α}

theorem mapM_of_forall_some {g : α → β} (h : ∀ a ∈ items, f a = some (g a)) :
    items.mapM f = some (items.map g) := by
  induction items with
  | nil => rfl
  | cons a rest ih =>
      obtain ⟨ha, hrest⟩ := List.forall_mem_cons.mp h
      rw [List.mapM_cons, ha, ih hrest]
      rfl

theorem mapM_of_exists_none (h : ∃ a ∈ items, f a = none) : items.mapM f = none := by
  induction items with
  | nil => simp at h
  | cons a rest ih =>
      rw [List.mapM_cons]
      cases hfirst : f a with
      | none => rfl
      | some b =>
          have hrest : ∃ a ∈ rest, f a = none := by simpa [hfirst] using h
          rw [ih hrest]
          rfl

/-- Lists with the same images have items that are related one by one, if items with the same
image are. -/
theorem forall₂_of_map_eq {γ : Type} {R : α → α → Prop} {g : α → γ} {items others : List α}
    (h : items.map g = others.map g)
    (hrel : ∀ a ∈ items, ∀ b ∈ others, g a = g b → R a b) : List.Forall₂ R items others := by
  induction items generalizing others with
  | nil =>
      cases others with
      | nil => exact .nil
      | cons b others => cases h
  | cons a items ih =>
      cases others with
      | nil => cases h
      | cons b others =>
          obtain ⟨hfirst, hrest⟩ := List.cons.inj h
          refine .cons (hrel a List.mem_cons_self b List.mem_cons_self hfirst) (ih hrest ?_)
          intro c hc d hd
          exact hrel c (List.mem_cons_of_mem a hc) d (List.mem_cons_of_mem b hd)

end Map

variable {registry : Registry}

theorem Attribute.textBy?_of_displayed {a : Attribute}
    (h : Attribute.valueText? a.value ≠ none) :
    a.textBy? registry = some (a.reading registry).text := by
  obtain ⟨text, htext⟩ := Option.ne_none_iff_exists'.mp h
  simp [Attribute.textBy?, Attribute.reading, Reading.text, htext]

theorem Name.textBy?_of_displayed {name : Name} (h : name.IsDisplayed) :
    name.textBy? registry = some (Reading.textOf (name.readings registry)) := by
  have hparts : name.relativeNames.mapM (fun attributes =>
      (attributes.mapM (Attribute.textBy? registry)).map (" + ".intercalate ·)) =
      some (name.relativeNames.map fun attributes =>
        " + ".intercalate ((attributes.map (Attribute.reading registry)).map Reading.text)) := by
    refine mapM_of_forall_some fun attributes hmem => ?_
    have htexts : attributes.mapM (Attribute.textBy? registry) =
        some (attributes.map fun a => (a.reading registry).text) :=
      mapM_of_forall_some fun a ha => Attribute.textBy?_of_displayed (h attributes hmem a ha)
    rw [htexts, List.map_map]
    rfl
  rw [Name.textBy?, hparts, Reading.textOf, Name.readings, List.map_map]
  rfl

theorem Name.textBy?_of_not_displayed {name : Name} (h : ¬ name.IsDisplayed) :
    name.textBy? registry = none := by
  obtain ⟨attributes, hmem, a, ha, hnone⟩ : ∃ attributes ∈ name.relativeNames,
      ∃ a ∈ attributes, Attribute.valueText? a.value = none := by
    simpa [Name.IsDisplayed] using h
  have htext : attributes.mapM (Attribute.textBy? registry) = none :=
    mapM_of_exists_none ⟨a, ha, by rw [Attribute.textBy?, hnone]; rfl⟩
  rw [Name.textBy?, mapM_of_exists_none ⟨attributes, hmem, by rw [htext]; rfl⟩]
  rfl

theorem Name.isDisplayed_iff {name : Name} :
    name.IsDisplayed ↔ name.textBy? registry ≠ none := by
  by_cases h : name.IsDisplayed
  · simp [h, Name.textBy?_of_displayed h]
  · simp [h, Name.textBy?_of_not_displayed h]

theorem Name.IsProper.readings_ne_nil {name : Name} (h : name.IsProper) :
    ∀ group ∈ name.readings registry, group ≠ [] := by
  intro group hmem
  obtain ⟨attributes, hattributes, rfl⟩ := List.mem_map.mp hmem
  simpa using h attributes hattributes

/-- The text of the names without a text is no other name's text. -/
theorem Name.textBy_ne_of_displayed {name : Name} (hproper : name.IsProper)
    (hdisplayed : name.IsDisplayed) :
    name.textBy registry ≠ "<X509Error: Invalid X.509 name>" := by
  rw [Name.textBy, Name.textBy?_of_displayed hdisplayed, Option.getD_some]
  intro heq
  by_cases hempty : name.readings registry = []
  · rw [hempty] at heq
    exact absurd heq (by decide)
  · have hequals := Reading.equals_mem_textOf hempty hproper.readings_ne_nil
    rw [heq] at hequals
    exact absurd hequals (by decide)

theorem Name.textBy?_eq_of_textBy_eq {name other : Name} (hproper : name.IsProper)
    (hproper' : other.IsProper) (h : name.textBy registry = other.textBy registry) :
    name.textBy? registry = other.textBy? registry := by
  have hnone : ∀ {name : Name}, ¬ name.IsDisplayed →
      name.textBy registry = "<X509Error: Invalid X.509 name>" := by
    intro name hname
    rw [Name.textBy, Name.textBy?_of_not_displayed hname]
    rfl
  by_cases hdisplayed : name.IsDisplayed <;> by_cases hdisplayed' : other.IsDisplayed
  · simpa [Name.textBy, Name.textBy?_of_displayed, hdisplayed, hdisplayed'] using h
  · exact absurd (h.trans (hnone hdisplayed')) (Name.textBy_ne_of_displayed hproper hdisplayed)
  · exact absurd (h.symm.trans (hnone hdisplayed))
      (Name.textBy_ne_of_displayed hproper' hdisplayed')
  · rw [Name.textBy?_of_not_displayed hdisplayed, Name.textBy?_of_not_displayed hdisplayed']

/-- Is a value a string, which is written as it reads? -/
def Attribute.IsString (value : Der.Element) : Prop :=
  value.tag ∈ textTags ∨ value.tag = tagBmpString

instance (value : Der.Element) : Decidable (Attribute.IsString value) :=
  inferInstanceAs (Decidable (_ ∨ _))

theorem Attribute.valueText?_of_not_isString {value : Der.Element} (h : ¬ IsString value) :
    valueText? value = some (Text.Hex.encodeUpper value.content) := by
  obtain ⟨htext, hbmp⟩ := not_or.mp h
  rw [valueText?, if_neg (by simpa using htext), if_neg hbmp]

/-- Two attributes that the text of a name does not tell apart. -/
structure Attribute.ReadsAs (registry : Registry) (a b : Attribute) : Prop where
  /-- The types have one key. -/
  type : registry.Alike a.type b.type
  /-- The values have the same text. -/
  text : valueText? a.value = valueText? b.value
  /-- Values that are no strings have the same octets. -/
  content : ¬ IsString a.value → ¬ IsString b.value → a.value.content = b.value.content

/-- Two attributes with the same type and the same decoded value. -/
def Attribute.IsSame (a b : Attribute) : Prop :=
  a.type = b.type ∧ (IsString a.value ↔ IsString b.value) ∧
    valueText? a.value = valueText? b.value

instance (a b : Attribute) : Decidable (Attribute.IsSame a b) :=
  inferInstanceAs (Decidable (_ ∧ _))

theorem Attribute.readsAs_of_reading_eq (readable : registry.IsReadable) {a b : Attribute}
    (ha : valueText? a.value ≠ none) (hb : valueText? b.value ≠ none)
    (h : a.reading registry = b.reading registry) : ReadsAs registry a b := by
  obtain ⟨text, htext⟩ := Option.ne_none_iff_exists'.mp ha
  obtain ⟨text', htext'⟩ := Option.ne_none_iff_exists'.mp hb
  have hkey : registry.key a.type = registry.key b.type := congrArg Reading.key h
  have hvalue : valueText? a.value = valueText? b.value := by
    have hvalues := congrArg Reading.value h
    simp only [reading, htext, htext', Option.getD_some] at hvalues
    rw [htext, htext', hvalues]
  refine ⟨(Registry.key_eq_iff_alike readable).mp hkey, hvalue, fun hstring hstring' => ?_⟩
  rw [valueText?_of_not_isString hstring, valueText?_of_not_isString hstring'] at hvalue
  have hcontent := congrArg Text.Hex.decode? (Option.some.inj hvalue)
  rw [Text.Hex.decode?_encodeUpper, Text.Hex.decode?_encodeUpper] at hcontent
  exact Option.some.inj hcontent

/-- A value without an equals sign has no false start. -/
theorem Name.isPlain_of_all {name : Name} (h : ∀ attributes ∈ name.relativeNames,
    ∀ a ∈ attributes, ∀ text ∈ Attribute.valueText? a.value, '=' ∉ text.toList) :
    name.IsPlain registry :=
  fun attributes hmem a ha text htext =>
    not_hasFalseStart_of_notMem (h attributes hmem a ha text htext)

theorem Name.IsPlain.readings {name : Name} (h : name.IsPlain registry)
    (hdisplayed : name.IsDisplayed) :
    ∀ group ∈ name.readings registry, ∀ r ∈ group, r.IsPlain registry := by
  intro group hgroup r hr
  obtain ⟨attributes, hmem, rfl⟩ := List.mem_map.mp hgroup
  obtain ⟨a, ha, rfl⟩ := List.mem_map.mp hr
  obtain ⟨text, htext⟩ := Option.ne_none_iff_exists'.mp (hdisplayed attributes hmem a ha)
  refine ⟨⟨a.type, rfl⟩, ?_⟩
  rw [Attribute.reading, htext]
  exact h attributes hmem a ha text htext

/-- The text of a name says how many relative names there are and which attributes they have. -/
theorem Name.forall₂_readsAs_of_textBy?_eq (readable : registry.IsReadable) {name other : Name}
    (hproper : name.IsProper) (hproper' : other.IsProper) (hplain : name.IsPlain registry)
    (hplain' : other.IsPlain registry) (hdisplayed : name.textBy? registry ≠ none)
    (h : name.textBy? registry = other.textBy? registry) :
    List.Forall₂ (List.Forall₂ (Attribute.ReadsAs registry)) name.relativeNames
      other.relativeNames := by
  have hname : name.IsDisplayed := Name.isDisplayed_iff.mpr hdisplayed
  have hother : other.IsDisplayed := Name.isDisplayed_iff.mpr (h ▸ hdisplayed)
  have hreadings : name.readings registry = other.readings registry := by
    rw [Name.textBy?_of_displayed hname, Name.textBy?_of_displayed hother] at h
    exact Reading.textOf_injective readable hproper.readings_ne_nil hproper'.readings_ne_nil
      (hplain.readings hname) (hplain'.readings hother) (Option.some.inj h)
  refine forall₂_of_map_eq hreadings fun attributes hmem attributes' hmem' heq => ?_
  refine forall₂_of_map_eq heq fun a ha b hb hreading => ?_
  exact Attribute.readsAs_of_reading_eq readable (hname attributes hmem a ha)
    (hother attributes' hmem' b hb) hreading

end X509

namespace Issuer

open X509 (Name Certificate Attribute Registry)

/-- What is found is a candidate that matches. -/
theorem matches_of_findBy? {registry : Registry} {wanted : Name} {candidates : List Certificate}
    {found : Certificate} (h : findBy? registry wanted candidates = some found) :
    found ∈ candidates ∧
      (matchesSerial wanted found = true ∨ matchesTextBy registry wanted found = true) := by
  obtain ⟨i, hindex, hfound⟩ := Option.bind_eq_some_iff.mp h
  obtain ⟨hi, rfl⟩ := List.getElem?_eq_some_iff.mp hfound
  refine ⟨List.getElem_mem hi, ?_⟩
  unfold findIndexBy? at hindex
  split at hindex
  case h_1 k hserial =>
    obtain rfl : k = i := Option.some.inj hindex
    exact .inl (List.findIdx?_eq_some_iff_getElem.mp hserial).2.1
  case h_2 => exact .inr (List.findIdx?_eq_some_iff_getElem.mp hindex).2.1

/-- The only candidate is found if it has a rank. -/
theorem find?_singleton {wanted : Name} {candidate : Certificate}
    (h : rank? wanted candidate ≠ none) : find? wanted [candidate] = some candidate := by
  cases hfound : find? wanted [candidate] with
  | none => exact absurd (find?_eq_none_iff.mp hfound candidate (by simp)) h
  | some found =>
      have hmem : found ∈ [candidate] := (isBestMatch_of_find? hfound).1
      rw [List.mem_singleton.mp hmem]

/-- An issuer without a serialNumber that is found has the text of the wanted name: both names have
no text, or the same one.  If the text of the wanted name is displayed and no value of the two
names has a false start, then the names have as many relative names, with as many attributes each,
and the attributes correspond in order: their types and values are the same as far as a text can
say.  This holds with every registry that makes names readable. -/
theorem found_subject_reads_as_wanted {registry : Registry} (readable : registry.IsReadable)
    {wanted : Name} {encoding behind : Octets}
    (hread : Name.read encoding = .ok (wanted, behind)) (hserial : wanted.serialNumber = "")
    {candidates : List Certificate}
    (hdecoded : ∀ candidate ∈ candidates, ∃ der, Certificate.decode der = .ok candidate)
    {found : Certificate} (hfound : findBy? registry wanted candidates = some found) :
    found ∈ candidates ∧ found.subject.textBy? registry = wanted.textBy? registry ∧
      (wanted.textBy? registry ≠ none → wanted.IsPlain registry →
        found.subject.IsPlain registry →
        List.Forall₂ (List.Forall₂ (Attribute.ReadsAs registry)) found.subject.relativeNames
          wanted.relativeNames) := by
  obtain ⟨hmem, hmatch⟩ := matches_of_findBy? hfound
  -- A match by serialNumber needs one on both sides, and the wanted name has none.
  have htext : found.subject.textBy registry = wanted.textBy registry := by
    rcases hmatch with hmatch | hmatch
    · obtain ⟨hne, heq⟩ := matchesSerial_iff.mp hmatch
      exact absurd (heq.trans hserial) hne
    · exact (matchesTextBy_iff.mp hmatch).2
  obtain ⟨der, hder⟩ := hdecoded found hmem
  obtain ⟨bs, rest, hsubject⟩ := (Certificate.names_of_decode hder).2
  have hproper : wanted.IsProper := Name.isProper_of_read hread
  have hproper' : found.subject.IsProper := Name.isProper_of_read hsubject
  have htexts : found.subject.textBy? registry = wanted.textBy? registry :=
    Name.textBy?_eq_of_textBy_eq hproper' hproper htext
  refine ⟨hmem, htexts, fun hdisplayed hplain hplain' => ?_⟩
  exact Name.forall₂_readsAs_of_textBy?_eq readable hproper' hproper hplain' hplain
    (htexts ▸ hdisplayed) htexts

/-! ### Samples -/

namespace Sample

open RevocationList (shortElement)

/-- A short name in writing. -/
def encodeName (name : Name) : Octets :=
  shortElement 0x30 <| name.relativeNames.flatMap fun attributes =>
    shortElement 0x31 <| attributes.flatMap fun a => shortElement 0x30 <|
      shortElement 0x06 a.type.octets ++ shortElement (UInt8.ofNat a.value.tag) a.value.content

/-- A certificate that says nothing but the names of its issuer and of its subject. -/
def certificate (issuer subject : Name) : Octets :=
  let algorithm := shortElement 0x30 [6, 1, 42]
  let date := shortElement 0x17 [50, 52, 48, 49, 48, 49, 48, 48, 48, 48, 48, 48, 90]
  let bits := shortElement 0x03 [0]
  let signed := shortElement 0x02 [6] ++ algorithm ++ encodeName issuer ++
    shortElement 0x30 (date ++ date) ++ encodeName subject ++ shortElement 0x30 (algorithm ++ bits)
  shortElement 0x30 (shortElement 0x30 signed ++ algorithm ++ bits)

/-- Does a certificate with two names decode, and say them? -/
def Decodes (issuer subject : Name) : Prop :=
  (Certificate.decode (certificate issuer subject)).map (fun c => (c.issuer, c.subject)) =
    .ok (issuer, subject)

theorem Decodes.exists_certificate {issuer subject : Name} (h : Decodes issuer subject) :
    ∃ c, Certificate.decode (certificate issuer subject) = .ok c ∧ c.issuer = issuer ∧
      c.subject = subject := by
  obtain ⟨c, hdecode, hnames⟩ := Der.map_eq_ok_iff.mp h
  exact ⟨c, hdecode, congrArg Prod.fst hnames, congrArg Prod.snd hnames⟩

/-- A certificate is found for a name without a serialNumber that has the text of its subject. -/
theorem exists_found {wanted subject : Name} (hissuer : Decodes wanted ⟨[]⟩)
    (hsubject : Decodes ⟨[]⟩ subject) (hserial : wanted.serialNumber = "")
    (htext : subject.text = wanted.text) :
    ∃ target candidate, Certificate.decode (certificate wanted ⟨[]⟩) = .ok target ∧
      Certificate.decode (certificate ⟨[]⟩ subject) = .ok candidate ∧
      target.issuer = wanted ∧ candidate.subject = subject ∧
      find? target.issuer [candidate] = some candidate := by
  obtain ⟨target, htarget, rfl, -⟩ := hissuer.exists_certificate
  obtain ⟨candidate, hcandidate, -, rfl⟩ := hsubject.exists_certificate
  refine ⟨target, candidate, htarget, hcandidate, rfl, rfl, find?_singleton ?_⟩
  have hrank : rank? target.issuer candidate = some 1 :=
    rank?_eq_one_iff.mpr (matchesText_iff.mpr ⟨.inr hserial, htext⟩)
  rw [hrank]
  exact Option.some_ne_none 1

/-- A common name whose value has the given tag. -/
def commonName (tag : Nat) (value : Octets) : Attribute :=
  ⟨⟨[0x55, 4, 3]⟩, .universal, false, tag, value⟩

def organization (tag : Nat) (value : Octets) : Attribute :=
  ⟨⟨[0x55, 4, 10]⟩, .universal, false, tag, value⟩

/-- `O=o, CN=CA` with two attributes. -/
def twoAttributes : Name := ⟨[[organization 12 [111]], [commonName 12 [67, 65]]]⟩

/-- `O=o, CN=CA` with one attribute, whose value has a false start. -/
def falseStart : Name := ⟨[[organization 12 [111, 44, 32, 67, 78, 61, 67, 65]]]⟩

/-- A name that cannot be displayed. -/
def undecodable : Name := ⟨[[organization 12 [111]], [commonName 12 [255]]]⟩

/-- Another name that cannot be displayed, in another organization. -/
def otherUndecodable : Name := ⟨[[organization 12 [112]], [commonName 12 [254]]]⟩

/-- `CN=AB` with an octet string. -/
def octetValue : Name := ⟨[[commonName 4 [0xAB]]]⟩

/-- `CN=AB` with a string. -/
def stringValue : Name := ⟨[[commonName 12 [65, 66]]]⟩

/-- `OID(1.2.3)=a`, whose type is not registered. -/
def dottedType : Name := ⟨[[⟨⟨[0x2A, 3]⟩, .universal, false, 12, [97]⟩]]⟩

/-- The same, with an octet in front of the last arc that says nothing. -/
def paddedType : Name := ⟨[[⟨⟨[0x2A, 0x80, 3]⟩, .universal, false, 12, [97]⟩]]⟩

/-- `CN=a, b + O=c`, where the comma is in a value and the plus sign is not. -/
def separators : Name := ⟨[[commonName 12 [97, 44, 32, 98], organization 12 [99]]]⟩

/-- The same attributes with strings of another type. -/
def printable : Name := ⟨[[commonName 19 [97, 44, 32, 98], organization 19 [99]]]⟩

/-- A certificate with the subject is found for an issuer name without a serialNumber attribute,
although the two names differ. -/
def IsMistaken (wanted subject : Name) : Prop :=
  ∃ target candidate, Certificate.decode (certificate wanted ⟨[]⟩) = .ok target ∧
    Certificate.decode (certificate ⟨[]⟩ subject) = .ok candidate ∧
    target.issuer = wanted ∧ candidate.subject = subject ∧
    (∀ a ∈ wanted.attributes, a.type.text ≠ "2.5.4.5") ∧
    find? target.issuer [candidate] = some candidate ∧
    ¬ List.Forall₂ (List.Forall₂ Attribute.IsSame) subject.relativeNames wanted.relativeNames

theorem isMistaken_of_text_eq {wanted subject : Name} (hissuer : Decodes wanted ⟨[]⟩)
    (hsubject : Decodes ⟨[]⟩ subject)
    (hnone : ∀ a ∈ wanted.attributes, a.type.text ≠ "2.5.4.5")
    (htext : subject.text = wanted.text)
    (hdiffer : ¬ List.Forall₂ (List.Forall₂ Attribute.IsSame) subject.relativeNames
      wanted.relativeNames) : IsMistaken wanted subject := by
  obtain ⟨target, candidate, htarget, hcandidate, hnames, hnames', hfound⟩ :=
    exists_found hissuer hsubject (Name.serialNumber_of_none hnone) htext
  exact ⟨target, candidate, htarget, hcandidate, hnames, hnames', hnone, hfound, hdiffer⟩

end Sample

open Sample in
/-- A certificate is found whose subject has fewer attributes than the wanted name, or another
value because neither name can be displayed, or a string where the wanted name has octets, or a
type that is padded where the wanted one is not. -/
theorem found_under_another_name :
    IsMistaken twoAttributes falseStart ∧ IsMistaken undecodable otherUndecodable ∧
      IsMistaken octetValue stringValue ∧ IsMistaken dottedType paddedType := by
  refine ⟨isMistaken_of_text_eq ?_ ?_ ?_ ?_ ?_, isMistaken_of_text_eq ?_ ?_ ?_ ?_ ?_,
    isMistaken_of_text_eq ?_ ?_ ?_ ?_ ?_, isMistaken_of_text_eq ?_ ?_ ?_ ?_ ?_⟩
  -- The certificates are decoded by `cbv`; the rest is about the names alone.
  all_goals first | decide +kernel | (unfold Decodes; cbv)

open Sample in
/-- With the registry in use, a separator in a value is no false start, and strings of another type
have the same text. -/
theorem found_subject_reads_as_wanted_sample :
    ∃ target candidate, Certificate.decode (certificate separators ⟨[]⟩) = .ok target ∧
      Certificate.decode (certificate ⟨[]⟩ printable) = .ok candidate ∧
      Registry.known.IsReadable ∧ target.issuer.serialNumber = "" ∧
      target.issuer.textBy? .known ≠ none ∧ target.issuer.IsPlain .known ∧
      candidate.subject.IsPlain .known ∧
      find? target.issuer [candidate] = some candidate ∧
      candidate.subject.textBy? .known = target.issuer.textBy? .known ∧
      List.Forall₂ (List.Forall₂ (Attribute.ReadsAs .known)) candidate.subject.relativeNames
        target.issuer.relativeNames := by
  have hissuer : Decodes separators ⟨[]⟩ := by
    unfold Decodes
    cbv
  have hsubject : Decodes ⟨[]⟩ printable := by
    unfold Decodes
    cbv
  have hserial : separators.serialNumber = "" := by decide +kernel
  have hdisplayed : separators.textBy? .known ≠ none := by decide +kernel
  have hplain : separators.IsPlain .known := Name.isPlain_of_all (by decide +kernel)
  have hplain' : printable.IsPlain .known := Name.isPlain_of_all (by decide +kernel)
  obtain ⟨target, candidate, htarget, hcandidate, hwanted, hnames, hfound⟩ :=
    exists_found hissuer hsubject hserial (by decide +kernel)
  obtain ⟨encoding, behind, hread⟩ := (Certificate.names_of_decode htarget).1
  rw [← hwanted] at hserial hdisplayed hplain
  rw [← hnames] at hplain'
  have hdecoded : ∀ c ∈ [candidate], ∃ der, Certificate.decode der = .ok c :=
    fun c hmem => ⟨_, List.mem_singleton.mp hmem ▸ hcandidate⟩
  obtain ⟨-, htext, halike⟩ :=
    found_subject_reads_as_wanted Registry.isReadable_known hread hserial hdecoded hfound
  exact ⟨target, candidate, htarget, hcandidate, Registry.isReadable_known, hserial, hdisplayed,
    hplain, hplain', hfound, htext, halike hdisplayed hplain hplain'⟩

end Issuer

end RevocationCheck
