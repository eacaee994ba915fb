import Mathlib.Data.List.TakeWhile
import RevocationCheck.Proofs.FieldOverrides

/-!
# The configured policy

Each field of a policy is configured by itself.  Its value is the one that the overrides give, else
the one in the settings file, else the default (`chosen?`).  There is a policy exactly if each value
that is chosen so reads for its field; a value in the file that an override hides is not looked at
(`load_by_layers`).

The settings file may hold anything beside the table of the policy, in any of the notations, and it
may be missing.
-/

namespace RevocationCheck.Settings

open Document (lastAt? valueAt?)

/-! ## The settings file -/

/-- The entries of a document that is a table; anything else has none. -/
def tableEntries : Document → List (String × Document)
  | .table entries => entries
  | _ => []

/-- What a settings file puts into the table of the policy. -/
def policyEntries (docs : List (String × Document)) : List (String × Document) :=
  docs.flatMap (entriesAt tableEntries "crl")

/-- The value that a settings file gives for a field.  Of several the last counts. -/
def fileValue? (docs : List (String × Document)) (f : Field) : Option Document :=
  lastAt? f.name (policyEntries docs)

/-- The settings file holds these entries; without one there are none. -/
inductive Holds (files : FileSystem) : List (String × Document) → Prop
  | absent (none : findFile files = none) : Holds files []
  | present {path : String} {kind : FileFormat} {data : Octets} {docs : List (String × Document)}
      (found : findFile files = some (path, kind, data))
      (parsed : kind.parse? (textOf data) = some docs) : Holds files docs

/-- A settings file in which the policy is a table, or is given field by field, and each field that
is given has a plain value. -/
structure IsPlainFile (docs : List (String × Document)) : Prop where
  reaching : ∀ entry ∈ docs, (pathOf entry.1).root = "crl" →
    ((pathOf entry.1).steps = [] ∧ ∃ entries, entry.2 = .table entries) ∨
      ∃ key, (pathOf entry.1).steps = [.key key]
  plain : ∀ (f : Field) value, (f.name, value) ∈ policyEntries docs → value.IsPlain

section

variable {files : FileSystem} {docs : List (String × Document)} {f : Field}

theorem Holds.fileEntries_eq (h : Holds files docs) :
    ∃ origin, fileEntries files = .ok (Setting.ofEntries origin docs) := by
  cases h with
  | absent hnone => exact ⟨none, by rw [fileEntries, hnone]; rfl⟩
  | @present path kind data docs found parsed =>
    exact ⟨some path, by simp only [fileEntries, found, parsed]⟩

theorem exists_table_of_tableEntries {value : Document} (h : tableEntries value ≠ []) :
    ∃ entries, value = .table entries := by
  cases value with
  | table entries => exact ⟨entries, rfl⟩
  | _ => exact absurd rfl h

theorem entriesAt_ofDocument (origin : Option String) (root : String) (entry : String × Document) :
    entriesAt Setting.entriesOf root (entry.1, Setting.ofDocument origin entry.2) =
      Setting.ofEntries origin (entriesAt tableEntries root entry) := by
  obtain ⟨name, value⟩ := entry
  unfold entriesAt
  dsimp only
  split
  · split
    · cases value <;> rfl
    · rfl
    · rfl
  · rfl

theorem putAt_ofEntries (origin : Option String) (docs : List (String × Document)) :
    (Setting.ofEntries origin docs).putAt "crl" =
      Setting.ofEntries origin (policyEntries docs) := by
  induction docs with
  | nil => rfl
  | cons entry rest ih =>
    have hput : Entries.putAt (Setting.ofEntries origin (entry :: rest)) "crl" =
        entriesAt Setting.entriesOf "crl" (entry.1, Setting.ofDocument origin entry.2) ++
          Entries.putAt (Setting.ofEntries origin rest) "crl" := List.flatMap_cons
    have hdocs : policyEntries (entry :: rest) =
        entriesAt tableEntries "crl" entry ++ policyEntries rest := List.flatMap_cons
    rw [hput, ih, entriesAt_ofDocument, hdocs]
    simp only [Setting.ofEntries_eq_map, List.map_append]

theorem IsPlainFile.reaching_ofEntries (h : IsPlainFile docs) (origin : Option String) :
    ∀ entry ∈ Setting.ofEntries origin docs, Entries.Reaching "crl" entry := by
  intro entry hmem hroot
  rw [Setting.ofEntries_eq_map] at hmem
  obtain ⟨given, hgiven, rfl⟩ := List.mem_map.mp hmem
  refine (h.reaching given hgiven hroot).imp_left ?_
  rintro ⟨hsteps, entries, htable⟩
  refine ⟨hsteps, ?_⟩
  rw [htable]
  exact ⟨origin, _, rfl⟩

/-- What a plain file gives, laid over other settings. -/
theorem IsPlainFile.valueAt?_layOver (h : IsPlainFile docs) (origin : Option String)
    (below : Entries) :
    valueAt? f.name ((layOver below (Setting.ofEntries origin docs)).tableAt "crl") =
      ((fileValue? docs f).map (Setting.ofDocument origin)).or
        (valueAt? f.name (below.tableAt "crl")) := by
  have hput : (Setting.ofEntries origin docs).putAt "crl" =
      (policyEntries docs).map fun e => (e.1, Setting.ofDocument origin e.2) := by
    rw [putAt_ofEntries, Setting.ofEntries_eq_map]
  have hscalar : ∀ setting, (f.name, setting) ∈ (Setting.ofEntries origin docs).putAt "crl" →
      setting.IsScalar := by
    intro setting hmem
    rw [hput] at hmem
    obtain ⟨⟨name, value⟩, hin, hentry⟩ := List.mem_map.mp hmem
    obtain ⟨rfl, rfl⟩ := Prod.mk.inj hentry
    obtain ⟨scalar, hvalue⟩ := (h.plain f value hin).isScalar
    exact ⟨origin, scalar, hvalue origin⟩
  rw [valueAt?_tableAt_layOver (h.reaching_ofEntries origin) hscalar, hput,
    Document.lastAt?_map, fileValue?]

end

/-! ## All layers -/

/-- The value that is chosen for a field: the override if there is one, else what the file has. -/
def chosen? (docs : List (String × Document)) (overrides : Overrides) (f : Field) :
    Option Document :=
  ((overrides.value? f).map Document.text).or (fileValue? docs f)

section

variable {files : FileSystem} {docs : List (String × Document)} {overrides : Overrides}
  {policy : Policy} {f : Field}

theorem hasTable_defaults : defaults.HasTable "crl" := ⟨_, rfl, _, _, rfl⟩

/-- Of the fields only the depth has a default among the settings, and that is the one of a
policy. -/
theorem reads_defaults {key : String} :
    f.Reads key (valueAt? f.name (defaults.tableAt "crl")) policy ↔
      f.Agrees policy Policy.default := by
  cases f with
  | depth => exact ⟨fun h => (Except.ok.inj h).symm, fun h => congrArg Except.ok h.symm⟩
  | _ => exact Field.reads_none

/-- What overrides for fields give, laid over other settings. -/
theorem Overrides.valueAt?_layOver (hover : overrides.AreForFields) (below : Entries) :
    valueAt? f.name ((layOver below overrides.entries).tableAt "crl") =
      ((overrides.value? f).map fun text => .scalar overrides.origin (.text text)).or
        (valueAt? f.name (below.tableAt "crl")) := by
  rw [valueAt?_tableAt_layOver (fun entry => Overrides.reaching hover)
    (fun setting => Overrides.isScalar hover), Overrides.lastAt?_putAt_entries hover]

/-- What is read for a field. -/
theorem valueAt?_merged (hplain : IsPlainFile docs) (hover : overrides.AreForFields)
    (origin : Option String) :
    valueAt? f.name ((layOver (layOver defaults (Setting.ofEntries origin docs))
        overrides.entries).tableAt "crl") =
      ((overrides.value? f).map fun text => .scalar overrides.origin (.text text)).or
        (((fileValue? docs f).map (Setting.ofDocument origin)).or
          (valueAt? f.name (defaults.tableAt "crl"))) := by
  rw [Overrides.valueAt?_layOver hover, hplain.valueAt?_layOver]

theorem reads_merged (hplain : IsPlainFile docs) (hover : overrides.AreForFields)
    (origin : Option String) :
    f.Reads ("crl" ++ "." ++ f.name)
        (valueAt? f.name ((layOver (layOver defaults (Setting.ofEntries origin docs))
          overrides.entries).tableAt "crl")) policy ↔
      f.Follows policy (chosen? docs overrides f) := by
  rw [valueAt?_merged hplain hover, chosen?]
  cases hvalue : overrides.value? f with
  | some text =>
    have hplainText : (Document.text text).IsPlain := trivial
    exact (Field.follows_some_iff hplainText).symm
  | none =>
    cases hfile : fileValue? docs f with
    | some value =>
      exact (Field.follows_some_iff (hplain.plain f value (Document.mem_of_lastAt? hfile))).symm
    | none => exact reads_defaults

theorem load_eq_readPolicy {entries : Entries} {setting : Setting}
    (hmerge : merge files overrides = .ok entries) (hat : valueAt? "crl" entries = some setting) :
    load files overrides = readPolicy "crl" setting := by
  simp only [load, hmerge, bind, Except.bind, hat]

/-- There is a policy exactly if it has in each field what the value chosen for the field says. -/
theorem load_eq_ok_iff (hholds : Holds files docs) (hplain : IsPlainFile docs)
    (hover : overrides.AreForFields) :
    load files overrides = .ok policy ↔ ∀ f, Field.Follows policy (chosen? docs overrides f) f := by
  obtain ⟨origin, hfile⟩ := hholds.fileEntries_eq
  have htable : (layOver (layOver defaults (Setting.ofEntries origin docs))
      overrides.entries).HasTable "crl" :=
    hasTable_layOver (fun entry => Overrides.reaching hover)
      (.inl (hasTable_layOver (hplain.reaching_ofEntries origin) (.inl hasTable_defaults)))
  obtain ⟨_, hat, source, inner, rfl⟩ := htable
  have hmerge : merge files overrides = .ok (layOver (layOver defaults
      (Setting.ofEntries origin docs)) overrides.entries) := by rw [merge_eq hover, hfile]; rfl
  rw [load_eq_readPolicy hmerge hat, readPolicy_table_eq_ok_iff]
  refine forall_congr' fun f => ?_
  rw [← Entries.tableAt_eq hat]
  exact reads_merged hplain hover origin

/-- A blank text for a distribution point is as good as none. -/
theorem Field.alone_distributionPoint_of_blank {text : String}
    (h : ∀ c ∈ text.toList, Text.isBlank c = true) :
    Field.distributionPoint.alone (.text text) = .ok Policy.default := by
  have htrim : Text.trim text.toList = [] := by
    rw [Text.trim, Text.trimStart, List.dropWhile_eq_nil_iff.mpr h]
    rfl
  refine Field.alone_eq_ok_iff.mpr ⟨?_, fun g _ => Field.Agrees.refl _ g⟩
  simp only [Field.Reads, readOr, Setting.ofDocument, readUrl, readText, bind, Except.bind,
    Policy.urlOfText, htrim, Policy.default]

theorem hasTable_named {values : List (String × String)}
    (h : (Overrides.named values).AreForFields) (hne : values ≠ []) (below : Entries) :
    (layOver below (Overrides.named values).entries).HasTable "crl" := by
  obtain ⟨value, hvalue⟩ := List.exists_mem_of_ne_nil values hne
  obtain ⟨f, hf⟩ := h value hvalue
  refine hasTable_layOver (fun entry => Overrides.reaching h)
    (.inr ⟨_, List.mem_map_of_mem hvalue, ?_⟩)
  rw [hf, Field.pathOf_key]

/-- Named values for fields, each of a name of its own, may come in any order, whatever the file
holds. -/
theorem load_named_perm {values others : List (String × String)}
    (h : (Overrides.named values).AreForFields) (hnodup : (values.map Prod.fst).Nodup)
    (hperm : values.Perm others) : load files (.named others) = load files (.named values) := by
  have hothers : (Overrides.named others).AreForFields := fun v hv => h v (hperm.mem_iff.mpr hv)
  have hvalue : ∀ f, (Overrides.named others).value? f = (Overrides.named values).value? f := by
    intro f
    have hnodup' : (others.map Prod.fst).Nodup := (hperm.map Prod.fst).nodup_iff.mp hnodup
    rw [Overrides.value?, Overrides.value?, Document.lastAt?_eq_valueAt? hnodup,
      Document.lastAt?_eq_valueAt? hnodup', Document.valueAt?_perm hnodup hperm]
  -- Without values there need not be a table: the file may have something else in its place.
  by_cases hne : values = []
  · subst hne
    rw [List.nil_perm.mp hperm]
  have hne' : others ≠ [] := fun e => hne (List.perm_nil.mp (e ▸ hperm))
  cases hfile : fileEntries files with
  | error fault =>
    rw [load, load, merge_eq h, merge_eq hothers, hfile]
    rfl
  | ok file =>
    obtain ⟨_, hat, source, inner, rfl⟩ := hasTable_named h hne (layOver defaults file)
    obtain ⟨_, hat', source', inner', rfl⟩ := hasTable_named hothers hne' (layOver defaults file)
    have hmerge := merge_eq h files
    have hmerge' := merge_eq hothers files
    rw [hfile] at hmerge hmerge'
    rw [load_eq_readPolicy hmerge hat, load_eq_readPolicy hmerge' hat']
    refine readPolicy_table_congr fun f => ?_
    rw [← Entries.tableAt_eq hat, ← Entries.tableAt_eq hat', Overrides.valueAt?_layOver h,
      Overrides.valueAt?_layOver hothers, hvalue]
    rfl

/-- **Layers of the configuration.**  A policy is loaded exactly if each field has what the value
chosen for it says, and the default where none is chosen; there is one exactly if all chosen values
read for their fields.  So an override that does not read is a failure whatever the file says, and
of the file only what no override hides has a part.  A blank distribution point says what nothing
does, and named values may come in any order. -/
theorem load_by_layers (hholds : Holds files docs) (hplain : IsPlainFile docs)
    (hover : overrides.AreForFields) :
    (∀ policy, load files overrides = .ok policy ↔
      ∀ f, Field.Follows policy (chosen? docs overrides f) f) ∧
    ((∃ policy, load files overrides = .ok policy) ↔
      ∀ f value, chosen? docs overrides f = some value → Field.Accepts f value) ∧
    (∀ f text, overrides.value? f = some text → ¬ Field.Accepts f (.text text) →
      ∃ fault, load files overrides = .error fault) ∧
    (∀ otherFiles otherDocs, Holds otherFiles otherDocs → IsPlainFile otherDocs →
      (∀ f, overrides.value? f = none → fileValue? otherDocs f = fileValue? docs f) →
      ∀ policy, load otherFiles overrides = .ok policy ↔ load files overrides = .ok policy) ∧
    (∀ text : String, (∀ c ∈ text.toList, Text.isBlank c = true) →
      Field.distributionPoint.alone (.text text) = .ok Policy.default) ∧
    ∀ values others, overrides = .named values → (values.map Prod.fst).Nodup →
      values.Perm others → load files (.named others) = load files overrides := by
  have hload : ∀ policy, load files overrides = .ok policy ↔
      ∀ f, Field.Follows policy (chosen? docs overrides f) f :=
    fun policy => load_eq_ok_iff hholds hplain hover
  have hexists : (∃ policy, load files overrides = .ok policy) ↔
      ∀ f value, chosen? docs overrides f = some value → Field.Accepts f value :=
    (exists_congr hload).trans Field.exists_follows_iff
  refine ⟨hload, hexists, ?_, ?_, fun text => Field.alone_distributionPoint_of_blank, ?_⟩
  · intro f text hvalue hrefused
    have hchosen : chosen? docs overrides f = some (.text text) := by rw [chosen?, hvalue]; rfl
    cases hresult : load files overrides with
    | error fault => exact ⟨fault, rfl⟩
    | ok policy => exact absurd (hexists.mp ⟨policy, hresult⟩ f _ hchosen) hrefused
  · intro otherFiles otherDocs hotherHolds hotherPlain hsame policy
    have hchosen : chosen? otherDocs overrides = chosen? docs overrides := by
      funext f
      cases hvalue : overrides.value? f with
      | none => rw [chosen?, chosen?, hsame f hvalue]
      | some text => rw [chosen?, chosen?, hvalue]; rfl
    rw [load_eq_ok_iff hotherHolds hotherPlain hover, hload, hchosen]
  · rintro values others rfl hnodup hperm
    exact load_named_perm hover hnodup hperm

end

namespace Sample

/-- A settings file that gives a depth and no URL for a distribution point. -/
def settings : Octets :=
  ("\x7b\"crl\": \x7b\"depth\": 5, \"distribution_point\": \"nowhere\"\x7d\x7d".toList).map
    fun c => UInt8.ofNat c.toNat

/-- What the file holds. -/
def docs : List (String × Document) := (FileFormat.json.parse? (textOf settings)).getD []

/-- The file system with this file only. -/
def files : FileSystem := fun path =>
  if path = "config/settings.json" then .ok settings else .error .notFound

/-- An environment in which a blank distribution point hides the one of the file. -/
def overrides : Overrides :=
  .environment [("PATH", "/bin"), ("app_crl__Distribution_Point", " ")]

theorem holds_docs : Holds files docs := by
  have hfound : findFile files = some ("config/settings.json", .json, settings) := rfl
  have hparsed : (FileFormat.json.parse? (textOf settings)).isSome := by decide +kernel
  obtain ⟨parsed, heq⟩ := Option.isSome_iff_exists.mp hparsed
  have hdocs : docs = parsed := by rw [docs, heq]; rfl
  exact .present hfound (hdocs ▸ heq)

theorem isPlainFile_docs : IsPlainFile docs where
  reaching entry hmem _ := by
    have hall : ∀ entry ∈ docs, (pathOf entry.1).steps = [] ∧
        (tableEntries entry.2).isEmpty = false := by decide +kernel
    obtain ⟨hsteps, htable⟩ := hall entry hmem
    exact .inl ⟨hsteps, exists_table_of_tableEntries fun hnil => by simp [hnil] at htable⟩
  plain f value hmem := by
    have hall : ∀ entry ∈ policyEntries docs, entry.2.IsPlain := by decide +kernel
    exact hall _ hmem

theorem areForFields_overrides : overrides.AreForFields := by
  intro binding hmem
  simp only [List.mem_cons, List.not_mem_nil, or_false] at hmem
  rcases hmem with rfl | rfl
  · exact .inl (isUnrelated_of_front (by decide +kernel))
  · exact .inr ⟨.distributionPoint, by decide +kernel⟩

end Sample

/-- The depth is the one in the file, and there is no distribution point. -/
theorem load_by_layers_sample :
    load Sample.files Sample.overrides = .ok { Policy.default with depth := 5 } := by
  obtain ⟨hload, -⟩ := load_by_layers Sample.holds_docs Sample.isPlainFile_docs
    Sample.areForFields_overrides
  have hdepth : (chosen? Sample.docs Sample.overrides .depth).map Field.depth.alone =
      some (.ok { Policy.default with depth := 5 }) := by decide +kernel
  have hpoint : (chosen? Sample.docs Sample.overrides .distributionPoint).map
      Field.distributionPoint.alone = some (.ok Policy.default) := by decide +kernel
  have hother : ∀ f, f ≠ .depth → f ≠ .distributionPoint →
      (chosen? Sample.docs Sample.overrides f).isNone := by
    intro f
    cases f <;> decide +kernel
  refine (hload _).mpr fun f => ?_
  by_cases hf : f = .depth
  · subst hf
    exact Field.follows_of_map_alone hdepth rfl
  by_cases hf' : f = .distributionPoint
  · subst hf'
    exact Field.follows_of_map_alone hpoint rfl
  rw [Option.isNone_iff_eq_none.mp (hother f hf hf')]
  cases f <;> first | rfl | contradiction

end RevocationCheck.Settings
