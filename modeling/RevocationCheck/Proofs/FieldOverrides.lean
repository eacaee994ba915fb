import Mathlib.Data.List.Find
import Mathlib.Data.List.Induction
import RevocationCheck.Proofs.PolicyFields
import RevocationCheck.Proofs.SettingLayers

/-!
# Overrides for the fields of a policy

A field can be overridden by a named value with the path of the field, or by the environment
variable that is documented for it, in any letter case.  Both become settings that are laid over
everything else (`merge_eq`), and they put into the table of the policy what they give for its
fields (`Overrides.lastAt?_putAt_entries`).  Variables that lead elsewhere put nothing there.
-/

namespace RevocationCheck.Settings

open Document (lastAt? valueAt? insertEntry)

namespace Field

variable {f g : Field}

/-- The path of a field. -/
def key (f : Field) : String := "crl." ++ f.name

/-- The environment variable for a field. -/
def variableName : Field → String
  | depth => "APP_CRL__DEPTH"
  | offlineListFile => "APP_CRL__OFFLINE_CRL_FILE"
  | offlineIssuerFile => "APP_CRL__OFFLINE_CRL_ISSUER_CERT_FILE"
  | distributionPoint => "APP_CRL__DISTRIBUTION_POINT"
  | distributionPointIssuerFile => "APP_CRL__DISTRIBUTION_POINT_ISSUER_CERT_FILE"
  | verifyOfflineSignature => "APP_CRL__VERIFY_OFFLINE_SIGNATURE"

/-- Is this the name of the variable for a field, in any letter case? -/
def IsVariable (f : Field) (name : String) : Prop :=
  Text.lower name = Text.lower f.variableName

instance (f : Field) : DecidablePred f.IsVariable := fun name =>
  inferInstanceAs (Decidable (Text.lower name = Text.lower f.variableName))

theorem parse?_key (f : Field) : Path.parse? f.key = some ⟨"crl", [.key f.name]⟩ := by
  cases f <;> decide +kernel

theorem pathOf_key (f : Field) : pathOf f.key = ⟨"crl", [.key f.name]⟩ := by
  rw [pathOf, parse?_key]
  rfl

theorem key_injective : Function.Injective key := by
  intro f g h
  have hpath : pathOf f.key = pathOf g.key := congrArg pathOf h
  simp only [pathOf_key, Path.mk.injEq, List.cons.injEq, Step.key.injEq] at hpath
  exact name_injective hpath.2.1

theorem settingName?_of_isVariable {name : String} (h : f.IsVariable name) :
    settingName? name = some f.key := by
  have hdocumented : settingName? f.variableName = some f.key := by
    cases f <;> decide +kernel
  rw [← hdocumented]
  unfold settingName?
  rw [show Text.lower name = Text.lower f.variableName from h]

end Field

/-- Is this the name of a variable that gives no setting, or one outside the policy? -/
def IsUnrelated (name : String) : Prop :=
  ∀ setting, settingName? name = some setting → (pathOf setting).root ≠ "crl"

/-- A variable without the front of settings gives none. -/
theorem isUnrelated_of_front {name : String}
    (h : (Text.lower name).startsWith variableFront = false) : IsUnrelated name := by
  intro setting hsetting
  rw [settingName?, h] at hsetting
  cases hsetting

namespace Overrides

/-- The value that overrides give for a field.  Of several the last counts. -/
def value? (f : Field) : Overrides → Option String
  | environment bindings => (bindings.reverse.find? fun b => f.IsVariable b.1).map Prod.snd
  | named values => lastAt? f.key values

/-- Are all overrides for fields of the policy, apart from unrelated variables? -/
def AreForFields : Overrides → Prop
  | environment bindings => ∀ b ∈ bindings, IsUnrelated b.1 ∨ ∃ f : Field, f.IsVariable b.1
  | named values => ∀ v ∈ values, ∃ f : Field, v.1 = f.key

/-- The source of overrides as messages name it. -/
def origin : Overrides → Option String
  | environment _ => some "the environment"
  | named _ => none

/-- Overrides as settings. -/
def entries : Overrides → Entries
  | environment bindings => environmentEntries bindings
  | named values => values.map fun v => (v.1, .scalar none (.text v.2))

end Overrides

theorem environmentEntries_concat (bindings : List (String × String)) (binding : String × String) :
    environmentEntries (bindings ++ [binding]) =
      match settingName? binding.1 with
      | none => environmentEntries bindings
      | some name =>
        insertEntry name (.scalar (some "the environment") (.text binding.2))
          (environmentEntries bindings) := by
  rw [environmentEntries, List.foldl_append]
  rfl

theorem nodup_environmentEntries (bindings : List (String × String)) :
    ((environmentEntries bindings).map Prod.fst).Nodup := by
  induction bindings using List.reverseRecOn with
  | nil => exact List.nodup_nil
  | append_singleton bindings binding ih =>
    rw [environmentEntries_concat]
    split
    · exact ih
    · exact Document.nodup_insertEntry ih

theorem mem_environmentEntries {bindings : List (String × String)} {entry : String × Setting}
    (h : entry ∈ environmentEntries bindings) :
    ∃ binding ∈ bindings, settingName? binding.1 = some entry.1 ∧
      entry.2 = .scalar (some "the environment") (.text binding.2) := by
  induction bindings using List.reverseRecOn with
  | nil => exact absurd h List.not_mem_nil
  | append_singleton bindings binding ih =>
    rw [environmentEntries_concat] at h
    -- The entry is that of the last variable, or it was there before.
    have hsplit : (settingName? binding.1 = some entry.1 ∧
        entry.2 = .scalar (some "the environment") (.text binding.2)) ∨
        entry ∈ environmentEntries bindings := by
      split at h
      · exact .inr h
      · next name hname =>
        refine (Document.mem_of_mem_insertEntry h).imp_left ?_
        rintro rfl
        exact ⟨hname, rfl⟩
    rcases hsplit with hlast | hearlier
    · exact ⟨binding, List.mem_append_right _ List.mem_cons_self, hlast⟩
    · obtain ⟨earlier, hmem, hentry⟩ := ih hearlier
      exact ⟨earlier, List.mem_append_left _ hmem, hentry⟩

/-- Of the variables that give a setting the last counts. -/
theorem valueAt?_environmentEntries (bindings : List (String × String)) (name : String) :
    valueAt? name (environmentEntries bindings) =
      (bindings.reverse.find? fun b => settingName? b.1 = some name).map fun b =>
        .scalar (some "the environment") (.text b.2) := by
  induction bindings using List.reverseRecOn with
  | nil => rfl
  | append_singleton bindings binding ih =>
    rw [environmentEntries_concat, List.reverse_append, List.reverse_singleton,
      List.singleton_append, List.find?_cons]
    split
    · next hnone => rw [ih, hnone]; rfl
    · next given hgiven =>
      rw [Document.valueAt?_insertEntry, ih, hgiven]
      by_cases e : given = name <;> simp [e]

section

variable {overrides : Overrides} {f : Field} {entry : String × Setting}

/-- An override as a setting is for a field, or it leads elsewhere. -/
theorem Overrides.mem_entries (h : overrides.AreForFields) (hmem : entry ∈ overrides.entries) :
    (∃ (f : Field) (text : String), entry = (f.key, .scalar overrides.origin (.text text))) ∨
      (pathOf entry.1).root ≠ "crl" := by
  cases overrides with
  | environment bindings =>
    obtain ⟨binding, hbinding, hname, hvalue⟩ := mem_environmentEntries hmem
    rcases h binding hbinding with helse | ⟨f, hf⟩
    · exact .inr (helse entry.1 hname)
    · have hkey : entry.1 = f.key :=
        Option.some.inj (hname.symm.trans (Field.settingName?_of_isVariable hf))
      exact .inl ⟨f, binding.2, Prod.ext hkey hvalue⟩
  | named values =>
    obtain ⟨value, hvalue, rfl⟩ := List.mem_map.mp hmem
    obtain ⟨f, hf⟩ := h value hvalue
    exact .inl ⟨f, value.2, by rw [hf]; rfl⟩

theorem Overrides.reaching (h : overrides.AreForFields) (hmem : entry ∈ overrides.entries) :
    Entries.Reaching "crl" entry := by
  intro hroot
  rcases mem_entries h hmem with ⟨f, text, rfl⟩ | helse
  · exact .inr ⟨f.name, by rw [Field.pathOf_key]⟩
  · exact absurd hroot helse

theorem Overrides.isScalar (h : overrides.AreForFields) {key : String} {setting : Setting}
    (hmem : (key, setting) ∈ overrides.entries.putAt "crl") : setting.IsScalar := by
  obtain ⟨entry, hentry, hin⟩ := List.mem_flatMap.mp hmem
  rcases mem_entries h hentry with ⟨f, text, rfl⟩ | helse
  · rw [entriesAt_key (f.key, _) (Field.pathOf_key f)] at hin
    obtain ⟨-, rfl⟩ := Prod.mk.inj (List.mem_singleton.mp hin)
    exact ⟨_, _, rfl⟩
  · rw [entriesAt_elsewhere entry helse] at hin
    cases hin

/-- Entries that are for fields or lead elsewhere put under the name of a field what they have
under its path. -/
theorem lastAt?_putAt {entries : Entries}
    (h : ∀ entry ∈ entries, (∃ f : Field, entry.1 = f.key) ∨ (pathOf entry.1).root ≠ "crl") :
    lastAt? f.name (entries.putAt "crl") = lastAt? f.key entries := by
  induction entries with
  | nil => rfl
  | cons entry rest ih =>
    have hput : Entries.putAt (entry :: rest) "crl" =
        entriesAt Setting.entriesOf "crl" entry ++ Entries.putAt rest "crl" := List.flatMap_cons
    rw [hput, Document.lastAt?_append, Document.lastAt?_cons,
      ih fun e he => h e (List.mem_cons_of_mem _ he)]
    congr 1
    rcases h entry List.mem_cons_self with ⟨g, hg⟩ | helse
    · rw [entriesAt_key entry (by rw [hg, Field.pathOf_key]), hg]
      have hname : g.name = f.name ↔ g.key = f.key :=
        Field.name_injective.eq_iff.trans Field.key_injective.eq_iff.symm
      simp only [Document.lastAt?_cons, Document.lastAt?_nil, Option.none_or, hname]
    · have hkey : entry.1 ≠ f.key := fun e => helse (by rw [e, Field.pathOf_key])
      rw [entriesAt_elsewhere entry helse, if_neg hkey]
      rfl

theorem Overrides.lastAt?_key_entries (h : overrides.AreForFields) :
    lastAt? f.key overrides.entries =
      (overrides.value? f).map fun text => .scalar overrides.origin (.text text) := by
  cases overrides with
  | environment bindings =>
    have hvariable : ∀ b ∈ bindings.reverse,
        decide (settingName? b.1 = some f.key) = decide (f.IsVariable b.1) := by
      intro b hb
      refine decide_eq_decide.mpr ⟨fun hname => ?_, Field.settingName?_of_isVariable⟩
      rcases h b (List.mem_reverse.mp hb) with helse | ⟨g, hg⟩
      · exact absurd (by rw [Field.pathOf_key]) (helse f.key hname)
      · have hkey : g.key = f.key :=
          Option.some.inj ((Field.settingName?_of_isVariable hg).symm.trans hname)
        exact Field.key_injective hkey ▸ hg
    rw [Overrides.entries, Document.lastAt?_eq_valueAt? (nodup_environmentEntries bindings),
      valueAt?_environmentEntries, List.find?_congr hvariable, Overrides.value?, Option.map_map]
    rfl
  | named values =>
    exact Document.lastAt?_map fun text => Setting.scalar none (.text text)

theorem Overrides.lastAt?_putAt_entries (h : overrides.AreForFields) :
    lastAt? f.name (overrides.entries.putAt "crl") =
      (overrides.value? f).map fun text => .scalar overrides.origin (.text text) := by
  rw [lastAt?_putAt fun entry hentry => ?_, lastAt?_key_entries h]
  exact (mem_entries h hentry).imp_left fun ⟨f, _, e⟩ => ⟨f, congrArg Prod.fst e⟩

theorem namedPaths_eq_ok {values : List (String × String)}
    (h : ∀ v ∈ values, ∃ f : Field, v.1 = f.key) :
    namedPaths values = .ok (values.map fun v => (pathOf v.1, v.2)) := by
  induction values with
  | nil => rfl
  | cons value rest ih =>
    obtain ⟨name, text⟩ := value
    obtain ⟨f, rfl⟩ := h (name, text) List.mem_cons_self
    have hrest : rest.mapM _ = _ := ih fun v hv => h v (List.mem_cons_of_mem _ hv)
    simp only [namedPaths, List.mapM_cons, hrest, List.map_cons, Field.parse?_key,
      Field.pathOf_key]
    rfl

/-- Overrides are laid over what the file and the defaults give. -/
theorem merge_eq (h : overrides.AreForFields) (files : FileSystem) :
    merge files overrides =
      (fileEntries files).map fun file => layOver (layOver defaults file) overrides.entries := by
  cases overrides with
  | environment bindings => cases hfile : fileEntries files <;> simp [merge, hfile] <;> rfl
  | named values =>
    simp only [merge, namedPaths_eq_ok h]
    cases fileEntries files with
    | error fault => rfl
    | ok file =>
      refine congrArg Except.ok ?_
      simp only [Overrides.entries, layOver, List.foldl_map]
      rfl

end

end RevocationCheck.Settings
