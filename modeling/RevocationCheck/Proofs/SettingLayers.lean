import RevocationCheck.Settings

/-!
# Layers of settings

Settings are laid over each other entry by entry, and the name of an entry is read as a path.  Here
one table at the root is followed through that: what each entry puts into the table, and which
value stands under a key in the end.  It is the one that the last entry gives which puts something
under that key, and the value below if there is none.

The law is for values without parts.  Tables are mixed with what they are laid over, so no entry
alone says what is in them.
-/

namespace RevocationCheck

namespace Document

variable {α β : Type} {key : String} {entries others : List (String × α)}

@[simp]
theorem valueAt?_nil : valueAt? key ([] : List (String × α)) = none := rfl

theorem valueAt?_cons (entry : String × α) :
    valueAt? key (entry :: entries) =
      if entry.1 = key then some entry.2 else valueAt? key entries := by
  by_cases h : entry.1 = key <;> simp [valueAt?, h]

theorem valueAt?_append :
    valueAt? key (entries ++ others) = (valueAt? key entries).or (valueAt? key others) := by
  simp [valueAt?, List.find?_append, Option.map_or]

theorem valueAt?_insertEntry (name : String) (value : α) :
    valueAt? key (insertEntry name value entries) =
      if name = key then some value else valueAt? key entries := by
  induction entries with
  | nil => simp [insertEntry, valueAt?_cons]
  | cons entry rest ih =>
    simp only [insertEntry]
    split
    · next h => simp only [valueAt?_cons, h]; split <;> rfl
    · next h =>
      rw [valueAt?_cons, valueAt?_cons, ih]
      by_cases hkey : entry.1 = key
      · rw [if_pos hkey, if_pos hkey, if_neg fun e => h (hkey.trans e.symm)]
      · rw [if_neg hkey, if_neg hkey]

theorem mem_of_mem_insertEntry {name : String} {value : α} {entry : String × α}
    (h : entry ∈ insertEntry name value entries) : entry = (name, value) ∨ entry ∈ entries := by
  induction entries with
  | nil => exact .inl (List.mem_singleton.mp h)
  | cons first rest ih =>
    simp only [insertEntry] at h
    split at h
    · exact (List.mem_cons.mp h).imp_right (List.mem_cons_of_mem _)
    · rcases List.mem_cons.mp h with rfl | hrest
      · exact .inr List.mem_cons_self
      · exact (ih hrest).imp_right (List.mem_cons_of_mem _)

/-- The keys of a table stay distinct when an entry is put into it. -/
theorem nodup_insertEntry {name : String} {value : α} (h : (entries.map Prod.fst).Nodup) :
    ((insertEntry name value entries).map Prod.fst).Nodup := by
  induction entries with
  | nil => simp [insertEntry]
  | cons first rest ih =>
    obtain ⟨hfirst, hrest⟩ := List.nodup_cons.mp h
    simp only [insertEntry]
    split
    · next e => exact List.nodup_cons.mpr ⟨e ▸ hfirst, hrest⟩
    · next e =>
      refine List.nodup_cons.mpr ⟨fun hmem => ?_, ih hrest⟩
      obtain ⟨entry, hentry, hname⟩ := List.mem_map.mp hmem
      rcases mem_of_mem_insertEntry hentry with rfl | hin
      · exact e hname.symm
      · exact hfirst (hname ▸ List.mem_map_of_mem hin)

theorem valueAt?_eq_some_iff_mem (h : (entries.map Prod.fst).Nodup) {value : α} :
    valueAt? key entries = some value ↔ (key, value) ∈ entries := by
  induction entries with
  | nil => simp
  | cons first rest ih =>
    obtain ⟨hfirst, hrest⟩ := List.nodup_cons.mp h
    rw [valueAt?_cons, List.mem_cons]
    split
    · next e =>
      refine ⟨fun hv => .inl (by rw [← e, ← Option.some.inj hv]), fun hmem => ?_⟩
      rcases hmem with rfl | hin
      · rfl
      · exact absurd (e ▸ List.mem_map_of_mem hin) hfirst
    · next e =>
      rw [ih hrest, or_iff_right]
      rintro rfl
      exact e rfl

/-- Where the keys are distinct, the order of the entries does not matter. -/
theorem valueAt?_perm (h : (entries.map Prod.fst).Nodup) (hperm : entries.Perm others) :
    valueAt? key entries = valueAt? key others := by
  have hothers : (others.map Prod.fst).Nodup := (hperm.map Prod.fst).nodup_iff.mp h
  refine Option.ext fun value => ?_
  rw [valueAt?_eq_some_iff_mem h, valueAt?_eq_some_iff_mem hothers, hperm.mem_iff]

/-- The last entry with a key. -/
def lastAt? (key : String) (entries : List (String × α)) : Option α := valueAt? key entries.reverse

@[simp]
theorem lastAt?_nil : lastAt? key ([] : List (String × α)) = none := rfl

theorem lastAt?_append :
    lastAt? key (entries ++ others) = (lastAt? key others).or (lastAt? key entries) := by
  rw [lastAt?, List.reverse_append, valueAt?_append, lastAt?, lastAt?]

theorem lastAt?_cons (entry : String × α) :
    lastAt? key (entry :: entries) =
      (lastAt? key entries).or (if entry.1 = key then some entry.2 else none) := by
  rw [← List.singleton_append, lastAt?_append]
  exact congrArg _ (valueAt?_cons entry)

theorem lastAt?_map (f : α → β) :
    lastAt? key (entries.map fun e => (e.1, f e.2)) = (lastAt? key entries).map f := by
  induction entries with
  | nil => rfl
  | cons entry rest ih =>
    rw [List.map_cons, lastAt?_cons, lastAt?_cons, ih, Option.map_or]
    congr 1
    split <;> rfl

theorem lastAt?_eq_valueAt? (h : (entries.map Prod.fst).Nodup) :
    lastAt? key entries = valueAt? key entries :=
  (valueAt?_perm h (List.reverse_perm entries).symm).symm

theorem mem_of_lastAt? {value : α} (h : lastAt? key entries = some value) :
    (key, value) ∈ entries := by
  obtain ⟨entry, hfound, rfl⟩ := Option.map_eq_some_iff.mp h
  have hkey : entry.1 = key := by simpa using List.find?_some hfound
  exact List.mem_reverse.mp (hkey ▸ List.mem_of_find?_eq_some hfound)

end Document

namespace Settings

open Document (insertEntry valueAt? lastAt?)

/-- The path that a name is read as. -/
def pathOf (name : String) : Path := (Path.parse? name).getD ⟨name, []⟩

/-- The entries that are put into the table at a root by a value with a name; `inner` gives the
entries of a value that is a table. -/
def entriesAt {α : Type} (inner : α → List (String × α)) (root : String) (entry : String × α) :
    List (String × α) :=
  let path := pathOf entry.1
  if path.root = root then
    match path.steps with
    | [] => inner entry.2
    | [.key key] => [(key, entry.2)]
    | _ => []
  else []

section

variable {α : Type} {inner : α → List (String × α)} {root key : String} (entry : String × α)

theorem entriesAt_elsewhere (h : (pathOf entry.1).root ≠ root) : entriesAt inner root entry = [] :=
  if_neg h

theorem entriesAt_root (h : pathOf entry.1 = ⟨root, []⟩) :
    entriesAt inner root entry = inner entry.2 := by
  simp [entriesAt, h]

theorem entriesAt_key (h : pathOf entry.1 = ⟨root, [.key key]⟩) :
    entriesAt inner root entry = [(key, entry.2)] := by
  simp [entriesAt, h]

end

namespace Setting

/-- A setting without parts. -/
def IsScalar (setting : Setting) : Prop := ∃ origin value, setting = .scalar origin value

/-- A setting that is a table. -/
def IsTable (setting : Setting) : Prop := ∃ origin entries, setting = .table origin entries

/-- Under a key with values without parts, the last one laid over counts. -/
theorem valueAt?_laidOverEntries {key : String} {below entries : Entries}
    (h : ∀ setting, (key, setting) ∈ entries → setting.IsScalar) :
    valueAt? key (laidOverEntries below entries) =
      (lastAt? key entries).or (valueAt? key below) := by
  induction entries generalizing below with
  | nil => rfl
  | cons entry rest ih =>
    obtain ⟨name, setting⟩ := entry
    have hrest (below : Entries) : valueAt? key (laidOverEntries below rest) =
        (lastAt? key rest).or (valueAt? key below) :=
      ih fun s hs => h s (List.mem_cons_of_mem _ hs)
    rw [laidOverEntries, hrest, Document.valueAt?_insertEntry, Document.lastAt?_cons,
      Option.or_assoc]
    congr 1
    by_cases hname : name = key
    · subst hname
      obtain ⟨origin, value, rfl⟩ := h setting List.mem_cons_self
      simp [laidOver]
    · simp [hname]

theorem ofEntries_eq_map (origin : Option String) (docs : List (String × Document)) :
    ofEntries origin docs = docs.map fun e => (e.1, ofDocument origin e.2) := by
  induction docs with
  | nil => rfl
  | cons entry rest ih => rw [ofEntries, ih, List.map_cons]

end Setting

namespace Entries

/-- The entries of the table at a root; what is no table has none. -/
def tableAt (entries : Entries) (root : String) : Entries :=
  Setting.entriesOf ((valueAt? root entries).getD Setting.unset)

/-- Is there a table at a root? -/
def HasTable (entries : Entries) (root : String) : Prop :=
  ∃ setting, valueAt? root entries = some setting ∧ setting.IsTable

/-- What entries put into the table at a root. -/
def putAt (entries : Entries) (root : String) : Entries :=
  entries.flatMap (entriesAt Setting.entriesOf root)

/-- Does an entry reach the table at a root as a whole table or under one of its keys, if it reaches
the root at all? -/
def Reaching (root : String) (entry : String × Setting) : Prop :=
  (pathOf entry.1).root = root →
    ((pathOf entry.1).steps = [] ∧ entry.2.IsTable) ∨ ∃ key, (pathOf entry.1).steps = [.key key]

variable {root key : String} {entries below : Entries} {entry : String × Setting}

theorem tableAt_eq {origin : Option String} {inner : Entries}
    (h : valueAt? root entries = some (.table origin inner)) : entries.tableAt root = inner := by
  rw [tableAt, h]
  rfl

theorem valueAt?_set (path : Path) (value : Setting) :
    valueAt? key (entries.set path value) =
      if path.root = key then
        some (Setting.changeAt (Setting.laidOver · value) path.steps
          ((valueAt? path.root entries).getD Setting.unset))
      else valueAt? key entries :=
  Document.valueAt?_insertEntry _ _

theorem valueAt?_setNamed_elsewhere (h : (pathOf entry.1).root ≠ root) :
    valueAt? root (below.setNamed entry.1 entry.2) = valueAt? root below :=
  (valueAt?_set (pathOf entry.1) entry.2).trans (if_neg h)

/-- A whole table and a value under a key do the same: what they put into the table is laid over
its entries. -/
theorem valueAt?_setNamed_reaching (below : Entries) (h : Reaching root entry)
    (hroot : (pathOf entry.1).root = root) :
    ∃ origin, valueAt? root (below.setNamed entry.1 entry.2) =
      some (.table origin (Setting.laidOverEntries (below.tableAt root)
        (entriesAt Setting.entriesOf root entry))) := by
  have hset : valueAt? root (below.setNamed entry.1 entry.2) = _ :=
    (valueAt?_set (pathOf entry.1) entry.2).trans (if_pos hroot)
  rw [hset, hroot]
  rcases h hroot with ⟨hsteps, origin, inner, htable⟩ | ⟨key, hsteps⟩
  · rw [entriesAt_root entry (by rw [← hroot, ← hsteps]), hsteps, htable]
    exact ⟨_, rfl⟩
  · rw [entriesAt_key entry (by rw [← hroot, ← hsteps]), hsteps]
    exact ⟨_, rfl⟩

/-- One entry laid over settings. -/
theorem valueAt?_tableAt_setNamed (h : Reaching root entry)
    (hscalar : ∀ setting, (key, setting) ∈ entriesAt Setting.entriesOf root entry →
      setting.IsScalar) :
    valueAt? key ((below.setNamed entry.1 entry.2).tableAt root) =
      (lastAt? key (entriesAt Setting.entriesOf root entry)).or
        (valueAt? key (below.tableAt root)) := by
  by_cases hroot : (pathOf entry.1).root = root
  · obtain ⟨origin, hset⟩ := valueAt?_setNamed_reaching below h hroot
    rw [tableAt_eq hset, Setting.valueAt?_laidOverEntries hscalar]
  · rw [entriesAt_elsewhere entry hroot, tableAt, valueAt?_setNamed_elsewhere hroot]
    rfl

theorem hasTable_setNamed (h : Reaching root entry)
    (hbelow : below.HasTable root ∨ (pathOf entry.1).root = root) :
    (below.setNamed entry.1 entry.2).HasTable root := by
  by_cases hroot : (pathOf entry.1).root = root
  · obtain ⟨origin, hset⟩ := valueAt?_setNamed_reaching below h hroot
    exact ⟨_, hset, _, _, rfl⟩
  · rw [HasTable, valueAt?_setNamed_elsewhere hroot]
    exact hbelow.resolve_right hroot

end Entries

section

variable {root key : String} {below entries : Entries}

/-- **Layers.**  What stands under a key in the table at a root comes from the last of the entries
laid over that puts a value under the key, and from below if there is none. -/
theorem valueAt?_tableAt_layOver (hreach : ∀ entry ∈ entries, Entries.Reaching root entry)
    (hscalar : ∀ setting, (key, setting) ∈ entries.putAt root → setting.IsScalar) :
    valueAt? key ((layOver below entries).tableAt root) =
      (lastAt? key (entries.putAt root)).or (valueAt? key (below.tableAt root)) := by
  -- What has been laid so far is the bottom for the rest of the entries.
  induction entries generalizing below with
  | nil => rfl
  | cons entry rest ih =>
    have hput : Entries.putAt (entry :: rest) root =
        entriesAt Setting.entriesOf root entry ++ Entries.putAt rest root := List.flatMap_cons
    rw [hput] at hscalar ⊢
    have hone : valueAt? key ((below.setNamed entry.1 entry.2).tableAt root) = _ :=
      Entries.valueAt?_tableAt_setNamed (hreach entry List.mem_cons_self)
        fun setting hmem => hscalar setting (List.mem_append_left _ hmem)
    rw [Document.lastAt?_append, Option.or_assoc, ← hone]
    exact ih (fun e he => hreach e (List.mem_cons_of_mem _ he))
      fun setting hmem => hscalar setting (List.mem_append_right _ hmem)

/-- A table stays one, and an entry that reaches it makes one. -/
theorem hasTable_layOver (hreach : ∀ entry ∈ entries, Entries.Reaching root entry)
    (hbelow : below.HasTable root ∨ ∃ entry ∈ entries, (pathOf entry.1).root = root) :
    (layOver below entries).HasTable root := by
  induction entries generalizing below with
  | nil => exact hbelow.resolve_right (by simp)
  | cons entry rest ih =>
    change (layOver (below.setNamed entry.1 entry.2) rest).HasTable root
    refine ih (fun e he => hreach e (List.mem_cons_of_mem _ he)) ?_
    have hfirst := hreach entry List.mem_cons_self
    rcases hbelow with htable | ⟨e, he, hroot⟩
    · exact .inl (Entries.hasTable_setNamed hfirst (.inl htable))
    · rcases List.mem_cons.mp he with rfl | hin
      · exact .inl (Entries.hasTable_setNamed hfirst (.inr hroot))
      · exact .inr ⟨e, hin, hroot⟩

end

end Settings

end RevocationCheck
