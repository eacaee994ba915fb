import RevocationCheck.Proofs.Elements
import RevocationCheck.Settings.Reading

/-!
# The fields of a policy, one by one

Reading a policy from a table reads each field by itself: there is a policy exactly if every value
that is given reads for its field, and then each field has what its own value says.  Where a value
came from matters for messages only.

What a value says is told by the policy in which it is the only value given, so nothing here has to
list how the six fields are read.
-/

namespace RevocationCheck.Settings

/-- A field of a policy. -/
inductive Field
  | depth
  | offlineListFile
  | offlineIssuerFile
  | distributionPoint
  | distributionPointIssuerFile
  | verifyOfflineSignature
deriving Repr, DecidableEq

namespace Field

/-- The position of a field among all. -/
def position : Field → Nat
  | depth => 0
  | offlineListFile => 1
  | offlineIssuerFile => 2
  | distributionPoint => 3
  | distributionPointIssuerFile => 4
  | verifyOfflineSignature => 5

/-- The name of a field in settings. -/
def name (f : Field) : String := fieldNames.getD f.position ""

/-- Have two policies the same in a field? -/
def Agrees (p q : Policy) : Field → Prop
  | depth => p.depth = q.depth
  | offlineListFile => p.offlineListFile = q.offlineListFile
  | offlineIssuerFile => p.offlineIssuerFile = q.offlineIssuerFile
  | distributionPoint => p.distributionPoint = q.distributionPoint
  | distributionPointIssuerFile => p.distributionPointIssuerFile = q.distributionPointIssuerFile
  | verifyOfflineSignature => p.verifyOfflineSignature = q.verifyOfflineSignature

/-- The policy in which a value for a field is the only one given. -/
def alone (f : Field) (value : Document) : Except Fault Policy :=
  readPolicy "crl" (.table none [(f.name, Setting.ofDocument none value)])

/-- Does a value read for a field? -/
def Accepts (f : Field) (value : Document) : Prop := ∃ policy, f.alone value = .ok policy

/-- Does a policy have in a field what a value says, and the default without one? -/
def Follows (policy : Policy) (value : Option Document) (f : Field) : Prop :=
  match value with
  | none => f.Agrees policy Policy.default
  | some value => ∃ only, f.alone value = .ok only ∧ f.Agrees policy only

variable {p q r : Policy} {f g : Field}

theorem name_injective : Function.Injective name := by
  intro f g h
  cases f <;> cases g <;> first | rfl | exact absurd h (by decide)

theorem Agrees.refl (p : Policy) (f : Field) : f.Agrees p p := by
  cases f <;> rfl

theorem Agrees.symm (h : f.Agrees p q) : f.Agrees q p := by
  cases f <;> exact Eq.symm h

theorem Agrees.trans (hpq : f.Agrees p q) (hqr : f.Agrees q r) : f.Agrees p r := by
  cases f <;> exact Eq.trans hpq hqr

/-- A policy can take each field from a policy of its own. -/
theorem exists_agrees (choice : Field → Policy) : ∃ p, ∀ f, Agrees p (choice f) f :=
  ⟨⟨(choice .depth).depth, (choice .offlineListFile).offlineListFile,
    (choice .offlineIssuerFile).offlineIssuerFile, (choice .distributionPoint).distributionPoint,
    (choice .distributionPointIssuerFile).distributionPointIssuerFile,
    (choice .verifyOfflineSignature).verifyOfflineSignature⟩, fun f => by cases f <;> rfl⟩

/-- Does a policy have in a field what is read from a setting? -/
def Reads (key : String) (setting : Option Setting) (policy : Policy) : Field → Prop
  | depth => readOr readNumber key setting Policy.default.depth = .ok policy.depth
  | offlineListFile =>
    readOr readText key setting Policy.default.offlineListFile = .ok policy.offlineListFile
  | offlineIssuerFile =>
    readOr readText key setting Policy.default.offlineIssuerFile = .ok policy.offlineIssuerFile
  | distributionPoint =>
    readOr readUrl key setting Policy.default.distributionPoint = .ok policy.distributionPoint
  | distributionPointIssuerFile =>
    readOr readText key setting Policy.default.distributionPointIssuerFile =
      .ok policy.distributionPointIssuerFile
  | verifyOfflineSignature =>
    readOr readTruth key setting Policy.default.verifyOfflineSignature =
      .ok policy.verifyOfflineSignature

variable {key : String} {setting : Option Setting}

theorem Reads.congr (h : f.Agrees p q) : f.Reads key setting p ↔ f.Reads key setting q := by
  cases f <;> exact iff_of_eq (congrArg (_ = Except.ok ·) h)

theorem reads_none : f.Reads key none p ↔ f.Agrees p Policy.default := by
  cases f <;> exact ⟨fun h => (Except.ok.inj h).symm, fun h => congrArg Except.ok h.symm⟩

end Field

/-- A policy is read field by field. -/
theorem readFields_eq_ok_iff {field : Nat → String × Option Setting} {policy : Policy} :
    readFields field = .ok policy ↔
      ∀ f : Field, f.Reads (field f.position).1 (field f.position).2 policy := by
  constructor
  · intro h f
    simp only [readFields, Der.bind_eq_ok_iff, Der.pure_eq_ok_iff] at h
    obtain ⟨depth, hdepth, list, hlist, listIssuer, hlistIssuer, point, hpoint, pointIssuer,
      hpointIssuer, verify, hverify, rfl⟩ := h
    cases f <;> assumption
  · intro h
    simp only [readFields, Der.bind_eq_ok_iff]
    exact ⟨_, h .depth, _, h .offlineListFile, _, h .offlineIssuerFile, _, h .distributionPoint, _,
      h .distributionPointIssuerFile, _, h .verifyOfflineSignature, rfl⟩

theorem readFields_congr {field other : Nat → String × Option Setting}
    (h : ∀ f : Field, field f.position = other f.position) :
    readFields field = readFields other := by
  have hdepth : field 0 = other 0 := h .depth
  have hlist : field 1 = other 1 := h .offlineListFile
  have hlistIssuer : field 2 = other 2 := h .offlineIssuerFile
  have hpoint : field 3 = other 3 := h .distributionPoint
  have hpointIssuer : field 4 = other 4 := h .distributionPointIssuerFile
  have hverify : field 5 = other 5 := h .verifyOfflineSignature
  simp only [readFields, hdepth, hlist, hlistIssuer, hpoint, hpointIssuer, hverify]

section

variable {key : String} {origin other : Option String} {entries others : Entries} {policy : Policy}

/-- A policy is read from what a table has under the names of the fields. -/
theorem readPolicy_table_eq_ok_iff :
    readPolicy key (.table origin entries) = .ok policy ↔
      ∀ f : Field, f.Reads (key ++ "." ++ f.name) (Document.valueAt? f.name entries) policy := by
  rw [readPolicy, readFields_eq_ok_iff]
  rfl

theorem readPolicy_table_congr
    (h : ∀ f : Field, Document.valueAt? f.name entries = Document.valueAt? f.name others) :
    readPolicy key (.table origin entries) = readPolicy key (.table other others) := by
  rw [readPolicy, readPolicy]
  exact readFields_congr fun f => congrArg (key ++ "." ++ f.name, ·) (h f)

/-! Where a value comes from is told in messages only. -/

variable {value : Scalar}

theorem readNumber_scalar {n : Nat} (h : readNumber key (.scalar origin value) = .ok n) :
    readNumber key (.scalar other value) = .ok n := by
  cases value with
  | nil => cases h
  | boolean b => exact h
  | integer m =>
    simp only [readNumber] at h ⊢
    split at h
    · next hm => rwa [if_pos hm]
    · cases h
  | float x => exact h
  | text s =>
    simp only [readNumber] at h ⊢
    split at h
    · exact h
    · exact h
    · cases h

theorem readTruth_scalar {b : Bool} (h : readTruth key (.scalar origin value) = .ok b) :
    readTruth key (.scalar other value) = .ok b := by
  cases value with
  | nil => cases h
  | boolean b => exact h
  | integer m => exact h
  | float x => exact h
  | text s =>
    simp only [readTruth] at h ⊢
    split at h
    · exact h
    · exact h
    · exact h
    · cases h

theorem readText_scalar {s : String} (h : readText key (.scalar origin value) = .ok s) :
    readText key (.scalar other value) = .ok s := by
  cases value with
  | nil => cases h
  | _ => exact h

theorem readUrl_scalar {url : Option Url} (h : readUrl key (.scalar origin value) = .ok url) :
    readUrl key (.scalar other value) = .ok url := by
  cases value with
  | _ => exact h

end

namespace Field

variable {p : Policy} {f : Field} {key : String} {origin other : Option String} {value : Document}

theorem Reads.scalar {value : Scalar} (h : f.Reads key (some (.scalar origin value)) p) :
    f.Reads key (some (.scalar other value)) p := by
  cases f with
  | depth => exact readNumber_scalar h
  | distributionPoint => exact readUrl_scalar h
  | verifyOfflineSignature => exact readTruth_scalar h
  | offlineListFile | offlineIssuerFile | distributionPointIssuerFile => exact readText_scalar h

end Field

end RevocationCheck.Settings

namespace RevocationCheck.Document

/-- Text, a whole number or a truth value. -/
def IsPlain : Document → Prop
  | .text _ | .integer _ | .boolean _ => True
  | _ => False

instance : DecidablePred IsPlain
  | .text _ | .integer _ | .boolean _ => isTrue trivial
  | .null | .float _ | .array _ | .table _ => isFalse id

theorem IsPlain.isScalar {value : Document} (h : value.IsPlain) :
    ∃ scalar, ∀ origin, Settings.Setting.ofDocument origin value = .scalar origin scalar := by
  cases value with
  | boolean b => exact ⟨.boolean b, fun origin => rfl⟩
  | integer n => exact ⟨.integer n, fun origin => rfl⟩
  | text s => exact ⟨.text s, fun origin => rfl⟩
  | null | float | array | table => exact h.elim

end RevocationCheck.Document

namespace RevocationCheck.Settings.Field

variable {p : Policy} {f : Field} {origin : Option String} {value : Document}

theorem alone_eq_ok_iff :
    f.alone value = .ok p ↔
      f.Reads ("crl" ++ "." ++ f.name) (some (Setting.ofDocument none value)) p ∧
        ∀ g, g ≠ f → g.Agrees p Policy.default := by
  have hgiven : Document.valueAt? f.name [(f.name, Setting.ofDocument none value)] =
      some (Setting.ofDocument none value) := by simp [Document.valueAt?]
  have hother : ∀ g, g ≠ f →
      Document.valueAt? g.name [(f.name, Setting.ofDocument none value)] = none := by
    intro g hg
    have hname : f.name ≠ g.name := fun e => hg (name_injective e).symm
    simp [Document.valueAt?, hname]
  rw [alone, readPolicy_table_eq_ok_iff]
  constructor
  · intro h
    refine ⟨hgiven ▸ h f, fun g hg => ?_⟩
    have hread := h g
    rw [hother g hg] at hread
    exact reads_none.mp hread
  · rintro ⟨hf, hrest⟩ g
    by_cases hg : g = f
    · rw [hg, hgiven]
      exact hf
    · rw [hother g hg]
      exact reads_none.mpr (hrest g hg)

/-- What a plain value says for a field is what is read from it, wherever it comes from. -/
theorem follows_some_iff (hplain : value.IsPlain) :
    f.Follows p (some value) ↔
      f.Reads ("crl" ++ "." ++ f.name) (some (Setting.ofDocument origin value)) p := by
  obtain ⟨scalar, hscalar⟩ := hplain.isScalar
  rw [hscalar]
  constructor
  · rintro ⟨only, halone, hagrees⟩
    obtain ⟨hread, -⟩ := alone_eq_ok_iff.mp halone
    rw [hscalar] at hread
    exact (Reads.congr hagrees).mpr hread.scalar
  · intro hread
    -- With the value alone there is `p` in its field, and the default in all others.
    obtain ⟨only, honly⟩ := exists_agrees fun g => if g = f then p else Policy.default
    have hagrees : f.Agrees only p := by simpa using honly f
    refine ⟨only, alone_eq_ok_iff.mpr ⟨?_, fun g hg => by simpa [hg] using honly g⟩, hagrees.symm⟩
    rw [hscalar]
    exact (Reads.congr hagrees).mpr hread.scalar

theorem follows_of_map_alone {value : Option Document} {only : Policy}
    (h : value.map f.alone = some (.ok only)) (hagrees : f.Agrees p only) : f.Follows p value := by
  obtain ⟨value, rfl, halone⟩ := Option.map_eq_some_iff.mp h
  exact ⟨only, halone, hagrees⟩

/-- There is a policy for some values exactly if each of them reads for its field. -/
theorem exists_follows_iff {values : Field → Option Document} :
    (∃ policy, ∀ f, Follows policy (values f) f) ↔
      ∀ f value, values f = some value → f.Accepts value := by
  constructor
  · rintro ⟨policy, h⟩ f value hvalue
    have hfollows := h f
    rw [hvalue] at hfollows
    obtain ⟨only, halone, -⟩ := hfollows
    exact ⟨only, halone⟩
  · intro h
    have hone : ∀ f, ∃ policy, Follows policy (values f) f := by
      intro f
      cases hvalue : values f with
      | none => exact ⟨Policy.default, Agrees.refl _ f⟩
      | some value =>
        obtain ⟨only, halone⟩ := h f value hvalue
        exact ⟨only, only, halone, Agrees.refl _ f⟩
    choose choice hchoice using hone
    obtain ⟨policy, hpolicy⟩ := exists_agrees choice
    refine ⟨policy, fun f => ?_⟩
    have hf := hchoice f
    unfold Follows at hf ⊢
    split
    · next hnone =>
      rw [hnone] at hf
      exact (hpolicy f).trans hf
    · next value hsome =>
      rw [hsome] at hf
      obtain ⟨only, halone, hagrees⟩ := hf
      exact ⟨only, halone, (hpolicy f).trans hagrees⟩

end RevocationCheck.Settings.Field
