import RevocationCheck.Proofs.Acceptance
import RevocationCheck.Proofs.SignerAuthority
import RevocationCheck.Proofs.SourcePriority

/-!
# Stricter checks reject more

Two runs are compared that differ in how much they ask for: the second one takes place at a later
time, may want the offline list to be signed, and may check more certificates.

A check against a later time is the same as before, or it is cut short by a list that is not valid
any more (`Tightens`).  This is shown for the parts of a check and carried over to whole checks by
`Tightens.bind`, since behind a failure nothing more is asked for.  More depth adds targets behind
those that are checked anyway (`rawTargets_prefix_of_deeper`), so it changes nothing before the first failure.
-/

namespace RevocationCheck.Verification

/-- A failure of a list to be valid: it has expired, or it is not signed by its issuer. -/
def IsInvalidity (failure : Failure) : Prop := failure.kind = .expired ∨ failure.kind = .signature

/-- A check that is cut short: it fails at a list that is not valid, and up to there it asks for
the same URLs as the other one. -/
structure CutShort {α : Type} (lax strict : Checked α) : Prop where
  failed : ∃ failure, strict.result = .error failure ∧ IsInvalidity failure
  fetched : strict.fetched <+: lax.fetched

/-- A check is the same as another one, or it is cut short. -/
def Tightens {α : Type} (lax strict : Checked α) : Prop := strict = lax ∨ CutShort lax strict

/-- A check accepts no more than another one.  Where the other one fails, it fails in the same way
and asks for the same URLs, unless it is cut short. -/
structure NoLaxer (lax strict : Checked Unit) : Prop where
  accepts : strict.result = .ok () → lax.result = .ok ()
  rejects : ∀ failure, lax.result = .error failure → strict = lax ∨ CutShort lax strict

/-! ### Sequences -/

section Sequences

variable {α β : Type} {lax strict : Checked α}

theorem Tightens.refl (checked : Checked α) : Tightens checked checked := .inl rfl

/-- Two results behind the same URLs. -/
theorem Tightens.of_result (fetched : List String) {result strictResult : Except Failure α}
    (h : strictResult = result ∨ ∃ failure, strictResult = .error failure ∧ IsInvalidity failure) :
    Tightens ⟨fetched, result⟩ ⟨fetched, strictResult⟩ := by
  rcases h with rfl | hfailed
  · exact .refl _
  · exact .inr ⟨hfailed, List.prefix_refl fetched⟩

/-- What a sequence asks for begins with what its first check asks for. -/
theorem fetched_prefix_bind (checked : Checked α) (f : α → Checked β) :
    checked.fetched <+: (checked >>= f).fetched := by
  cases h : checked.result with
  | error failure =>
      have hfetched : (checked >>= f).fetched = checked.fetched := by
        rw [Checked.bind_of_error h]
      exact hfetched ▸ List.prefix_refl _
  | ok x =>
      have hfetched : (checked >>= f).fetched = checked.fetched ++ (f x).fetched := by
        rw [Checked.bind_of_ok h]
      exact hfetched ▸ List.prefix_append _ _

/-- A sequence is cut short where its first check is. -/
theorem CutShort.bind (h : CutShort lax strict) (f g : α → Checked β) :
    CutShort (lax >>= f) (strict >>= g) := by
  obtain ⟨failure, hfailed, hinvalid⟩ := h.failed
  rw [Checked.bind_of_error hfailed]
  exact ⟨⟨failure, rfl, hinvalid⟩, h.fetched.trans (fetched_prefix_bind lax f)⟩

theorem Tightens.bind {f g : α → Checked β} (h : Tightens lax strict)
    (hrest : ∀ x, lax.result = .ok x → Tightens (f x) (g x)) :
    Tightens (lax >>= f) (strict >>= g) := by
  rcases h with rfl | hcut
  · cases hresult : strict.result with
    | error failure =>
        rw [Checked.bind_of_error hresult, Checked.bind_of_error hresult]
        exact .refl _
    | ok x =>
        rw [Checked.bind_of_ok hresult, Checked.bind_of_ok hresult]
        rcases hrest x hresult with heq | hcut
        · rw [heq]
          exact .refl _
        · exact .inr ⟨hcut.failed, List.prefix_append_right_inj _ |>.mpr hcut.fetched⟩
  · exact .inr (hcut.bind f g)

end Sequences

/-- What happens to a check that succeeds does not matter. -/
theorem NoLaxer.of_rejects {lax strict : Checked Unit}
    (h : ∀ failure, lax.result = .error failure → Tightens lax strict) : NoLaxer lax strict where
  accepts hok := by
    cases hresult : lax.result with
    | ok _ => rfl
    | error failure =>
        rcases h failure hresult with heq | hcut
        · rw [heq, hresult] at hok
          cases hok
        · obtain ⟨other, hfailed, -⟩ := hcut.failed
          rw [hfailed] at hok
          cases hok
  rejects := h

theorem Tightens.noLaxer {lax strict : Checked Unit} (h : Tightens lax strict) :
    NoLaxer lax strict := .of_rejects fun _ _ => h

/-- A check that goes on where the other one ends is no laxer than that one. -/
theorem Tightens.noLaxer_bind {lax strict : Checked Unit} (h : Tightens lax strict)
    (more : Unit → Checked Unit) : NoLaxer lax (strict >>= more) := by
  refine .of_rejects fun failure hfailed => ?_
  rcases h with rfl | hcut
  · rw [Checked.bind_of_error hfailed]
    exact .inl (by rw [← hfailed])
  · have hmore := hcut.bind pure more
    rw [bind_pure] at hmore
    exact .inr hmore

theorem Tightens.noLaxer_seq {α : Type} {lax strict : Checked α} {f g : α → Checked Unit}
    (h : Tightens lax strict) (hrest : ∀ x, NoLaxer (f x) (g x)) :
    NoLaxer (lax >>= f) (strict >>= g) := by
  refine .of_rejects fun failure hfailed => h.bind fun x hx => ?_
  rw [Checked.bind_of_ok hx] at hfailed
  exact (hrest x).rejects failure hfailed

/-! ### Lists -/

section Lists

variable {now later : Timestamp} {wanted alsoWanted : Bool}

/-- What is still to come at a later time is to come now. -/
theorem isAfter_of_isAfter_later {t : Timestamp} (hlater : now.isAfter later = false)
    (h : t.isAfter later = true) : t.isAfter now = true := by
  have hnot : ¬ now.isAfter later = true := by simp [hlater]
  rw [Timestamp.isAfter_eq_true_iff] at h hnot ⊢
  omega

/-- A list that has decoded does so again, so what is wrong with its signature is no fault of its
octets. -/
theorem isInvalidity_of_verifySignature {data : Octets} {list : RevocationList}
    {issuer : X509.Certificate} {fault : RevocationList.SignatureFault}
    (hlist : RevocationList.ofPem data = .ok list)
    (hfault : list.verifySignature issuer = .error fault) :
    IsInvalidity (.ofInvalidity (.signature fault)) := by
  unfold RevocationList.ofPem at hlist
  split at hlist
  · cases hlist
  · exact .inr (RevocationList.kind_of_verifySignature hlist hfault)

/-- Once a list is current, the wish for a signature can only do harm. -/
theorem validate_true_cases {data : Octets} {list : RevocationList}
    (hlist : RevocationList.ofPem data = .ok list) (hcurrent : list.isCurrentAt now = true)
    (issuer : Option X509.Certificate) :
    list.validate issuer true now = .ok list ∨
      ∃ invalidity, list.validate issuer true now = .error invalidity ∧
        IsInvalidity (.ofInvalidity invalidity) := by
  unfold RevocationList.validate
  rw [if_pos hcurrent, if_pos rfl]
  cases issuer with
  | none => exact .inr ⟨_, rfl, .inr rfl⟩
  | some signer =>
      cases hsigned : list.verifySignature signer with
      | ok _ => exact .inl (by simp [hsigned])
      | error fault =>
          exact .inr ⟨_, by simp [hsigned], isInvalidity_of_verifySignature hlist hsigned⟩

/-- A list is as valid as before, or it is not valid any more. -/
theorem validate_tightens (hlater : now.isAfter later = false)
    (hwanted : wanted = true → alsoWanted = true) {data : Octets} {list : RevocationList}
    (hlist : RevocationList.ofPem data = .ok list) (issuer : Option X509.Certificate) :
    list.validate issuer alsoWanted later = list.validate issuer wanted now ∨
      ∃ invalidity, list.validate issuer alsoWanted later = .error invalidity ∧
        IsInvalidity (.ofInvalidity invalidity) := by
  cases hcurrent : list.isCurrentAt later with
  | false => exact .inr ⟨.expired list.nextUpdate, by simp [RevocationList.validate, hcurrent],
      .inl rfl⟩
  | true =>
      have hnow : list.isCurrentAt now = true := isAfter_of_isAfter_later hlater hcurrent
      -- The time no longer counts, so only the wish for a signature can make a difference.
      have hsame (flag : Bool) :
          list.validate issuer flag later = list.validate issuer flag now := by
        simp [RevocationList.validate, hcurrent, hnow]
      rw [hsame]
      by_cases hflags : alsoWanted = wanted
      · exact .inl (by rw [hflags])
      · obtain ⟨rfl, rfl⟩ : alsoWanted = true ∧ wanted = false := by
          revert hwanted hflags
          cases alsoWanted <;> cases wanted <;> decide
        have hunwanted : list.validate issuer false now = .ok list := by
          simp [RevocationList.validate, hnow]
        rw [hunwanted]
        exact validate_true_cases hlist hnow issuer

theorem validList_tightens (hlater : now.isAfter later = false)
    (hwanted : wanted = true → alsoWanted = true) (data : Octets)
    (issuer : Option X509.Certificate) :
    Source.validList data issuer alsoWanted later = Source.validList data issuer wanted now ∨
      ∃ failure, Source.validList data issuer alsoWanted later = .error failure ∧
        IsInvalidity failure := by
  unfold Source.validList
  cases hlist : RevocationList.ofPem data with
  | error fault => exact .inl rfl
  | ok list =>
      dsimp only
      rcases validate_tightens hlater hwanted hlist issuer with heq | ⟨invalidity, heq, hinvalid⟩
      · exact .inl (by rw [heq])
      · exact .inr ⟨_, by rw [heq], hinvalid⟩

theorem loadOfflineList_tightens (files : FileSystem) (policy : Policy) (depth : Nat)
    (hlater : now.isAfter later = false)
    (hwanted : policy.verifyOfflineSignature = true → wanted = true) :
    Tightens (.of (Source.loadOfflineList files policy now))
      (.of (Source.loadOfflineList files
        { policy with depth := depth, verifyOfflineSignature := wanted } later)) := by
  refine .of_result [] ?_
  unfold Source.loadOfflineList
  dsimp only
  cases Source.readConfigured files policy.offlineListFile with
  | error cause => exact .inl rfl
  | ok data =>
      dsimp only
      by_cases hempty : data.isEmpty = true
      · rw [if_pos hempty, if_pos hempty]
        exact .inl rfl
      · rw [if_neg hempty, if_neg hempty]
        cases Source.loadIssuer files .offlineList policy.offlineIssuerFile with
        | error failure => exact .inl rfl
        | ok issuer =>
            dsimp only
            rcases validList_tightens hlater hwanted data issuer with
              heq | ⟨failure, heq, hinvalid⟩
            · exact .inl (by rw [heq])
            · exact .inr ⟨failure, by rw [heq], hinvalid⟩

end Lists

/-! ### Certificates -/

section Certificates

variable {world : World} {policy : Policy} {later : Timestamp}

theorem retrieve_tightens (hlater : world.now.isAfter later = false) (url : String)
    (signer : Option X509.Certificate) :
    Tightens (retrieve world url signer) (retrieve { world with now := later } url signer) := by
  refine .of_result [url] ?_
  dsimp only
  cases world.network url with
  | error fault => exact .inl rfl
  | ok data => exact validList_tightens hlater id data signer

theorem checkCertificate_tightens (hlater : world.now.isAfter later = false) (depth : Nat)
    (wanted : Bool) (offline : Option RevocationList) (certificate issuer : X509.Certificate) :
    Tightens (checkCertificate world policy offline certificate issuer)
      (checkCertificate { world with now := later }
        { policy with depth := depth, verifyOfflineSignature := wanted }
        offline certificate issuer) := by
  refine Tightens.bind ?_ fun _ _ => .refl _
  unfold fetchedList
  dsimp only
  split
  · exact (retrieve_tightens hlater _ _).bind fun _ _ => .refl _
  · split
    · exact .refl _
    · exact Tightens.bind (.refl _) fun signer _ =>
        (retrieve_tightens hlater _ signer).bind fun _ _ => .refl _

/-- The induction along the targets: each of them is checked as before, or ends the check. -/
theorem checkTargets_tightens (hlater : world.now.isAfter later = false) (depth : Nat)
    (wanted : Bool) (offline : Option RevocationList) (targets : List Target) :
    Tightens (checkTargets world policy offline targets)
      (checkTargets { world with now := later }
        { policy with depth := depth, verifyOfflineSignature := wanted } offline targets) := by
  induction targets with
  | nil => exact .refl _
  | cons target rest ih =>
      exact (checkCertificate_tightens hlater depth wanted offline target.certificate
        target.issuer).bind fun _ _ => ih

end Certificates

/-! ### More depth -/

/-- A depth that covers at least as many certificates as another one.  Zero covers all. -/
def AtLeastAsDeep (depth deeper : Nat) : Prop := deeper = 0 ∨ depth ≠ 0 ∧ depth ≤ deeper

theorem withinDepth_prefix_of_deeper {depth deeper : Nat} (h : AtLeastAsDeep depth deeper)
    (certificates : List X509.Certificate) :
    withinDepth depth certificates <+: withinDepth deeper certificates := by
  unfold withinDepth
  rcases h with hall | ⟨hdepth, hle⟩
  · rw [if_pos hall]
    split
    · exact List.prefix_refl _
    · exact List.take_prefix _ _
  · rw [if_neg hdepth, if_neg (by omega)]
    exact List.take_prefix_take_left hle

theorem rawTargets_prefix_of_deeper {depth deeper : Nat} (h : AtLeastAsDeep depth deeper)
    (certificates : List X509.Certificate) :
    rawTargets depth certificates <+: rawTargets deeper certificates :=
  (withinDepth_prefix_of_deeper h certificates).map _

/-- More targets do not change the failure of those that come first. -/
theorem checkTargets_of_prefix {world : World} {policy : Policy} {offline : Option RevocationList}
    {front targets : List Target} (hfront : front <+: targets) {failure : Failure}
    (hfailed : (checkTargets world policy offline front).result = .error failure) :
    checkTargets world policy offline targets = checkTargets world policy offline front := by
  obtain ⟨back, rfl⟩ := hfront
  rw [checkTargets_append, Checked.bind_of_error hfailed, ← hfailed]

/-! ### Whole runs -/

/-- A failure is not changed by more depth. -/
theorem verifyRaw_of_deeper {world : World} {policy : Policy} {depth : Nat}
    (hdepth : AtLeastAsDeep policy.depth depth) {certificates : List X509.Certificate}
    {failure : Failure} (hfailed : (verifyRaw world policy certificates).result = .error failure) :
    verifyRaw world { policy with depth := depth } certificates =
      verifyRaw world policy certificates := by
  rw [verifyRaw_eq_bind] at hfailed
  rw [verifyRaw_depth_eq_bind, verifyRaw_eq_bind]
  cases h : Source.loadOfflineList world.files policy world.now with
  | error _ => rfl
  | ok offline =>
      rw [h, Checked.of_ok_bind] at hfailed
      rw [Checked.of_ok_bind, Checked.of_ok_bind]
      exact checkTargets_of_prefix (rawTargets_prefix_of_deeper hdepth certificates) hfailed

/-- Being stricter never helps.  Let a second run take place no earlier than a first one, want a
signature of the offline list if the first one does, and check at least as many certificates, with
everything else the same.  Then it accepts no more than the first one, and where the first one
fails, it fails in the same way and asks for the same URLs, unless it is cut short by a list that
has expired or is not signed.  A failure at some depth is the very same at every larger one. -/
theorem stricter_run_rejects (world : World) (policy : Policy) {later : Timestamp} {wanted : Bool}
    {depth : Nat} (hlater : world.now.isAfter later = false)
    (hwanted : policy.verifyOfflineSignature = true → wanted = true)
    (hdepth : AtLeastAsDeep policy.depth depth) :
    (∀ chains, NoLaxer (verifyChains world policy chains)
      (verifyChains { world with now := later }
        { policy with depth := depth, verifyOfflineSignature := wanted } chains)) ∧
    (∀ certificates, NoLaxer (verifyRaw world policy certificates)
      (verifyRaw { world with now := later }
        { policy with depth := depth, verifyOfflineSignature := wanted } certificates)) ∧
    ∀ certificates failure, (verifyRaw world policy certificates).result = .error failure →
      verifyRaw world { policy with depth := depth } certificates =
        verifyRaw world policy certificates := by
  have hload := loadOfflineList_tightens world.files policy depth hlater hwanted
  refine ⟨fun chains => ?_, fun certificates => ?_, fun certificates failure hfailed =>
    verifyRaw_of_deeper hdepth hfailed⟩
  · rw [verifyChains_eq_bind, verifyChains_eq_bind]
    exact (hload.bind fun offline _ =>
      checkTargets_tightens hlater depth wanted offline (verifiedTargets chains)).noLaxer
  · rw [verifyRaw_eq_bind, verifyRaw_eq_bind]
    obtain ⟨back, hback⟩ := rawTargets_prefix_of_deeper hdepth certificates
    refine hload.noLaxer_seq fun offline => ?_
    rw [← hback, checkTargets_append]
    exact (checkTargets_tightens hlater depth wanted offline _).noLaxer_bind _

/-! ### A sample -/

/-- The certificate with the serial number 5 is revoked in 2023, and it is still refused in 2027,
when all certificates are checked and the list has to be signed. -/
theorem stricter_run_rejects_sample :
    Sample.now.isAfter (.utc 1800000000 0) = false ∧ AtLeastAsDeep 1 0 ∧
      (verifyRaw (Sample.world true) Sample.offlinePolicy [Sample.certificate []]).result =
        .error (.revoked "05") ∧
      (verifyRaw { Sample.world true with now := .utc 1800000000 0 }
        { Sample.offlinePolicy with depth := 0, verifyOfflineSignature := true }
        [Sample.certificate []]).result ≠ .ok () := by
  have hlater : Sample.now.isAfter (.utc 1800000000 0) = false := by decide
  have hdeep : AtLeastAsDeep 1 0 := .inl rfl
  have htargets : rawTargets 1 [Sample.certificate []] =
      [⟨Sample.certificate [], Sample.certificate []⟩] := by decide +kernel
  have hfails : FailsWith (Sample.world true) Sample.offlinePolicy (some Sample.offlineList)
      (Sample.certificate []) (Sample.certificate []) (.revoked "05") :=
    Sample.failsWith_offlineList rfl rfl
  have loaded : Source.loadOfflineList (Sample.world true).files Sample.offlinePolicy
      (Sample.world true).now = .ok (some Sample.offlineList) :=
    Sample.loadOfflineList_offlinePolicy rfl
  have hrevoked : (verifyRaw (Sample.world true) Sample.offlinePolicy
      [Sample.certificate []]).result = .error (.revoked "05") := by
    rw [verifyRaw_of_loaded loaded]
    change (checkTargets _ _ _ (rawTargets 1 _)).result = _
    rw [htargets, checkTargets_cons_of_failsWith hfails]
  refine ⟨hlater, hdeep, hrevoked, fun hok => ?_⟩
  have hwanted : Sample.offlinePolicy.verifyOfflineSignature = true → true = true := fun _ => rfl
  have hlax := ((stricter_run_rejects (Sample.world true) Sample.offlinePolicy hlater hwanted
    hdeep).2.1 _).accepts hok
  rw [hrevoked] at hlax
  cases hlax

end RevocationCheck.Verification
