import RevocationCheck.Proofs.ListSource

/-!
# The first failure decides

Both ways to check certificates come down to one list of targets, which are checked in order up to
the first failure.  This module says which targets these are (`verifiedTargets`, `rawTargets`) and
how the check of a list of targets goes (`Course`): what its result is, and which URLs it asks for.

The two loops, over the chains and over the certificates of a chain, are related to the one list by
`checkChains_eq_checkTargets`, `checkFrom_none` and `checkFrom_some`, the last of which is about the
depth.  The induction along the list is in `course_checkTargets`.
-/

namespace RevocationCheck.Verification

/-- A certificate that is to be checked, and the one that counts as its issuer. -/
structure Target where
  certificate : X509.Certificate
  issuer : X509.Certificate
deriving Repr, DecidableEq

/-- Check targets one after another. -/
def checkTargets (world : World) (policy : Policy) (offline : Option RevocationList) :
    List Target → Checked Unit
  | [] => pure ()
  | target :: rest => do
    checkCertificate world policy offline target.certificate target.issuer
    checkTargets world policy offline rest

/-! ### The targets of the two ways to check -/

/-- The targets of a verified chain: the next certificate issued each, and the last one itself. -/
def chainTargets (chain : List X509.Certificate) : List Target :=
  chain.zipIdx.map fun entry => ⟨entry.1, chain[entry.2 + 1]?.getD entry.1⟩

/-- The targets of verified chains, chain by chain. -/
def verifiedTargets (chains : List (List X509.Certificate)) : List Target :=
  chains.flatMap chainTargets

/-- The certificates of an unverified list that are checked; depth zero stands for all. -/
def withinDepth (depth : Nat) (certificates : List X509.Certificate) : List X509.Certificate :=
  if depth = 0 then certificates else certificates.take depth

/-- The targets of an unverified list.  Issuers are searched by name in the whole list, and a
certificate without one counts as its own. -/
def rawTargets (depth : Nat) (certificates : List X509.Certificate) : List Target :=
  (withinDepth depth certificates).map fun certificate =>
    ⟨certificate, (Issuer.find? certificate.issuer certificates).getD certificate⟩

/-- The targets at the positions of a chain from one position on, by a rule for issuers. -/
def targetsFrom (rule : IssuerRule) (chain : List X509.Certificate) (position : Nat)
    (certificates : List X509.Certificate) : List Target :=
  (certificates.zipIdx position).map fun entry =>
    ⟨entry.1, (rule.issuerAt? chain entry.2).getD entry.1⟩

theorem issuerAt?_verifiedChain {chain : List X509.Certificate} {position : Nat}
    {certificate : X509.Certificate} (h : chain[position]? = some certificate) :
    (IssuerRule.verifiedChain.issuerAt? chain position).getD certificate =
      chain[position + 1]?.getD certificate := by
  obtain ⟨hlt, hget⟩ := List.getElem?_eq_some_iff.mp h
  unfold IssuerRule.issuerAt? IssuerRule.index? IssuerRule.indexBehind?
  by_cases hnext : position + 1 < chain.length
  · simp [hnext]
  · simp [hnext, hlt, hget]

theorem issuerAt?_subjectMatch {chain : List X509.Certificate} {position : Nat}
    {certificate : X509.Certificate} (h : chain[position]? = some certificate) :
    IssuerRule.subjectMatch.issuerAt? chain position =
      Issuer.find? certificate.issuer chain := by
  simp [IssuerRule.issuerAt?, IssuerRule.index?, IssuerRule.indexByName?, h,
    Issuer.find?_eq_bind]

theorem targetsFrom_verifiedChain (chain : List X509.Certificate) :
    targetsFrom .verifiedChain chain 0 chain = chainTargets chain := by
  unfold targetsFrom chainTargets
  refine List.map_congr_left ?_
  rintro ⟨certificate, position⟩ hmem
  rw [List.mem_zipIdx_iff_getElem?] at hmem
  rw [issuerAt?_verifiedChain hmem]

/-- A certificate within the depth stands at the same position of the whole list. -/
theorem getElem?_of_withinDepth {depth position : Nat} {certificates : List X509.Certificate}
    {certificate : X509.Certificate}
    (h : (withinDepth depth certificates)[position]? = some certificate) :
    certificates[position]? = some certificate := by
  unfold withinDepth at h
  split at h
  · exact h
  · rw [List.getElem?_take] at h
    split at h
    · exact h
    · cases h

theorem targetsFrom_subjectMatch (depth : Nat) (certificates : List X509.Certificate) :
    targetsFrom .subjectMatch certificates 0 (withinDepth depth certificates) =
      rawTargets depth certificates := by
  let target : X509.Certificate → Target := fun certificate =>
    ⟨certificate, (Issuer.find? certificate.issuer certificates).getD certificate⟩
  calc
    targetsFrom .subjectMatch certificates 0 (withinDepth depth certificates)
        = (withinDepth depth certificates).zipIdx.map (target ∘ Prod.fst) := by
      refine List.map_congr_left ?_
      rintro ⟨certificate, position⟩ hmem
      rw [List.mem_zipIdx_iff_getElem?] at hmem
      rw [issuerAt?_subjectMatch (getElem?_of_withinDepth hmem)]
      rfl
    _ = ((withinDepth depth certificates).zipIdx.map Prod.fst).map target :=
      (List.map_map ..).symm
    _ = rawTargets depth certificates := by
      rw [List.zipIdx_map_fst]
      rfl

/-! ### The loops as one list -/

section Loops

variable (world : World) (policy : Policy) (offline : Option RevocationList)

theorem checkTargets_append (front back : List Target) :
    checkTargets world policy offline (front ++ back) = (do
      checkTargets world policy offline front
      checkTargets world policy offline back) := by
  induction front with
  | nil => simp [checkTargets]
  | cons target rest ih => simp [checkTargets, ih]

theorem targetsFrom_cons (rule : IssuerRule) (chain : List X509.Certificate) (position : Nat)
    (certificate : X509.Certificate) (rest : List X509.Certificate) :
    targetsFrom rule chain position (certificate :: rest) =
      ⟨certificate, (rule.issuerAt? chain position).getD certificate⟩ ::
        targetsFrom rule chain (position + 1) rest := rfl

/-- Without a depth the loop runs through all certificates. -/
theorem checkFrom_none (rule : IssuerRule) (chain : List X509.Certificate) (position : Nat)
    (certificates : List X509.Certificate) :
    checkFrom world policy offline rule none chain position certificates =
      checkTargets world policy offline (targetsFrom rule chain position certificates) := by
  induction certificates generalizing position with
  | nil => rfl
  | cons certificate rest ih =>
      rw [checkFrom, targetsFrom_cons, checkTargets, ← ih (position + 1)]
      rfl

/-- With a depth the loop ends behind the certificate that reaches it.  A depth that lies behind
the last certificate is never reached. -/
theorem checkFrom_some (rule : IssuerRule) (chain : List X509.Certificate) (position : Nat)
    (certificates : List X509.Certificate) {depth : Nat} (h : position < depth) :
    checkFrom world policy offline rule (some depth) chain position certificates =
      checkTargets world policy offline
        (targetsFrom rule chain position (certificates.take (depth - position))) := by
  induction certificates generalizing position with
  | nil => rw [List.take_nil]; rfl
  | cons certificate rest ih =>
      -- `left` more certificates are to be checked behind this one.
      obtain ⟨left, hleft⟩ : ∃ left, depth - position = left + 1 := ⟨depth - position - 1, by omega⟩
      rw [hleft, List.take_succ_cons, targetsFrom_cons, checkFrom, checkTargets]
      by_cases hreached : depth = position + 1
      · have hnone : left = 0 := by omega
        subst hreached hnone
        simp [targetsFrom, checkTargets]
      · have hrest : depth - (position + 1) = left := by omega
        rw [if_neg (by simpa using hreached), ih (position + 1) (by omega), hrest]

theorem checkChains_eq_checkTargets (chains : List (List X509.Certificate)) :
    checkChains world policy offline chains =
      checkTargets world policy offline (verifiedTargets chains) := by
  induction chains with
  | nil => rfl
  | cons chain rest ih =>
      rw [checkChains, checkChain, checkFrom_none, targetsFrom_verifiedChain, ih]
      exact (checkTargets_append world policy offline _ _).symm

theorem checkChain_eq_checkTargets (depth : Nat) (certificates : List X509.Certificate) :
    checkChain world policy offline .subjectMatch
        (if 0 < depth then some depth else none) certificates =
      checkTargets world policy offline (rawTargets depth certificates) := by
  rw [← targetsFrom_subjectMatch, checkChain, withinDepth]
  by_cases hdepth : depth = 0
  · subst hdepth
    exact checkFrom_none world policy offline .subjectMatch certificates 0 certificates
  · have hpos : 0 < depth := Nat.pos_of_ne_zero hdepth
    rw [if_pos hpos, if_neg hdepth]
    exact checkFrom_some world policy offline .subjectMatch certificates 0 certificates hpos

end Loops

/-! ### How the check of a list goes -/

section Course

variable (world : World) (policy : Policy) (offline : Option RevocationList)

/-- The URLs of targets in order: one for each that asks for a list, with nothing left out that has
been asked for before. -/
def urlsOf (targets : List Target) : List String :=
  targets.filterMap fun target => urlFor? world policy target.certificate

/-- How the check of targets goes.  All of them pass, and their URLs are asked for; or the one at
position `k` is the first that does not, its failure is the result, and the URLs of the targets up
to it, itself included, are asked for. -/
inductive Course (targets : List Target) : Checked Unit → Prop
  | passed
      (all : ∀ target ∈ targets,
        Passes world policy offline target.certificate target.issuer) :
      Course targets ⟨urlsOf world policy targets, .ok ()⟩
  | stopped {k : Nat} {failure : Failure} (inRange : k < targets.length)
      (before : ∀ target ∈ targets.take k,
        Passes world policy offline target.certificate target.issuer)
      (fails : FailsWith world policy offline targets[k].certificate targets[k].issuer failure) :
      Course targets ⟨urlsOf world policy (targets.take (k + 1)), .error failure⟩

variable {world policy offline}

theorem urlsOf_cons (target : Target) (rest : List Target) :
    urlsOf world policy (target :: rest) =
      (urlFor? world policy target.certificate).toList ++ urlsOf world policy rest := by
  unfold urlsOf
  rw [List.filterMap_cons]
  cases urlFor? world policy target.certificate <;> rfl

theorem checkTargets_cons_of_passes {target : Target} {rest : List Target}
    (h : Passes world policy offline target.certificate target.issuer) :
    checkTargets world policy offline (target :: rest) =
      ⟨(urlFor? world policy target.certificate).toList ++
          (checkTargets world policy offline rest).fetched,
        (checkTargets world policy offline rest).result⟩ := by
  rw [checkTargets, Checked.bind_of_ok (checkCertificate_of_passes h), checkCertificate_fetched]

theorem checkTargets_cons_of_failsWith {target : Target} {rest : List Target} {failure : Failure}
    (h : FailsWith world policy offline target.certificate target.issuer failure) :
    checkTargets world policy offline (target :: rest) =
      ⟨(urlFor? world policy target.certificate).toList, .error failure⟩ := by
  rw [checkTargets, Checked.bind_of_error (checkCertificate_of_failsWith h),
    checkCertificate_fetched]

/-- A target that passes is put in front of a course. -/
theorem Course.cons {target : Target} {rest : List Target} {checked : Checked Unit}
    (h : Passes world policy offline target.certificate target.issuer)
    (course : Course world policy offline rest checked) :
    Course world policy offline (target :: rest)
      ⟨(urlFor? world policy target.certificate).toList ++ checked.fetched, checked.result⟩ := by
  cases course with
  | passed all =>
      rw [← urlsOf_cons]
      refine .passed ?_
      intro other hmem
      rcases List.mem_cons.mp hmem with rfl | hrest
      · exact h
      · exact all other hrest
  | @stopped k failure inRange before fails =>
      -- The first failure moves on by one position.
      rw [← urlsOf_cons, ← List.take_succ_cons]
      refine .stopped (k := k + 1) (by simpa using inRange) ?_ (by simpa using fails)
      intro other hmem
      rw [List.take_succ_cons] at hmem
      rcases List.mem_cons.mp hmem with rfl | hrest
      · exact h
      · exact before other hrest

variable (world policy offline) in
/-- The check of a list of targets takes a course, whatever the targets are. -/
theorem course_checkTargets (targets : List Target) :
    Course world policy offline targets (checkTargets world policy offline targets) := by
  induction targets with
  | nil => exact .passed (by simp)
  | cons target rest ih =>
      rcases passes_or_failsWith world policy offline target.certificate target.issuer with
        hpasses | ⟨failure, hfails⟩
      · rw [checkTargets_cons_of_passes hpasses]
        exact ih.cons hpasses
      · -- Nothing of the rest is looked at.
        rw [checkTargets_cons_of_failsWith hfails]
        have hstopped : Course world policy offline (target :: rest)
            ⟨urlsOf world policy ((target :: rest).take 1), .error failure⟩ :=
          .stopped (k := 0) (by simp) (by simp) hfails
        rw [List.take_succ_cons, urlsOf_cons] at hstopped
        simpa [urlsOf] using hstopped

/-- The first target that fails is found at one position only. -/
theorem le_of_stopped {targets : List Target} {j k : Nat} {failure : Failure}
    (before : ∀ target ∈ targets.take k,
      Passes world policy offline target.certificate target.issuer)
    (inRange : j < targets.length)
    (fails : FailsWith world policy offline targets[j].certificate targets[j].issuer failure) :
    k ≤ j := by
  rcases Nat.lt_or_ge j k with hlt | hge
  · have hmem : targets[j] ∈ targets.take k :=
      List.mem_take_iff_getElem.mpr ⟨j, by omega, rfl⟩
    exact absurd (before _ hmem) fails.not_passes
  · exact hge

/-- Targets have one course only. -/
theorem Course.unique {targets : List Target} {checked other : Checked Unit}
    (course : Course world policy offline targets checked)
    (hother : Course world policy offline targets other) : checked = other := by
  cases course with
  | passed all =>
      cases hother with
      | passed _ => rfl
      | stopped inRange _ fails =>
          exact absurd (all _ (List.getElem_mem inRange)) fails.not_passes
  | stopped inRange before fails =>
      cases hother with
      | passed all => exact absurd (all _ (List.getElem_mem inRange)) fails.not_passes
      | stopped inRange' before' fails' =>
          -- Neither failure comes before the other.
          obtain rfl := Nat.le_antisymm (le_of_stopped before inRange' fails')
            (le_of_stopped before' inRange fails)
          rw [fails.unique fails']

/-- The check of targets is the course that they have. -/
theorem checkTargets_eq_iff_course {targets : List Target} {checked : Checked Unit} :
    checkTargets world policy offline targets = checked ↔
      Course world policy offline targets checked := by
  constructor
  · rintro rfl
    exact course_checkTargets world policy offline targets
  · exact (course_checkTargets world policy offline targets).unique

/-- The check of targets succeeds if and only if all of them pass. -/
theorem checkTargets_eq_ok_iff {targets : List Target} :
    (checkTargets world policy offline targets).result = .ok () ↔
      ∀ target ∈ targets, Passes world policy offline target.certificate target.issuer := by
  constructor
  · intro hok
    have hcourse := course_checkTargets world policy offline targets
    generalize checkTargets world policy offline targets = checked at hok hcourse
    cases hcourse with
    | passed all => exact all
    | stopped => cases hok
  · intro hall
    rw [checkTargets_eq_iff_course.mpr (.passed hall)]

end Course

/-! ### The two ways to check -/

section Entry

variable {world : World} {policy : Policy} {offline : Option RevocationList} {failure : Failure}

theorem verifyChains_of_loaded
    (h : Source.loadOfflineList world.files policy world.now = .ok offline)
    (chains : List (List X509.Certificate)) :
    verifyChains world policy chains =
      checkTargets world policy offline (verifiedTargets chains) := by
  rw [verifyChains, h, Checked.of_ok_bind, checkChains_eq_checkTargets]

theorem verifyRaw_of_loaded
    (h : Source.loadOfflineList world.files policy world.now = .ok offline)
    (certificates : List X509.Certificate) :
    verifyRaw world policy certificates =
      checkTargets world policy offline (rawTargets policy.depth certificates) := by
  rw [verifyRaw, h, Checked.of_ok_bind, checkChain_eq_checkTargets]

theorem verifyChains_of_unloaded
    (h : Source.loadOfflineList world.files policy world.now = .error failure)
    (chains : List (List X509.Certificate)) :
    verifyChains world policy chains = ⟨[], .error failure⟩ := by
  rw [verifyChains, h, Checked.of_error_bind]

theorem verifyRaw_of_unloaded
    (h : Source.loadOfflineList world.files policy world.now = .error failure)
    (certificates : List X509.Certificate) :
    verifyRaw world policy certificates = ⟨[], .error failure⟩ := by
  rw [verifyRaw, h, Checked.of_error_bind]

end Entry

/-- Both ways to check end at the first failure.  If the offline list fails to load, that is the
result and nothing is fetched.  Otherwise the targets take their course: the result is the failure
of the first one that does not pass, the URLs are those of the targets up to it, and a certificate
that is revoked is reported by the octets of its own serial number. -/
theorem stops_at_first_failure (world : World) (policy : Policy) :
    match Source.loadOfflineList world.files policy world.now with
    | .error failure =>
      (∀ chains, verifyChains world policy chains = ⟨[], .error failure⟩) ∧
        ∀ certificates, verifyRaw world policy certificates = ⟨[], .error failure⟩
    | .ok offline =>
      (∀ chains checked, verifyChains world policy chains = checked ↔
        Course world policy offline (verifiedTargets chains) checked) ∧
      (∀ certificates checked, verifyRaw world policy certificates = checked ↔
        Course world policy offline (rawTargets policy.depth certificates) checked) ∧
      ∀ certificate issuer serial,
        FailsWith world policy offline certificate issuer (.revoked serial) →
          serial = Text.Hex.encode certificate.serialOctets := by
  cases h : Source.loadOfflineList world.files policy world.now with
  | error failure => exact ⟨verifyChains_of_unloaded h, verifyRaw_of_unloaded h⟩
  | ok offline =>
      refine ⟨?_, ?_, ?_⟩
      · intro chains checked
        rw [verifyChains_of_loaded h]
        exact checkTargets_eq_iff_course
      · intro certificates checked
        rw [verifyRaw_of_loaded h]
        exact checkTargets_eq_iff_course
      · intro certificate issuer serial hfails
        exact hfails.serial_of_revoked

end RevocationCheck.Verification
