import RevocationCheck.Proofs.FirstFailure

/-!
# When certificates are accepted

The decisions of the two ways to check, as statements about the certificates alone:

* verified chains are accepted if and only if the offline list loads and, at every position of
  every chain, some list applies and does not list the certificate;
* the same holds for as many certificates of an unverified list as the policy says, whose issuers
  are searched in the whole list.

Both come with what the decision does not depend on: the depth in the first case
(`verifyChains_depth`), and in the second the certificates behind the depth, as far as they are not
the issuers of those before it (`rawTargets_congr`).
-/

namespace RevocationCheck.Verification

/-! ### Runs by their targets -/

theorem verifyChains_eq_bind (world : World) (policy : Policy)
    (chains : List (List X509.Certificate)) :
    verifyChains world policy chains =
      Checked.of (Source.loadOfflineList world.files policy world.now) >>= fun offline =>
        checkTargets world policy offline (verifiedTargets chains) := by
  rw [verifyChains]
  simp only [checkChains_eq_checkTargets]

theorem verifyRaw_eq_bind (world : World) (policy : Policy)
    (certificates : List X509.Certificate) :
    verifyRaw world policy certificates =
      Checked.of (Source.loadOfflineList world.files policy world.now) >>= fun offline =>
        checkTargets world policy offline (rawTargets policy.depth certificates) := by
  rw [verifyRaw]
  simp only [checkChain_eq_checkTargets]

/-! ### Acceptance -/

section Decision

variable {world : World} {policy : Policy}

theorem verifyChains_eq_ok_iff {chains : List (List X509.Certificate)} :
    (verifyChains world policy chains).result = .ok () ↔
      ∃ offline, Source.loadOfflineList world.files policy world.now = .ok offline ∧
        ∀ target ∈ verifiedTargets chains,
          Passes world policy offline target.certificate target.issuer := by
  cases h : Source.loadOfflineList world.files policy world.now with
  | error failure => simp [verifyChains_of_unloaded h]
  | ok offline => simp [verifyChains_of_loaded h, checkTargets_eq_ok_iff]

theorem verifyRaw_eq_ok_iff {certificates : List X509.Certificate} :
    (verifyRaw world policy certificates).result = .ok () ↔
      ∃ offline, Source.loadOfflineList world.files policy world.now = .ok offline ∧
        ∀ target ∈ rawTargets policy.depth certificates,
          Passes world policy offline target.certificate target.issuer := by
  cases h : Source.loadOfflineList world.files policy world.now with
  | error failure => simp [verifyRaw_of_unloaded h]
  | ok offline => simp [verifyRaw_of_loaded h, checkTargets_eq_ok_iff]

end Decision

/-! ### Positions -/

theorem forall_mem_verifiedTargets {p : Target → Prop} {chains : List (List X509.Certificate)} :
    (∀ target ∈ verifiedTargets chains, p target) ↔
      ∀ chain ∈ chains, ∀ (i : Nat) (h : i < chain.length),
        p ⟨chain[i], chain[i + 1]?.getD chain[i]⟩ := by
  constructor
  · intro hall chain hchain i h
    refine hall _ (List.mem_flatMap.mpr ⟨chain, hchain, ?_⟩)
    refine List.mem_map.mpr ⟨(chain[i], i), ?_, rfl⟩
    rw [List.mem_zipIdx_iff_getElem?]
    exact List.getElem?_eq_getElem h
  · intro hall target htarget
    obtain ⟨chain, hchain, hmem⟩ := List.mem_flatMap.mp htarget
    obtain ⟨⟨certificate, i⟩, hentry, rfl⟩ := List.mem_map.mp hmem
    rw [List.mem_zipIdx_iff_getElem?] at hentry
    dsimp only at hentry ⊢
    obtain ⟨h, rfl⟩ := List.getElem?_eq_some_iff.mp hentry
    exact hall chain hchain i h

/-- How many certificates of an unverified list are checked. -/
def checkedCount (depth length : Nat) : Nat := if depth = 0 then length else min depth length

theorem mem_withinDepth {depth : Nat} {certificates : List X509.Certificate}
    {certificate : X509.Certificate} :
    certificate ∈ withinDepth depth certificates ↔
      ∃ (i : Nat) (h : i < certificates.length),
        i < checkedCount depth certificates.length ∧ certificates[i] = certificate := by
  unfold withinDepth checkedCount
  by_cases hdepth : depth = 0
  · rw [if_pos hdepth, if_pos hdepth, List.mem_iff_getElem]
    constructor
    · rintro ⟨i, h, heq⟩
      exact ⟨i, h, h, heq⟩
    · rintro ⟨i, h, _, heq⟩
      exact ⟨i, h, heq⟩
  · rw [if_neg hdepth, if_neg hdepth, List.mem_take_iff_getElem]
    constructor
    · rintro ⟨i, h, heq⟩
      exact ⟨i, by omega, h, heq⟩
    · rintro ⟨i, _, h, heq⟩
      exact ⟨i, h, heq⟩

theorem forall_mem_rawTargets {p : Target → Prop} {depth : Nat}
    {certificates : List X509.Certificate} :
    (∀ target ∈ rawTargets depth certificates, p target) ↔
      ∀ (i : Nat) (h : i < certificates.length), i < checkedCount depth certificates.length →
        p ⟨certificates[i],
          (Issuer.find? certificates[i].issuer certificates).getD certificates[i]⟩ := by
  constructor
  · intro hall i h hcount
    refine hall _ (List.mem_map.mpr ⟨certificates[i], ?_, rfl⟩)
    exact mem_withinDepth.mpr ⟨i, h, hcount, rfl⟩
  · intro hall target htarget
    obtain ⟨certificate, hmem, rfl⟩ := List.mem_map.mp htarget
    obtain ⟨i, h, hcount, rfl⟩ := mem_withinDepth.mp hmem
    exact hall i h hcount

/-! ### What does not matter -/

/-- Targets are fixed before they are checked, and their check has no use for a depth. -/
theorem checkTargets_depth (world : World) (policy : Policy) (offline : Option RevocationList)
    (depth : Nat) (targets : List Target) :
    checkTargets world { policy with depth := depth } offline targets =
      checkTargets world policy offline targets := by
  induction targets with
  | nil => rfl
  | cons target rest ih =>
      rw [checkTargets, checkTargets, ih]
      rfl

/-- A run over an unverified list with a depth of its own. -/
theorem verifyRaw_depth_eq_bind (world : World) (policy : Policy) (depth : Nat)
    (certificates : List X509.Certificate) :
    verifyRaw world { policy with depth := depth } certificates =
      Checked.of (Source.loadOfflineList world.files policy world.now) >>= fun offline =>
        checkTargets world policy offline (rawTargets depth certificates) := by
  rw [verifyRaw_eq_bind]
  simp only [checkTargets_depth]
  rfl

theorem verifyChains_depth (world : World) (policy : Policy) (depth : Nat)
    (chains : List (List X509.Certificate)) :
    verifyChains world { policy with depth := depth } chains =
      verifyChains world policy chains := by
  rw [verifyChains_eq_bind, verifyChains_eq_bind]
  simp only [checkTargets_depth]
  rfl

/-- Lists with the same certificates within the depth, and the same issuers for these, have the
same targets. -/
theorem rawTargets_congr {depth : Nat} {certificates others : List X509.Certificate}
    (hwithin : withinDepth depth others = withinDepth depth certificates)
    (hissuer : ∀ certificate ∈ withinDepth depth certificates,
      Issuer.find? certificate.issuer others = Issuer.find? certificate.issuer certificates) :
    rawTargets depth others = rawTargets depth certificates := by
  unfold rawTargets
  rw [hwithin]
  refine List.map_congr_left ?_
  intro certificate hmem
  rw [hissuer certificate hmem]

theorem verifyRaw_congr {world : World} {policy : Policy}
    {certificates others : List X509.Certificate}
    (h : rawTargets policy.depth others = rawTargets policy.depth certificates) :
    verifyRaw world policy others = verifyRaw world policy certificates := by
  cases hload : Source.loadOfflineList world.files policy world.now with
  | error failure => rw [verifyRaw_of_unloaded hload, verifyRaw_of_unloaded hload]
  | ok offline => rw [verifyRaw_of_loaded hload, verifyRaw_of_loaded hload, h]

/-! ### The decisions -/

/-- Verified chains are accepted if and only if the offline list loads and to every certificate of
every chain applies a list that does not have its serial number.  The issuer of a certificate is the
next one of its chain; the last one is its own.  The depth of the policy plays no part. -/
theorem verifyChains_accepts_iff (world : World) (policy : Policy)
    (chains : List (List X509.Certificate)) :
    ((verifyChains world policy chains).result = .ok () ↔
      ∃ offline, Source.loadOfflineList world.files policy world.now = .ok offline ∧
        ∀ chain ∈ chains, ∀ (i : Nat) (h : i < chain.length),
          ∃ list,
            Applicable world policy offline chain[i] (chain[i + 1]?.getD chain[i]) list ∧
            ∀ entry ∈ list.revoked, entry.serial ≠ chain[i].serial) ∧
    ∀ depth, verifyChains world { policy with depth := depth } chains =
      verifyChains world policy chains := by
  constructor
  · rw [verifyChains_eq_ok_iff]
    simp only [forall_mem_verifiedTargets]
    rfl
  · intro depth
    exact verifyChains_depth world policy depth chains

/-- An unverified list is accepted if and only if the offline list loads and to each of as many of
its first certificates as the depth says applies a list that does not have its serial number.  The
issuer of a certificate is the best match for its issuer name among all certificates of the list;
without a match it is its own.  A certificate behind the depth matters as such a match only. -/
theorem verifyRaw_accepts_iff (world : World) (policy : Policy)
    (certificates : List X509.Certificate) :
    ((verifyRaw world policy certificates).result = .ok () ↔
      ∃ offline, Source.loadOfflineList world.files policy world.now = .ok offline ∧
        ∀ (i : Nat) (h : i < certificates.length),
          i < checkedCount policy.depth certificates.length →
            ∃ list,
              Applicable world policy offline certificates[i]
                ((Issuer.find? certificates[i].issuer certificates).getD certificates[i]) list ∧
              ∀ entry ∈ list.revoked, entry.serial ≠ certificates[i].serial) ∧
    ∀ others, withinDepth policy.depth others = withinDepth policy.depth certificates →
      (∀ certificate ∈ withinDepth policy.depth certificates,
        Issuer.find? certificate.issuer others = Issuer.find? certificate.issuer certificates) →
      verifyRaw world policy others = verifyRaw world policy certificates := by
  constructor
  · rw [verifyRaw_eq_ok_iff]
    simp only [forall_mem_rawTargets]
    rfl
  · intro others hwithin hissuer
    exact verifyRaw_congr (rawTargets_congr hwithin hissuer)

end RevocationCheck.Verification
