import RevocationCheck.Proofs.IssuerFiles
import RevocationCheck.Proofs.Strictness
import RevocationCheck.Proofs.ValidationOutcome

/-!
# Where failures come from

A failure to read or to decode something is about the file of the offline list, about an issuer's
file, or about the octets of a list (`Origin`), and tells which of these.  The induction along the
targets of a run is that of `course_checkTargets`; here the failures of one target are sorted
(`FailsWith.origin`).

Two things are decoded twice, the certificates of issuer files and the lists whose signatures are
checked.  Neither second decoding fails, so that a run that fails with `Failure.undecodable` has come
upon octets that are no list.
-/

namespace RevocationCheck

/-- The file that a policy configures for an issuer. -/
def Policy.issuerFile (policy : Policy) : IssuerRole → String
  | .offlineList => policy.offlineIssuerFile
  | .distributionPoint => policy.distributionPointIssuerFile

namespace Verification

/-- The octets that a run takes for a list: the contents of the offline list's file, and what the
URLs that it asks for answer. -/
inductive ListOctets (world : World) (policy : Policy) (fetched : List String) : Octets → Prop
  | offline {data : Octets}
      (contents : Source.Contains world.files policy.offlineListFile data) :
      ListOctets world policy fetched data
  | answer {url : String} {data : Octets} (asked : url ∈ fetched)
      (answered : world.network url = .ok data) : ListOctets world policy fetched data

/-- What a failure of a run is about.  Those that have to do with reading and decoding are about the
offline list's file, an issuer's file, or the octets of a list. -/
inductive Origin (world : World) (policy : Policy) (fetched : List String) : Failure → Prop
  | offlineListFile {cause : FileFault} (configured : policy.offlineListFile ≠ "")
      (read : world.files policy.offlineListFile = .error cause) :
      Origin world policy fetched (.offlineListUnreadable policy.offlineListFile cause)
  | issuerFile {failure : Failure} (role : IssuerRole)
      (unusable : Source.Unusable world.files role (policy.issuerFile role) failure) :
      Origin world policy fetched failure
  | list {data : Octets} {fault : RevocationList.Fault}
      (octets : ListOctets world policy fetched data)
      (bad : RevocationList.ofPem data = .error fault) :
      Origin world policy fetched (.ofList fault)
  | elsewhere {failure : Failure} (notIo : failure.kind ≠ .io) (notParse : failure.kind ≠ .parse) :
      Origin world policy fetched failure

section Origins

variable {world : World} {policy : Policy} {fetched : List String} {failure : Failure}

theorem Origin.of_isInvalidity (h : IsInvalidity failure) :
    Origin world policy fetched failure := by
  rcases h with h | h
  · exact .elsewhere (by simp [h]) (by simp [h])
  · exact .elsewhere (by simp [h]) (by simp [h])

/-- What merely does not decode is a list. -/
theorem Origin.octets_of_undecodable {reason : String}
    (h : Origin world policy fetched (.undecodable reason)) :
    ∃ data fault, ListOctets world policy fetched data ∧
      RevocationList.ofPem data = .error fault ∧ reason = fault.message := by
  generalize hfailure : Failure.undecodable reason = failure at h
  cases h with
  | offlineListFile => cases hfailure
  | issuerFile role unusable =>
      -- An issuer's file has failures of its own for what does not decode.
      cases unusable <;> cases hfailure
  | @list data fault octets bad =>
      exact ⟨data, fault, octets, bad, Failure.undecodable.inj hfailure⟩
  | elsewhere notIo notParse =>
      subst hfailure
      exact absurd rfl notParse

/-! ### The offline list -/

/-- A list that decodes can only be invalid. -/
theorem validList_eq_error {data : Octets} {issuer : Option X509.Certificate} {wanted : Bool}
    {now : Timestamp} (h : Source.validList data issuer wanted now = .error failure) :
    (∃ fault, RevocationList.ofPem data = .error fault ∧ failure = .ofList fault) ∨
      IsInvalidity failure := by
  unfold Source.validList at h
  cases hlist : RevocationList.ofPem data with
  | error fault =>
      rw [hlist] at h
      cases h
      exact .inl ⟨fault, rfl, rfl⟩
  | ok list =>
      rw [hlist] at h
      dsimp only at h
      rcases RevocationList.validate_cases list issuer wanted now with
        ⟨-, heq⟩ | ⟨-, -, heq⟩ | ⟨-, -, -, fault, hfault, heq⟩
      · rw [heq] at h
        cases h
        exact .inr (.inl rfl)
      · rw [heq] at h
        cases h
      · rw [heq] at h
        cases h
        rcases hfault with rfl | ⟨signer, -, hverify⟩
        · exact .inr (.inr rfl)
        · exact .inr (isInvalidity_of_verifySignature hlist hverify)

theorem origin_of_loadOfflineList
    (h : Source.loadOfflineList world.files policy world.now = .error failure) :
    Origin world policy fetched failure := by
  rcases Source.readConfigured_cases world.files policy.offlineListFile with
    hnone | ⟨hpath, cause, hread⟩ | ⟨data, hcontains⟩
  · cases h.symm.trans (Source.loadOfflineList_of_unconfigured hnone)
  · cases h.symm.trans (Source.loadOfflineList_of_unreadable hpath hread)
    exact .offlineListFile hpath hread
  · rw [Source.loadOfflineList_of_contains hcontains] at h
    cases hissuer : Source.loadIssuer world.files .offlineList policy.offlineIssuerFile with
    | error found =>
        rw [hissuer] at h
        cases h
        exact .issuerFile .offlineList (Source.loadIssuer_eq_error_iff.mp hissuer)
    | ok issuer =>
        rw [hissuer] at h
        dsimp only at h
        cases hlist : Source.validList data issuer policy.verifyOfflineSignature world.now with
        | ok list =>
            rw [hlist] at h
            cases h
        | error found =>
            rw [hlist] at h
            cases h
            rcases validList_eq_error hlist with ⟨fault, hbad, rfl⟩ | hinvalid
            · exact .list (.offline hcontains) hbad
            · exact .of_isInvalidity hinvalid

/-! ### Targets -/

theorem Refused.origin {url : String} {signer : Option X509.Certificate}
    (h : Refused world url signer failure) (asked : url ∈ fetched) :
    Origin world policy fetched failure := by
  cases h with
  | @unanswered fault answer =>
      have hkind : (Failure.ofFetch url fault).kind = .retrieval := by cases fault <;> rfl
      exact .elsewhere (by simp [hkind]) (by simp [hkind])
  | undecodable answer bad => exact .list (.answer asked answer) bad
  | expired => exact .of_isInvalidity (.inl rfl)
  | unsigned => exact .of_isInvalidity (.inr rfl)
  | badSignature answer decoded current present bad =>
      exact .of_isInvalidity (isInvalidity_of_verifySignature decoded bad)

theorem SourceFails.origin {certificate issuer : X509.Certificate}
    (h : SourceFails world policy certificate issuer failure)
    (asked : ∀ url, urlFor? world policy certificate = some url → url ∈ fetched) :
    Origin world policy fetched failure := by
  cases h with
  | ownPoint named refused => exact refused.origin (asked _ (by simp [urlFor?, named]))
  | issuerFile unnamed configured broken =>
      exact .issuerFile .distributionPoint (Source.loadIssuer_eq_error_iff.mp broken)
  | fallback unnamed configured loaded refused =>
      exact refused.origin (asked _ (by simp [urlFor?, unnamed, configured, loaded]))

/-- The failures of one target, in a run that asks for the URL of this target. -/
theorem FailsWith.origin {offline : Option RevocationList} {certificate issuer : X509.Certificate}
    (h : FailsWith world policy offline certificate issuer failure)
    (asked : ∀ url, urlFor? world policy certificate = some url → url ∈ fetched) :
    Origin world policy fetched failure := by
  cases h with
  | source fails => exact fails.origin asked
  | noSource => exact .elsewhere (by simp [Failure.kind]) (by simp [Failure.kind])
  | revoked => exact .elsewhere (by simp [Failure.kind]) (by simp [Failure.kind])

theorem Course.origin {offline : Option RevocationList} {targets : List Target}
    {checked : Checked Unit} (course : Course world policy offline targets checked)
    (h : checked.result = .error failure) : Origin world policy checked.fetched failure := by
  cases course with
  | passed => cases h
  | @stopped k found inRange before fails =>
      cases h
      refine fails.origin fun url hurl => ?_
      have hmem : targets[k] ∈ targets.take (k + 1) :=
        List.mem_take_iff_getElem.mpr ⟨k, by omega, rfl⟩
      exact List.mem_filterMap.mpr ⟨targets[k], hmem, hurl⟩

/-! ### Runs -/

/-- A run loads the offline list and then goes along its targets. -/
theorem origin_of_run {targets : List Target} {run : Checked Unit}
    (hrun : run = (Checked.of (Source.loadOfflineList world.files policy world.now) >>=
      fun offline => checkTargets world policy offline targets))
    (h : run.result = .error failure) : Origin world policy run.fetched failure := by
  cases hload : Source.loadOfflineList world.files policy world.now with
  | error found =>
      rw [hload, Checked.of_error_bind] at hrun
      subst hrun
      cases h
      exact origin_of_loadOfflineList hload
  | ok offline =>
      rw [hload, Checked.of_ok_bind] at hrun
      subst hrun
      exact (course_checkTargets world policy offline targets).origin h

end Origins

/-- The failures of an issuer's file are told from those of lists.

An issuer that has been loaded decodes again, to the certificate that the first PEM block of its
file encodes.  So what can go wrong with the file is that it is not usable, and this is reported with
the file and what it is for; both callers pass it on as it is.  Every failure of a run has an origin,
and a run fails with `Failure.undecodable` only where the octets of some list are no list: those of
the offline list's file, or what a URL that was asked for answered. -/
theorem issuer_failures_name_their_file (world : World) (policy : Policy) :
    (∀ role path issuer,
      Source.IssuerCertificate.load world.files role path = .ok (some issuer) →
        ∃ block certificate, Source.Holds world.files path block certificate ∧
          issuer.encoded = block.contents ∧ issuer.certificate = .ok certificate) ∧
    (∀ role path failure, Source.loadIssuer world.files role path = .error failure ↔
      Source.Unusable world.files role path failure) ∧
    (∀ data failure, Source.Contains world.files policy.offlineListFile data →
      Source.Unusable world.files .offlineList policy.offlineIssuerFile failure →
        Source.loadOfflineList world.files policy world.now = .error failure) ∧
    (∀ offline certificate issuer url failure, certificate.distributionPoint? = none →
      policy.distributionPoint = some url →
      Source.Unusable world.files .distributionPoint policy.distributionPointIssuerFile failure →
        checkCertificate world policy offline certificate issuer = ⟨[], .error failure⟩) ∧
    ((∀ failure, Source.loadOfflineList world.files policy world.now = .error failure →
        Origin world policy [] failure) ∧
      (∀ chains failure, (verifyChains world policy chains).result = .error failure →
        Origin world policy (verifyChains world policy chains).fetched failure) ∧
      ∀ certificates failure, (verifyRaw world policy certificates).result = .error failure →
        Origin world policy (verifyRaw world policy certificates).fetched failure) ∧
    ∀ fetched reason, Origin world policy fetched (.undecodable reason) →
      ∃ data fault, ListOctets world policy fetched data ∧
        RevocationList.ofPem data = .error fault ∧ reason = fault.message := by
  refine ⟨?_, fun _ _ _ => Source.loadIssuer_eq_error_iff, ?_, ?_,
    ⟨fun _ h => origin_of_loadOfflineList h, fun chains _ h => origin_of_run (verifyChains_eq_bind world policy chains) h,
      fun certificates _ h => origin_of_run (verifyRaw_eq_bind world policy certificates) h⟩, fun _ _ h => h.octets_of_undecodable⟩
  · intro role path issuer hload
    obtain ⟨block, certificate, hholds, rfl⟩ := Source.holds_of_load hload
    exact ⟨block, certificate, hholds, rfl, Source.certificate_of_holds hholds⟩
  · intro data failure hcontains hunusable
    rw [Source.loadOfflineList_of_contains hcontains,
      Source.loadIssuer_eq_error_iff.mpr hunusable]
  · intro offline certificate issuer url failure unnamed configured hunusable
    have hfetched : fetchedList world policy certificate issuer = ⟨[], .error failure⟩ :=
      fetchedList_of_broken unnamed configured (Source.loadIssuer_eq_error_iff.mpr hunusable)
    rw [checkCertificate_of_error (by rw [hfetched]), hfetched]

end Verification

end RevocationCheck
