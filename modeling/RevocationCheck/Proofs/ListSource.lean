import RevocationCheck.Verification

/-!
# The list that applies to a certificate

A certificate is checked against the list of exactly one source.  This module says which list that
is (`Applicable`), and in which ways its check can fail (`FailsWith`), without reference to the
functions that put the check together, and proves that these do what is said:

* `checkCertificate_eq_ok_iff`: a certificate passes if and only if there is an applicable list
  without its serial number;
* `checkCertificate_eq_error_iff`: a check fails with a failure if and only if that is the failure
  of its source, or of the certificate on the list of its source;
* `checkCertificate_fetched`: the one URL that a check can ask for, `urlFor?`.

Which certificate counts as the issuer of another is a matter of chains and left open here.
-/

namespace RevocationCheck.Verification

/-- A list is to be had from a URL: it is fetched and decodes, its next update is still to come,
and it is signed by the signer. -/
structure ObtainedFrom (world : World) (url : String) (signer : X509.Certificate)
    (list : RevocationList) : Prop where
  fetched : ∃ data, world.network url = .ok data ∧ RevocationList.ofPem data = .ok list
  current : list.nextUpdate.isAfter world.now = true
  signed : list.verifySignature signer = .ok ()

/-- Why no list is to be had from a URL, in the order in which it is looked at. -/
inductive Refused (world : World) (url : String) (signer : Option X509.Certificate) :
    Failure → Prop
  | unanswered {fault : FetchFault} (answer : world.network url = .error fault) :
      Refused world url signer (.ofFetch url fault)
  | undecodable {data : Octets} {fault : RevocationList.Fault}
      (answer : world.network url = .ok data)
      (bad : RevocationList.ofPem data = .error fault) :
      Refused world url signer (.ofList fault)
  | expired {data : Octets} {list : RevocationList}
      (answer : world.network url = .ok data)
      (decoded : RevocationList.ofPem data = .ok list)
      (past : list.nextUpdate.isAfter world.now = false) :
      Refused world url signer (.expired list.nextUpdate)
  | unsigned {data : Octets} {list : RevocationList}
      (answer : world.network url = .ok data)
      (decoded : RevocationList.ofPem data = .ok list)
      (current : list.nextUpdate.isAfter world.now = true) (absent : signer = none) :
      Refused world url signer (.ofInvalidity (.signature .noIssuer))
  | badSignature {data : Octets} {list : RevocationList} {issuer : X509.Certificate}
      {fault : RevocationList.SignatureFault}
      (answer : world.network url = .ok data)
      (decoded : RevocationList.ofPem data = .ok list)
      (current : list.nextUpdate.isAfter world.now = true) (present : signer = some issuer)
      (bad : list.verifySignature issuer = .error fault) :
      Refused world url signer (.ofInvalidity (.signature fault))

section Source

variable (world : World) (policy : Policy) (offline : Option RevocationList)
  (certificate issuer : X509.Certificate)

/-- The list that applies to a certificate: from the place that it names, signed by its issuer;
else from the configured place, signed by the certificate in the configured file; else the offline
list. -/
inductive Applicable : RevocationList → Prop
  | ownPoint {url : String} {list : RevocationList}
      (named : certificate.distributionPoint? = some url)
      (obtained : ObtainedFrom world url issuer list) : Applicable list
  | fallback {url : Url} {signer : X509.Certificate} {list : RevocationList}
      (unnamed : certificate.distributionPoint? = none)
      (configured : policy.distributionPoint = some url)
      (loaded : Source.loadIssuer world.files .distributionPoint
        policy.distributionPointIssuerFile = .ok (some signer))
      (obtained : ObtainedFrom world url.text signer list) : Applicable list
  | offline {list : RevocationList}
      (unnamed : certificate.distributionPoint? = none)
      (unconfigured : policy.distributionPoint = none)
      (present : offline = some list) : Applicable list

/-- A certificate passes its check: some list applies to it and does not list its serial number. -/
def Passes : Prop :=
  ∃ list, Applicable world policy offline certificate issuer list ∧
    ∀ entry ∈ list.revoked, entry.serial ≠ certificate.serial

/-- The failures of the source that a certificate names or that is configured.  What the offline
list is has no part in them. -/
inductive SourceFails : Failure → Prop
  | ownPoint {url : String} {failure : Failure}
      (named : certificate.distributionPoint? = some url)
      (refused : Refused world url (some issuer) failure) : SourceFails failure
  | issuerFile {url : Url} {failure : Failure}
      (unnamed : certificate.distributionPoint? = none)
      (configured : policy.distributionPoint = some url)
      (broken : Source.loadIssuer world.files .distributionPoint
        policy.distributionPointIssuerFile = .error failure) : SourceFails failure
  | fallback {url : Url} {signer : Option X509.Certificate} {failure : Failure}
      (unnamed : certificate.distributionPoint? = none)
      (configured : policy.distributionPoint = some url)
      (loaded : Source.loadIssuer world.files .distributionPoint
        policy.distributionPointIssuerFile = .ok signer)
      (refused : Refused world url.text signer failure) : SourceFails failure

/-- The failures of a check.  The one of a revoked certificate carries the octets of its serial
number as they are written. -/
inductive FailsWith : Failure → Prop
  | source {failure : Failure}
      (fails : SourceFails world policy certificate issuer failure) : FailsWith failure
  | noSource (unnamed : certificate.distributionPoint? = none)
      (unconfigured : policy.distributionPoint = none) (absent : offline = none) :
      FailsWith .noSource
  | revoked {list : RevocationList}
      (applicable : Applicable world policy offline certificate issuer list)
      (listed : ∃ entry ∈ list.revoked, entry.serial = certificate.serial) :
      FailsWith (.revoked (Text.Hex.encode certificate.serialOctets))

/-- The URL that the check of a certificate asks for.  An issuer file that does not load comes
before the fetch from the configured place. -/
def urlFor? : Option String :=
  match certificate.distributionPoint? with
  | some url => some url
  | none =>
    match policy.distributionPoint with
    | none => none
    | some url =>
      match Source.loadIssuer world.files .distributionPoint
          policy.distributionPointIssuerFile with
      | .error _ => none
      | .ok _ => some url.text

end Source

/-! ### Fetching a list -/

theorem retrieve_of_obtainedFrom {world : World} {url : String} {signer : X509.Certificate}
    {list : RevocationList} (h : ObtainedFrom world url signer list) :
    (retrieve world url (some signer)).result = .ok list := by
  obtain ⟨data, hanswer, hdecoded⟩ := h.fetched
  simp [retrieve, Source.validList, RevocationList.validate, RevocationList.isCurrentAt, hanswer,
    hdecoded, h.current, h.signed]

theorem retrieve_of_refused {world : World} {url : String} {signer : Option X509.Certificate}
    {failure : Failure} (h : Refused world url signer failure) :
    (retrieve world url signer).result = .error failure := by
  cases h with
  | unanswered hanswer => simp [retrieve, hanswer]
  | undecodable hanswer hbad => simp [retrieve, Source.validList, hanswer, hbad]
  | expired hanswer hdecoded hpast =>
      simp [retrieve, Source.validList, RevocationList.validate, RevocationList.isCurrentAt,
        hanswer, hdecoded, hpast, Failure.ofInvalidity]
  | unsigned hanswer hdecoded hcurrent habsent =>
      subst habsent
      simp [retrieve, Source.validList, RevocationList.validate, RevocationList.isCurrentAt,
        hanswer, hdecoded, hcurrent]
  | badSignature hanswer hdecoded hcurrent hpresent hbad =>
      subst hpresent
      simp [retrieve, Source.validList, RevocationList.validate, RevocationList.isCurrentAt,
        hanswer, hdecoded, hcurrent, hbad]

/-- A fetch ends in one of the two ways that are described above. -/
theorem obtainedFrom_or_refused (world : World) (url : String)
    (signer : Option X509.Certificate) :
    (∃ list issuer, signer = some issuer ∧ ObtainedFrom world url issuer list) ∨
      ∃ failure, Refused world url signer failure := by
  cases hanswer : world.network url with
  | error fault => exact .inr ⟨_, .unanswered hanswer⟩
  | ok data =>
      cases hdecoded : RevocationList.ofPem data with
      | error fault => exact .inr ⟨_, .undecodable hanswer hdecoded⟩
      | ok list =>
          cases hcurrent : list.nextUpdate.isAfter world.now with
          | false => exact .inr ⟨_, .expired hanswer hdecoded hcurrent⟩
          | true =>
              cases signer with
              | none => exact .inr ⟨_, .unsigned hanswer hdecoded hcurrent rfl⟩
              | some issuer =>
                  cases hsigned : list.verifySignature issuer with
                  | error fault =>
                      exact .inr ⟨_, .badSignature hanswer hdecoded hcurrent rfl hsigned⟩
                  | ok _ =>
                      exact .inl ⟨list, issuer, rfl, ⟨data, hanswer, hdecoded⟩, hcurrent, hsigned⟩

theorem Refused.kind_ne_revoked {world : World} {url : String}
    {signer : Option X509.Certificate} {failure : Failure}
    (h : Refused world url signer failure) : failure.kind ≠ .revoked := by
  cases h with
  | @unanswered fault _ => cases fault <;> simp [Failure.ofFetch, Failure.kind]
  | undecodable => simp [Failure.ofList, Failure.kind]
  | expired => simp [Failure.kind]
  | unsigned => simp [Failure.ofInvalidity, Failure.kind]
  | @badSignature _ _ _ fault => cases fault <;> simp [Failure.ofInvalidity, Failure.kind]

/-! ### Checking a certificate -/

section Check

variable {world : World} {policy : Policy} {offline : Option RevocationList}
  {certificate issuer : X509.Certificate}

theorem judge_of_listed {list : RevocationList}
    (h : ∃ entry ∈ list.revoked, entry.serial = certificate.serial) :
    judge list certificate =
      .error (.revoked (Text.Hex.encode certificate.serialOctets)) := by
  rw [judge, (list.lookup_eq_revoked_iff _).mpr h]

theorem judge_of_spared {list : RevocationList}
    (h : ∀ entry ∈ list.revoked, entry.serial ≠ certificate.serial) :
    judge list certificate = .ok () := by
  rw [judge, (list.lookup_eq_notRevoked_iff _).mpr h]

theorem retrieve_bind_some (world : World) (url : String) (signer : Option X509.Certificate) :
    (retrieve world url signer >>= fun list => pure (some list)) =
      ⟨[url], (retrieve world url signer).result.map some⟩ := by
  cases h : (retrieve world url signer).result with
  | error failure => exact Checked.bind_of_error h
  | ok list => exact Checked.bind_of_ok h

theorem fetchedList_of_ownPoint {url : String}
    (named : certificate.distributionPoint? = some url) :
    fetchedList world policy certificate issuer =
      ⟨[url], (retrieve world url (some issuer)).result.map some⟩ := by
  rw [fetchedList, named]
  exact retrieve_bind_some world url (some issuer)

theorem fetchedList_of_unconfigured (unnamed : certificate.distributionPoint? = none)
    (unconfigured : policy.distributionPoint = none) :
    fetchedList world policy certificate issuer = ⟨[], .ok none⟩ := by
  rw [fetchedList, unnamed, unconfigured]
  rfl

theorem fetchedList_of_broken {url : Url} {failure : Failure}
    (unnamed : certificate.distributionPoint? = none)
    (configured : policy.distributionPoint = some url)
    (broken : Source.loadIssuer world.files .distributionPoint
      policy.distributionPointIssuerFile = .error failure) :
    fetchedList world policy certificate issuer = ⟨[], .error failure⟩ := by
  simp only [fetchedList, unnamed, configured, broken]
  exact Checked.of_error_bind failure

theorem fetchedList_of_loaded {url : Url} {signer : Option X509.Certificate}
    (unnamed : certificate.distributionPoint? = none)
    (configured : policy.distributionPoint = some url)
    (loaded : Source.loadIssuer world.files .distributionPoint
      policy.distributionPointIssuerFile = .ok signer) :
    fetchedList world policy certificate issuer =
      ⟨[url.text], (retrieve world url.text signer).result.map some⟩ := by
  simp only [fetchedList, unnamed, configured, loaded]
  rw [Checked.of_ok_bind]
  exact retrieve_bind_some world url.text signer

/-- The URL is settled before it is known what comes of it. -/
theorem fetchedList_fetched :
    (fetchedList world policy certificate issuer).fetched =
      (urlFor? world policy certificate).toList := by
  unfold urlFor?
  split
  case h_1 named => rw [fetchedList_of_ownPoint named]; rfl
  case h_2 unnamed =>
    split
    case h_1 unconfigured => rw [fetchedList_of_unconfigured unnamed unconfigured]; rfl
    case h_2 configured =>
      split
      case h_1 broken => rw [fetchedList_of_broken unnamed configured broken]; rfl
      case h_2 loaded => rw [fetchedList_of_loaded unnamed configured loaded]; rfl

theorem checkCertificate_of_fetched {list : RevocationList}
    (h : (fetchedList world policy certificate issuer).result = .ok (some list)) :
    checkCertificate world policy offline certificate issuer =
      ⟨(fetchedList world policy certificate issuer).fetched, judge list certificate⟩ := by
  unfold checkCertificate
  rw [Checked.bind_of_ok h]
  simp [Checked.of]

theorem checkCertificate_of_unfetched
    (h : (fetchedList world policy certificate issuer).result = .ok none) :
    checkCertificate world policy offline certificate issuer =
      ⟨(fetchedList world policy certificate issuer).fetched,
        match offline with
        | some list => judge list certificate
        | none => .error .noSource⟩ := by
  unfold checkCertificate
  rw [Checked.bind_of_ok h]
  cases offline <;> simp [Checked.of]

theorem checkCertificate_of_error {failure : Failure}
    (h : (fetchedList world policy certificate issuer).result = .error failure) :
    checkCertificate world policy offline certificate issuer =
      ⟨(fetchedList world policy certificate issuer).fetched, .error failure⟩ := by
  unfold checkCertificate
  rw [Checked.bind_of_error h]

/-- The list that applies is the one that decides. -/
theorem checkCertificate_of_applicable {list : RevocationList}
    (h : Applicable world policy offline certificate issuer list) :
    (checkCertificate world policy offline certificate issuer).result =
      judge list certificate := by
  cases h with
  | ownPoint named obtained =>
      have hfetched : (fetchedList world policy certificate issuer).result = .ok (some list) := by
        rw [fetchedList_of_ownPoint named, retrieve_of_obtainedFrom obtained]
        rfl
      rw [checkCertificate_of_fetched hfetched]
  | fallback unnamed configured loaded obtained =>
      have hfetched : (fetchedList world policy certificate issuer).result = .ok (some list) := by
        rw [fetchedList_of_loaded unnamed configured loaded, retrieve_of_obtainedFrom obtained]
        rfl
      rw [checkCertificate_of_fetched hfetched]
  | offline unnamed unconfigured present =>
      have hfetched : (fetchedList world policy certificate issuer).result = .ok none := by
        rw [fetchedList_of_unconfigured unnamed unconfigured]
      rw [checkCertificate_of_unfetched hfetched, present]

theorem checkCertificate_of_passes
    (h : Passes world policy offline certificate issuer) :
    (checkCertificate world policy offline certificate issuer).result = .ok () := by
  obtain ⟨list, happlicable, hspared⟩ := h
  rw [checkCertificate_of_applicable happlicable, judge_of_spared hspared]

/-- A source that fails is not stood in for. -/
theorem fetchedList_of_sourceFails {failure : Failure}
    (h : SourceFails world policy certificate issuer failure) :
    (fetchedList world policy certificate issuer).result = .error failure := by
  cases h with
  | ownPoint named refused =>
      rw [fetchedList_of_ownPoint named, retrieve_of_refused refused]
      rfl
  | issuerFile unnamed configured broken =>
      rw [fetchedList_of_broken unnamed configured broken]
  | fallback unnamed configured loaded refused =>
      rw [fetchedList_of_loaded unnamed configured loaded, retrieve_of_refused refused]
      rfl

theorem checkCertificate_of_failsWith {failure : Failure}
    (h : FailsWith world policy offline certificate issuer failure) :
    (checkCertificate world policy offline certificate issuer).result = .error failure := by
  cases h with
  | source fails => rw [checkCertificate_of_error (fetchedList_of_sourceFails fails)]
  | noSource unnamed unconfigured absent =>
      have hfetched : (fetchedList world policy certificate issuer).result = .ok none := by
        rw [fetchedList_of_unconfigured unnamed unconfigured]
      rw [checkCertificate_of_unfetched hfetched, absent]
  | revoked applicable listed =>
      rw [checkCertificate_of_applicable applicable, judge_of_listed listed]

theorem FailsWith.not_passes {failure : Failure}
    (h : FailsWith world policy offline certificate issuer failure) :
    ¬ Passes world policy offline certificate issuer := by
  intro hpasses
  have hok := checkCertificate_of_passes hpasses
  rw [checkCertificate_of_failsWith h] at hok
  cases hok

/-- A check has one failure at most. -/
theorem FailsWith.unique {failure other : Failure}
    (h : FailsWith world policy offline certificate issuer failure)
    (hother : FailsWith world policy offline certificate issuer other) : failure = other := by
  have herror := checkCertificate_of_failsWith h
  rw [checkCertificate_of_failsWith hother] at herror
  cases herror
  rfl

theorem SourceFails.kind_ne_revoked {failure : Failure}
    (h : SourceFails world policy certificate issuer failure) : failure.kind ≠ .revoked := by
  cases h with
  | ownPoint _ refused => exact refused.kind_ne_revoked
  | issuerFile _ _ broken =>
      rcases Source.kind_of_loadIssuer broken with hio | hparse
      · simp [hio]
      · simp [hparse]
  | fallback _ _ _ refused => exact refused.kind_ne_revoked

/-- A certificate that is revoked is reported by its own serial number. -/
theorem FailsWith.serial_of_revoked {serial : String}
    (h : FailsWith world policy offline certificate issuer (.revoked serial)) :
    serial = Text.Hex.encode certificate.serialOctets := by
  -- A source fails with other kinds, so the failure is that of a listed certificate.
  cases h with
  | source fails => exact absurd rfl fails.kind_ne_revoked
  | revoked => rfl

/-- Some list applies, or the source of the list fails. -/
theorem applicable_or_failsWith (world : World) (policy : Policy)
    (offline : Option RevocationList) (certificate issuer : X509.Certificate) :
    (∃ list, Applicable world policy offline certificate issuer list) ∨
      ∃ failure, FailsWith world policy offline certificate issuer failure := by
  -- The cases follow the rank of the sources; what comes of one is not passed on to the next.
  cases named : certificate.distributionPoint? with
  | some url =>
      rcases obtainedFrom_or_refused world url (some issuer) with
        ⟨list, signer, hsigner, hobtained⟩ | ⟨failure, hrefused⟩
      · cases hsigner
        exact .inl ⟨list, .ownPoint named hobtained⟩
      · exact .inr ⟨failure, .source (.ownPoint named hrefused)⟩
  | none =>
      cases configured : policy.distributionPoint with
      | none =>
          cases offline with
          | none => exact .inr ⟨_, .noSource named configured rfl⟩
          | some list => exact .inl ⟨list, .offline named configured rfl⟩
      | some url =>
          cases loaded : Source.loadIssuer world.files .distributionPoint
              policy.distributionPointIssuerFile with
          | error failure => exact .inr ⟨failure, .source (.issuerFile named configured loaded)⟩
          | ok signer =>
              rcases obtainedFrom_or_refused world url.text signer with
                ⟨list, present, hsigner, hobtained⟩ | ⟨failure, hrefused⟩
              · subst hsigner
                exact .inl ⟨list, .fallback named configured loaded hobtained⟩
              · exact .inr ⟨failure, .source (.fallback named configured loaded hrefused)⟩

/-- A certificate passes or its check fails; there is no third way. -/
theorem passes_or_failsWith (world : World) (policy : Policy)
    (offline : Option RevocationList) (certificate issuer : X509.Certificate) :
    Passes world policy offline certificate issuer ∨
      ∃ failure, FailsWith world policy offline certificate issuer failure := by
  rcases applicable_or_failsWith world policy offline certificate issuer with
    ⟨list, happlicable⟩ | hfails
  · by_cases hlisted : ∃ entry ∈ list.revoked, entry.serial = certificate.serial
    · exact .inr ⟨_, .revoked happlicable hlisted⟩
    · refine .inl ⟨list, happlicable, ?_⟩
      intro entry hentry hserial
      exact hlisted ⟨entry, hentry, hserial⟩
  · exact .inr hfails

/-- A check succeeds if and only if some list applies to the certificate and does not list it. -/
theorem checkCertificate_eq_ok_iff :
    (checkCertificate world policy offline certificate issuer).result = .ok () ↔
      Passes world policy offline certificate issuer := by
  constructor
  · intro hok
    rcases passes_or_failsWith world policy offline certificate issuer with
      hpasses | ⟨failure, hfails⟩
    · exact hpasses
    · rw [checkCertificate_of_failsWith hfails] at hok
      cases hok
  · exact checkCertificate_of_passes

/-- A check fails with exactly the failures that are described above. -/
theorem checkCertificate_eq_error_iff {failure : Failure} :
    (checkCertificate world policy offline certificate issuer).result = .error failure ↔
      FailsWith world policy offline certificate issuer failure := by
  constructor
  · intro herror
    rcases passes_or_failsWith world policy offline certificate issuer with
      hpasses | ⟨other, hfails⟩
    · rw [checkCertificate_of_passes hpasses] at herror
      cases herror
    · rw [checkCertificate_of_failsWith hfails] at herror
      cases herror
      exact hfails
  · exact checkCertificate_of_failsWith

/-- A check asks for one URL at most, whatever comes of it. -/
theorem checkCertificate_fetched :
    (checkCertificate world policy offline certificate issuer).fetched =
      (urlFor? world policy certificate).toList := by
  rw [← fetchedList_fetched]
  cases h : (fetchedList world policy certificate issuer).result with
  | error failure => rw [checkCertificate_of_error h]
  | ok found =>
      cases found with
      | none => rw [checkCertificate_of_unfetched h]
      | some list => rw [checkCertificate_of_fetched h]

end Check

end RevocationCheck.Verification
