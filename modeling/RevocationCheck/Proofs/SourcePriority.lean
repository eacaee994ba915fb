import RevocationCheck.Proofs.Acceptance
import RevocationCheck.Proofs.RevokedEntries

/-!
# Sources of lower rank have no influence

Two runs are compared that see the same network at the same time and check equally deep, but have
files and policies of their own (`SameSurroundings`).  Where a source of higher rank decides, the
runs do not differ, whatever the sources below it are:

* `checkCertificate_of_named`: a certificate that names its own distribution point is checked alike
  by any two policies;
* `checkCertificate_of_configured`: with the same configured distribution point and the same issuer
  file, certificates that name none are checked alike whatever the offline lists are.

Neither is about successful checks only.  A source above the offline list that fails
(`SourceFails`) is not stood in for: its failure is the result of the check with any offline list,
and no run that comes to such a certificate succeeds.
-/

namespace RevocationCheck.Verification

/-- Two configurations that differ at most in their files and in the sources of their policies. -/
structure SameSurroundings (world world' : World) (policy policy' : Policy) : Prop where
  network : world.network = world'.network
  now : world.now = world'.now
  depth : policy.depth = policy'.depth

/-- Two configurations with the same distribution point for certificates that name none, and with
the same file, by path and content, for the issuer of its lists. -/
structure SameFallback (world world' : World) (policy policy' : Policy) (url : Url) : Prop where
  configured : policy.distributionPoint = some url
  configured' : policy'.distributionPoint = some url
  path : policy.distributionPointIssuerFile = policy'.distributionPointIssuerFile
  content : Source.readConfigured world.files policy.distributionPointIssuerFile =
    Source.readConfigured world'.files policy'.distributionPointIssuerFile

section Rivals

variable {world world' : World} {policy policy' : Policy} {offline offline' : Option RevocationList}
  {certificate issuer : X509.Certificate}

/-! ### One certificate -/

theorem retrieve_congr (same : SameSurroundings world world' policy policy') (url : String)
    (signer : Option X509.Certificate) :
    retrieve world url signer = retrieve world' url signer := by
  rw [retrieve, retrieve, same.network, same.now]

theorem loadIssuer_congr {files files' : FileSystem} {path : String}
    (h : Source.readConfigured files path = Source.readConfigured files' path)
    (role : IssuerRole) :
    Source.loadIssuer files role path = Source.loadIssuer files' role path := by
  rw [Source.loadIssuer, Source.loadIssuer, Source.IssuerCertificate.load,
    Source.IssuerCertificate.load, h]

/-- Once a list has been fetched, or has failed to be, the offline list is not looked at. -/
theorem checkCertificate_congr
    (hfetched : fetchedList world policy certificate issuer =
      fetchedList world' policy' certificate issuer)
    (hdecided : (fetchedList world policy certificate issuer).result ≠ .ok none) :
    checkCertificate world policy offline certificate issuer =
      checkCertificate world' policy' offline' certificate issuer := by
  cases h : (fetchedList world policy certificate issuer).result with
  | error failure =>
      rw [checkCertificate_of_error h, checkCertificate_of_error (hfetched ▸ h), hfetched]
  | ok found =>
      cases found with
      | none => exact absurd h hdecided
      | some list =>
          rw [checkCertificate_of_fetched h, checkCertificate_of_fetched (hfetched ▸ h), hfetched]

/-- A fetch gives a list or a failure, but never the answer that there is nothing to fetch. -/
theorem map_some_ne_none (result : Except Failure RevocationList) :
    result.map some ≠ .ok none := by
  cases result with
  | error failure => simp [Except.map]
  | ok list => simp [Except.map]

/-- The certificate's own distribution point leaves the rest of the configuration no say. -/
theorem checkCertificate_of_named (same : SameSurroundings world world' policy policy')
    {url : String} (named : certificate.distributionPoint? = some url) :
    checkCertificate world policy offline certificate issuer =
      checkCertificate world' policy' offline' certificate issuer := by
  refine checkCertificate_congr ?_ ?_
  · rw [fetchedList_of_ownPoint named, fetchedList_of_ownPoint named, retrieve_congr same]
  · rw [fetchedList_of_ownPoint named]
    exact map_some_ne_none _

/-- The configured distribution point leaves the offline list no say. -/
theorem checkCertificate_of_configured (same : SameSurroundings world world' policy policy')
    {url : Url} (fallback : SameFallback world world' policy policy' url)
    (unnamed : certificate.distributionPoint? = none) :
    checkCertificate world policy offline certificate issuer =
      checkCertificate world' policy' offline' certificate issuer := by
  have hload : Source.loadIssuer world.files .distributionPoint
        policy.distributionPointIssuerFile =
      Source.loadIssuer world'.files .distributionPoint policy'.distributionPointIssuerFile := by
    rw [← fallback.path]
    exact loadIssuer_congr (by rw [fallback.content, fallback.path]) _
  cases loaded : Source.loadIssuer world.files .distributionPoint
      policy.distributionPointIssuerFile with
  | error failure =>
      -- The broken issuer file is the same on both sides.
      have hfetched : fetchedList world policy certificate issuer = _ :=
        fetchedList_of_broken unnamed fallback.configured loaded
      refine checkCertificate_congr ?_ ?_
      · rw [hfetched, fetchedList_of_broken unnamed fallback.configured' (hload ▸ loaded)]
      · rw [hfetched]
        simp
  | ok signer =>
      have hfetched : fetchedList world policy certificate issuer = _ :=
        fetchedList_of_loaded unnamed fallback.configured loaded
      refine checkCertificate_congr ?_ ?_
      · rw [hfetched, fetchedList_of_loaded unnamed fallback.configured' (hload ▸ loaded),
          retrieve_congr same]
      · rw [hfetched]
        exact map_some_ne_none _

/-! ### Whole runs -/

/-- Runs over the same targets do not differ where no single check does. -/
theorem checkTargets_congr {targets : List Target}
    (h : ∀ target ∈ targets,
      checkCertificate world policy offline target.certificate target.issuer =
        checkCertificate world' policy' offline' target.certificate target.issuer) :
    checkTargets world policy offline targets = checkTargets world' policy' offline' targets := by
  induction targets with
  | nil => rfl
  | cons target rest ih =>
      obtain ⟨htarget, hrest⟩ := List.forall_mem_cons.mp h
      rw [checkTargets, checkTargets, htarget, ih hrest]

theorem checkTargets_of_named (same : SameSurroundings world world' policy policy')
    {targets : List Target}
    (named : ∀ target ∈ targets, target.certificate.distributionPoint?.isSome) :
    checkTargets world policy offline targets = checkTargets world' policy' offline' targets := by
  refine checkTargets_congr fun target hmem => ?_
  obtain ⟨url, hurl⟩ := Option.isSome_iff_exists.mp (named target hmem)
  exact checkCertificate_of_named same hurl

theorem checkTargets_of_configured (same : SameSurroundings world world' policy policy')
    {url : Url} (fallback : SameFallback world world' policy policy' url) (targets : List Target) :
    checkTargets world policy offline targets = checkTargets world' policy' offline' targets := by
  refine checkTargets_congr fun target _ => ?_
  cases h : target.certificate.distributionPoint? with
  | some url => exact checkCertificate_of_named same h
  | none => exact checkCertificate_of_configured same fallback h

end Rivals

/-! ### No rescue -/

section Rescue

variable {world : World} {policy : Policy} {target : Target} {failure : Failure}

theorem verifyChains_of_sourceFails {chains : List (List X509.Certificate)}
    (hmem : target ∈ verifiedTargets chains)
    (h : SourceFails world policy target.certificate target.issuer failure) :
    (verifyChains world policy chains).result ≠ .ok () := by
  intro hok
  obtain ⟨offline, -, hall⟩ := verifyChains_eq_ok_iff.mp hok
  exact (FailsWith.source h).not_passes (hall target hmem)

theorem verifyRaw_of_sourceFails {certificates : List X509.Certificate}
    (hmem : target ∈ rawTargets policy.depth certificates)
    (h : SourceFails world policy target.certificate target.issuer failure) :
    (verifyRaw world policy certificates).result ≠ .ok () := by
  intro hok
  obtain ⟨offline, -, hall⟩ := verifyRaw_eq_ok_iff.mp hok
  exact (FailsWith.source h).not_passes (hall target hmem)

end Rescue

/-! ### Two runs -/

theorem named_of_verifiedTargets {chains : List (List X509.Certificate)}
    (named : ∀ chain ∈ chains, ∀ certificate ∈ chain, certificate.distributionPoint?.isSome) :
    ∀ target ∈ verifiedTargets chains, target.certificate.distributionPoint?.isSome := by
  rw [forall_mem_verifiedTargets]
  intro chain hchain i h
  exact named chain hchain _ (List.getElem_mem h)

theorem named_of_rawTargets {depth : Nat} {certificates : List X509.Certificate}
    (named : ∀ certificate ∈ withinDepth depth certificates,
      certificate.distributionPoint?.isSome) :
    ∀ target ∈ rawTargets depth certificates, target.certificate.distributionPoint?.isSome := by
  intro target hmem
  obtain ⟨certificate, hwithin, rfl⟩ := List.mem_map.mp hmem
  exact named certificate hwithin

/-- Sources of lower rank have no influence on what a source of higher rank decides.  Let two
configurations differ in their files and in the sources of their policies, and let both offline
lists load.

If all certificates that are to be checked name a distribution point, the results and the URLs asked
for are the same.  If both configure the same distribution point with the same issuer file, they are
the same for all certificates, whatever the offline lists are.  And a source that fails, other than
the offline list, is not stood in for by a lower one: its failure is that of the certificate with
any offline list, and a run over the certificate does not succeed. -/
theorem lower_ranks_have_no_influence {world world' : World} {policy policy' : Policy}
    {offline offline' : Option RevocationList}
    (same : SameSurroundings world world' policy policy')
    (loaded : Source.loadOfflineList world.files policy world.now = .ok offline)
    (loaded' : Source.loadOfflineList world'.files policy' world'.now = .ok offline') :
    ((∀ chains, (∀ chain ∈ chains, ∀ certificate ∈ chain,
          certificate.distributionPoint?.isSome) →
        verifyChains world policy chains = verifyChains world' policy' chains) ∧
      ∀ certificates, (∀ certificate ∈ withinDepth policy.depth certificates,
          certificate.distributionPoint?.isSome) →
        verifyRaw world policy certificates = verifyRaw world' policy' certificates) ∧
    (∀ url, SameFallback world world' policy policy' url →
      (∀ chains, verifyChains world policy chains = verifyChains world' policy' chains) ∧
      ∀ certificates,
        verifyRaw world policy certificates = verifyRaw world' policy' certificates) ∧
    ∀ target failure, SourceFails world policy target.certificate target.issuer failure →
      (∀ lists, (checkCertificate world policy lists target.certificate target.issuer).result =
        .error failure) ∧
      (∀ chains, target ∈ verifiedTargets chains →
        (verifyChains world policy chains).result ≠ .ok ()) ∧
      ∀ certificates, target ∈ rawTargets policy.depth certificates →
        (verifyRaw world policy certificates).result ≠ .ok () := by
  refine ⟨⟨?_, ?_⟩, ?_, ?_⟩
  · intro chains named
    rw [verifyChains_of_loaded loaded, verifyChains_of_loaded loaded']
    exact checkTargets_of_named same (named_of_verifiedTargets named)
  · intro certificates named
    rw [verifyRaw_of_loaded loaded, verifyRaw_of_loaded loaded', ← same.depth]
    exact checkTargets_of_named same (named_of_rawTargets named)
  · intro url fallback
    constructor
    · intro chains
      rw [verifyChains_of_loaded loaded, verifyChains_of_loaded loaded']
      exact checkTargets_of_configured same fallback _
    · intro certificates
      rw [verifyRaw_of_loaded loaded, verifyRaw_of_loaded loaded', ← same.depth]
      exact checkTargets_of_configured same fallback _
  · intro target failure hfails
    refine ⟨fun _ => checkCertificate_of_failsWith (.source hfails), ?_, ?_⟩
    · intro chains hmem
      exact verifyChains_of_sourceFails hmem hfails
    · intro certificates hmem
      exact verifyRaw_of_sourceFails hmem hfails

/-! ### A sample -/

namespace Sample

open RevocationList (sampleEntry sampleList shortElement)

/-- A list that revokes the serial number 5. -/
def list : Octets := sampleList (sampleEntry [5])

/-- A PEM block with one line. -/
def block (der : Octets) : Octets :=
  let text := "-----BEGIN X509 CRL-----\n".toList ++ Base64.encode der ++
    "\n-----END X509 CRL-----\n".toList
  text.map fun c => UInt8.ofNat c.toNat

/-- A day in 2023, on which the list is current. -/
def now : Timestamp := .utc 1700000000 0

/-- The world with one file, and the one with none.  Nothing answers in either. -/
def world (hasFile : Bool) : World where
  files path := if hasFile ∧ path = "offline.pem" then .ok (block list) else .error .notFound
  network := Network.silent
  now := now

/-- A place to fetch lists from. -/
def url : Url := ⟨"http".toList, none, .rootless "b".toList, none, none⟩

/-- A policy with a distribution point, and with or without an offline list. -/
def policy (hasFile : Bool) : Policy :=
  { Policy.default with
    offlineListFile := if hasFile then "offline.pem" else ""
    distributionPoint := some url }

/-- A certificate with the serial number 5. -/
def certificate (extensions : List X509.Extension) : X509.Certificate where
  signed := []
  version := 2
  serialOctets := [5]
  issuer := ⟨[]⟩
  notBefore := now
  notAfter := now
  subject := ⟨[]⟩
  publicKey := ⟨⟨⟨[]⟩, none⟩, ⟨0, []⟩⟩
  extensions := extensions
  signature := ⟨⟨⟨[]⟩, none⟩, ⟨0, []⟩⟩

/-- The certificate that names the distribution point `a:`. -/
def named : X509.Certificate :=
  let names := shortElement 0xA0 (shortElement 0x86 [97, 58])
  let points := shortElement 0x30 (shortElement 0x30 (shortElement 0xA0 names))
  certificate [⟨X509.Extension.distributionPointsType, false, points⟩]

/-- The policy with an offline list and nothing else. -/
def offlinePolicy : Policy := { Policy.default with offlineListFile := "offline.pem" }

/-- What the offline list says. -/
def offlineList : RevocationList :=
  ⟨list, "", ⟨1704067200, 0, 0⟩, ⟨1704067200, 0, 0⟩, [⟨5, ⟨1704067200, 0, 0⟩⟩]⟩

/-- Any policy with this offline list, which does not ask for a signature, loads it. -/
theorem loadOfflineList_of_block {files : FileSystem} {policy : Policy}
    (hfile : files "offline.pem" = .ok (block list))
    (hpath : policy.offlineListFile = "offline.pem") (hissuer : policy.offlineIssuerFile = "")
    (hunsigned : policy.verifyOfflineSignature = false) :
    Source.loadOfflineList files policy now = .ok (some offlineList) := by
  have hpem : Pem.first (block list) = .ok ⟨"X509 CRL", list⟩ := by decide +kernel
  have hlist : RevocationList.ofDer list = .ok offlineList := by cbv
  have hread : Source.readConfigured files policy.offlineListFile = .ok (block list) := by
    rw [hpath]
    exact hfile
  simp only [Source.loadOfflineList, hread, hissuer, hunsigned, Source.validList,
    RevocationList.ofPem, hpem, hlist]
  rfl

theorem loadOfflineList_offlinePolicy {files : FileSystem} {depth : Nat}
    (hfile : files "offline.pem" = .ok (block list)) :
    Source.loadOfflineList files { offlinePolicy with depth := depth } now =
      .ok (some offlineList) :=
  loadOfflineList_of_block hfile rfl rfl rfl

/-- The offline list spares the serial number 6. -/
theorem passes_offlineList {world : World} {certificate issuer : X509.Certificate} {depth : Nat}
    (hserial : certificate.serialOctets = [6]) (hextensions : certificate.extensions = []) :
    Passes world { offlinePolicy with depth := depth } (some offlineList) certificate issuer := by
  have hunnamed : certificate.distributionPoint? = none := by
    simp [X509.Certificate.distributionPoint?, hextensions]
  refine ⟨offlineList, .offline hunnamed rfl rfl, fun entry hentry => ?_⟩
  obtain rfl := List.mem_singleton.mp hentry
  simp [X509.Certificate.serial, hserial, Octets.toNat]

/-- It lists the serial number 5. -/
theorem failsWith_offlineList {world : World} {certificate issuer : X509.Certificate} {depth : Nat}
    (hserial : certificate.serialOctets = [5]) (hextensions : certificate.extensions = []) :
    FailsWith world { offlinePolicy with depth := depth } (some offlineList) certificate issuer
      (.revoked "05") := by
  have hunnamed : certificate.distributionPoint? = none := by
    simp [X509.Certificate.distributionPoint?, hextensions]
  have hnumber : Text.Hex.encode certificate.serialOctets = "05" := by rw [hserial]; rfl
  rw [← hnumber]
  refine .revoked (.offline hunnamed rfl rfl) ⟨_, List.mem_singleton_self _, ?_⟩
  simp [X509.Certificate.serial, hserial, Octets.toNat]

end Sample

/-- With an offline list and without one, the certificate that names a distribution point and the
one that does not are checked alike.  Neither place answers, and the offline list is no help. -/
theorem lower_ranks_have_no_influence_sample :
    Source.loadOfflineList (Sample.world true).files (Sample.policy true) Sample.now =
        .ok (some ⟨Sample.list, "", ⟨1704067200, 0, 0⟩, ⟨1704067200, 0, 0⟩,
          [⟨5, ⟨1704067200, 0, 0⟩⟩]⟩) ∧
      Source.loadOfflineList (Sample.world false).files (Sample.policy false) Sample.now =
        .ok none ∧
      verifyChains (Sample.world true) (Sample.policy true) [[Sample.named]] =
        verifyChains (Sample.world false) (Sample.policy false) [[Sample.named]] ∧
      verifyRaw (Sample.world true) (Sample.policy true) [Sample.certificate []] =
        verifyRaw (Sample.world false) (Sample.policy false) [Sample.certificate []] ∧
      (verifyChains (Sample.world true) (Sample.policy true) [[Sample.named]]).result ≠ .ok () := by
  have loaded : Source.loadOfflineList (Sample.world true).files (Sample.policy true) Sample.now =
      .ok (some Sample.offlineList) :=
    Sample.loadOfflineList_of_block rfl rfl rfl rfl
  have loaded' : Source.loadOfflineList (Sample.world false).files (Sample.policy false)
      Sample.now = .ok none := rfl
  have hnamed : Sample.named.distributionPoint? = some "a:" := by decide +kernel
  have hall : ∀ chain ∈ [[Sample.named]], ∀ certificate ∈ chain,
      certificate.distributionPoint?.isSome := by
    simp [hnamed]
  have same : SameSurroundings (Sample.world true) (Sample.world false) (Sample.policy true)
      (Sample.policy false) := ⟨rfl, rfl, rfl⟩
  have fallback : SameFallback (Sample.world true) (Sample.world false) (Sample.policy true)
      (Sample.policy false) Sample.url := ⟨rfl, rfl, rfl, rfl⟩
  obtain ⟨⟨hchains, -⟩, hconfigured, hfails⟩ := lower_ranks_have_no_influence same loaded loaded'
  refine ⟨loaded, loaded', hchains _ hall, (hconfigured _ fallback).2 _, ?_⟩
  exact (hfails ⟨Sample.named, Sample.named⟩ _ (.ownPoint hnamed (.unanswered rfl))).2.1 _
    (by decide)

end RevocationCheck.Verification
