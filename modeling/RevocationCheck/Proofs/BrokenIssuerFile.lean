import RevocationCheck.Proofs.IssuerFiles
import RevocationCheck.Proofs.SourcePriority

/-!
# Broken issuer files

What becomes of a run whose policy configures a file with the issuer of the offline list, and this
file is broken.  It depends on the offline list alone:

* if the list's file has contents, the run fails because of the issuer's file, whether a signature is
  asked for or not;
* if the list's file cannot be read, the run fails because of that;
* if there is no offline list, the issuer's file is not looked at, and the run goes on as it would
  without one.

In the first two cases nothing is fetched.  The last case lets a broken file pass unnoticed
(`broken_file_unnoticed`).
-/

namespace RevocationCheck

namespace Source

/-- A configured issuer file is broken: it cannot be read, or it has contents and does not begin
with a PEM block that encodes a certificate.  A file without any such block is one of these. -/
inductive Broken (files : FileSystem) (path : String) : Prop
  | unreadable {cause : FileFault} (configured : path ≠ "") (read : files path = .error cause) :
      Broken files path
  | noCertificate {data : Octets} (contents : Contains files path data)
      (absent : ∀ block certificate, Pem.first data = .ok block →
        X509.Certificate.decode block.contents ≠ .ok certificate) : Broken files path

/-- A broken file is not usable, and this is a failure to read or to decode. -/
theorem Broken.unusable {files : FileSystem} {path : String} (h : Broken files path)
    (role : IssuerRole) :
    ∃ failure, Unusable files role path failure ∧ (failure.kind = .io ∨ failure.kind = .parse) := by
  cases h with
  | unreadable configured read => exact ⟨_, .unreadable configured read, .inl rfl⟩
  | @noCertificate data contents absent =>
      cases hscan : Pem.first data with
      | error fault => exact ⟨_, .notPem contents hscan, .inr rfl⟩
      | ok block =>
          cases hdecode : X509.Certificate.decode block.contents with
          | error fault => exact ⟨_, .undecodable contents hscan hdecode, .inr rfl⟩
          | ok certificate => exact absurd hdecode (absent block certificate hscan)

end Source

namespace Verification

/-- A run that fails with the loading of the offline list, on every input and before anything is
fetched. -/
structure FailsClosed (world : World) (policy : Policy) (failure : Failure) : Prop where
  load : Source.loadOfflineList world.files policy world.now = .error failure
  chains : ∀ chains, verifyChains world policy chains = ⟨[], .error failure⟩
  raw : ∀ certificates, verifyRaw world policy certificates = ⟨[], .error failure⟩

section Runs

variable {world : World} {policy : Policy} {failure : Failure}

theorem FailsClosed.of_load
    (h : Source.loadOfflineList world.files policy world.now = .error failure) :
    FailsClosed world policy failure :=
  ⟨h, verifyChains_of_unloaded h, verifyRaw_of_unloaded h⟩

/-- The issuer of the offline list has no part in the check of a target. -/
theorem checkTargets_offlineIssuerFile (world : World) (policy : Policy)
    (offline : Option RevocationList) (path : String) (targets : List Target) :
    checkTargets world { policy with offlineIssuerFile := path } offline targets =
      checkTargets world policy offline targets := by
  induction targets with
  | nil => rfl
  | cons target rest ih =>
      rw [checkTargets, checkTargets, ih]
      rfl

/-- Without an offline list it does not matter who would have to sign it. -/
theorem unsigned_of_unconfigured
    (h : Source.Unconfigured world.files policy.offlineListFile) (path : String) :
    (∀ chains, verifyChains world { policy with offlineIssuerFile := path } chains =
      verifyChains world policy chains) ∧
    ∀ certificates, verifyRaw world { policy with offlineIssuerFile := path } certificates =
      verifyRaw world policy certificates := by
  have hload : Source.loadOfflineList world.files policy world.now = .ok none :=
    Source.loadOfflineList_of_unconfigured h
  have hother : Source.loadOfflineList world.files { policy with offlineIssuerFile := path }
      world.now = .ok none :=
    Source.loadOfflineList_of_unconfigured h
  constructor
  · intro chains
    rw [verifyChains_of_loaded hload, verifyChains_of_loaded hother,
      checkTargets_offlineIssuerFile]
  · intro certificates
    rw [verifyRaw_of_loaded hload, verifyRaw_of_loaded hother]
    exact checkTargets_offlineIssuerFile world policy none path _

/-- A broken issuer file fails closed wherever there is an offline list.

If the list's file has contents, the loading of the list and both kinds of runs fail because of the
issuer's file, with a failure to read or to decode, on every input and before anything is fetched;
neither the contents nor the wish for a signature make a difference.  If the list's file cannot be
read, they fail because of that.  If there is no offline list, because its path or its file is empty,
then the issuer's file is not looked at: no list is loaded, and every run goes as it does with no
issuer file configured. -/
theorem broken_file_outcome (h : Source.Broken world.files policy.offlineIssuerFile) :
    (∀ data, Source.Contains world.files policy.offlineListFile data →
      ∃ failure, Source.Unusable world.files .offlineList policy.offlineIssuerFile failure ∧
        (failure.kind = .io ∨ failure.kind = .parse) ∧ FailsClosed world policy failure) ∧
    (∀ cause, policy.offlineListFile ≠ "" → world.files policy.offlineListFile = .error cause →
      FailsClosed world policy (.offlineListUnreadable policy.offlineListFile cause)) ∧
    (Source.Unconfigured world.files policy.offlineListFile →
      Source.loadOfflineList world.files policy world.now = .ok none ∧
      (∀ chains, verifyChains world { policy with offlineIssuerFile := "" } chains =
        verifyChains world policy chains) ∧
      ∀ certificates, verifyRaw world { policy with offlineIssuerFile := "" } certificates =
        verifyRaw world policy certificates) := by
  refine ⟨?_, ?_, ?_⟩
  · intro data hcontains
    obtain ⟨failure, hunusable, hkind⟩ := h.unusable .offlineList
    refine ⟨failure, hunusable, hkind, .of_load ?_⟩
    rw [Source.loadOfflineList_of_contains hcontains,
      Source.loadIssuer_eq_error_iff.mpr hunusable]
  · intro cause hpath hread
    exact .of_load (Source.loadOfflineList_of_unreadable hpath hread)
  · intro hnone
    exact ⟨Source.loadOfflineList_of_unconfigured hnone, unsigned_of_unconfigured hnone ""⟩

end Runs

namespace Sample

/-- A policy with a file for the issuer of the offline list. -/
def issuerPolicy (listFile : String) : Policy :=
  { Policy.default with offlineListFile := listFile, offlineIssuerFile := "issuer.pem" }

/-- There is no such file. -/
theorem broken_issuerPolicy (listFile : String) :
    Source.Broken (world true).files (issuerPolicy listFile).offlineIssuerFile := by
  have hmissing : (world true).files "issuer.pem" = .error .notFound := rfl
  exact .unreadable (show "issuer.pem" ≠ "" by decide) hmissing

end Sample

/-- With an offline list, an issuer file that is missing fails every run. -/
theorem broken_file_outcome_sample :
    Source.Broken (Sample.world true).files (Sample.issuerPolicy "offline.pem").offlineIssuerFile ∧
    verifyRaw (Sample.world true) (Sample.issuerPolicy "offline.pem") [Sample.named] =
      ⟨[], .error (.issuerUnreadable .offlineList "issuer.pem" .notFound)⟩ := by
  have hbroken := Sample.broken_issuerPolicy "offline.pem"
  have hcontains : Source.Contains (Sample.world true).files
      (Sample.issuerPolicy "offline.pem").offlineListFile (Sample.block Sample.list) :=
    ⟨by decide, rfl, by decide⟩
  obtain ⟨failure, hunusable, -, hfails⟩ :=
    (broken_file_outcome hbroken).1 _ hcontains
  have hload : Source.loadIssuer (Sample.world true).files .offlineList "issuer.pem" =
      .error (.issuerUnreadable .offlineList "issuer.pem" .notFound) := rfl
  obtain rfl : failure = .issuerUnreadable .offlineList "issuer.pem" .notFound :=
    Except.error.inj ((Source.loadIssuer_eq_error_iff.mpr hunusable).symm.trans hload)
  exact ⟨hbroken, hfails.raw _⟩

/-- Without an offline list, the same file goes unnoticed: no list is loaded, and there are inputs
that pass in both kinds of runs. -/
theorem broken_file_unnoticed :
    Source.Broken (Sample.world true).files (Sample.issuerPolicy "").offlineIssuerFile ∧
    Source.loadOfflineList (Sample.world true).files (Sample.issuerPolicy "") Sample.now =
      .ok none ∧
    (verifyChains (Sample.world true) (Sample.issuerPolicy "") []).result = .ok () ∧
    (verifyRaw (Sample.world true) (Sample.issuerPolicy "") []).result = .ok () :=
  ⟨Sample.broken_issuerPolicy "", rfl, rfl, rfl⟩

end Verification

end RevocationCheck
