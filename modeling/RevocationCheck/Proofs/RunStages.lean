import RevocationCheck.CommandLine
import RevocationCheck.Proofs.Acceptance
import RevocationCheck.Proofs.DecodedChains
import RevocationCheck.Proofs.NearestEnvironment
import RevocationCheck.Proofs.SourcePriority
import RevocationCheck.Proofs.SpelledArguments

/-!
# The stages of a run

A run that has a request goes through its stages: it takes up the nearest environment file
(`Surrounds`), loads its configuration (`Configures`), reads the bundle and decodes all of it
(`Bundles`), and then verifies it in the way that is asked for (`verification`).  `Ending` says how
it ends, with one case for each stage that can fail first and one for success, and
`execute_eq_iff_ending` that a run ends in this way and in no other.

The stages are described by what they need of the files, the environment and the network, not by
the functions that carry them out; the depth that a request asks for stands in the verification,
where it belongs, and not in the configuration.
-/

namespace RevocationCheck.CommandLine

/-- The policy that the files and the environment configure, before a request has its say. -/
def Configures (files : FileSystem) (parents : Nat) (environment : Settings.Environment)
    (policy : Policy) : Prop :=
  ∃ surroundings, Surrounds files parents environment (some surroundings) ∧
    Settings.load files (.environment surroundings) = .ok policy

/-- A file is a bundle of certificates: it can be read, its blocks can be told apart, there is at
least one certificate among them, and each of these decodes. -/
def Bundles (files : FileSystem) (path : String) (certificates : List X509.Certificate) : Prop :=
  ∃ data ders, files path = .ok data ∧ Pem.certificates data = .ok ders ∧ ders ≠ [] ∧
    List.Forall₂ (fun der certificate => X509.Certificate.decode der = .ok certificate)
      ders certificates

/-- What is wrong with a file that is no bundle of certificates.  Of several certificates that do
not decode, the first one counts. -/
inductive BundleFault (files : FileSystem) (path : String) : RunFault → Prop
  | unreadable {cause : FileFault} (read : files path = .error cause) :
      BundleFault files path (.unreadable path cause)
  | notPem {data : Octets} {fault : Pem.Fault} (read : files path = .ok data)
      (scanned : Pem.certificates data = .error fault) : BundleFault files path (.notPem fault)
  | noCertificates {data : Octets} (read : files path = .ok data)
      (scanned : Pem.certificates data = .ok []) : BundleFault files path (.noCertificates path)
  | undecodable {data der : Octets} {front back : List Octets} {fault : X509.Fault}
      (read : files path = .ok data) (scanned : Pem.certificates data = .ok (front ++ der :: back))
      (decoded : ∀ other ∈ front, ∃ certificate,
        X509.Certificate.decode other = .ok certificate)
      (failed : X509.Certificate.decode der = .error fault) :
      BundleFault files path (.undecodable fault)

/-- The verification that a request asks for: of the whole bundle as one chain, or of its first
certificates, as many as the request says or else the policy. -/
def verification (world : World) (policy : Policy) (request : Request)
    (certificates : List X509.Certificate) : Checked Unit :=
  if request.verified then Verification.verifyChains world policy [certificates]
  else
    match request.depth with
    | none => Verification.verifyRaw world policy certificates
    | some depth => Verification.verifyRaw world { policy with depth := depth } certificates

/-- How a run ends: at the first stage that fails, or with success.  Only the last stage asks for
URLs. -/
inductive Ending (world : World) (parents : Nat) (environment : Settings.Environment)
    (request : Request) : Report → Prop
  | environment (broken : Surrounds world.files parents environment none) :
      Ending world parents environment request (.of .brokenOff)
  | settings {surroundings : Settings.Environment} {fault : Settings.Fault}
      (held : Surrounds world.files parents environment (some surroundings))
      (failed : Settings.load world.files (.environment surroundings) = .error fault) :
      Ending world parents environment request (.of (.failed (.settings fault)))
  | bundle {policy : Policy} {fault : RunFault}
      (configured : Configures world.files parents environment policy)
      (failed : BundleFault world.files request.bundle fault) :
      Ending world parents environment request (.of (.failed fault))
  | rejected {policy : Policy} {certificates : List X509.Certificate} {failure : Failure}
      (configured : Configures world.files parents environment policy)
      (bundled : Bundles world.files request.bundle certificates)
      (failed : (verification world policy request certificates).result = .error failure) :
      Ending world parents environment request
        ⟨(verification world policy request certificates).fetched, .failed (.rejected failure)⟩
  | passed {policy : Policy} {certificates : List X509.Certificate}
      (configured : Configures world.files parents environment policy)
      (bundled : Bundles world.files request.bundle certificates)
      (passes : (verification world policy request certificates).result = .ok ()) :
      Ending world parents environment request
        ⟨(verification world policy request certificates).fetched, .passed⟩

/-! ### Bundles -/

section Reading

variable {files : FileSystem} {path : String}

/-- Once certificates have been found, it is left to decode them. -/
theorem readBundle_of_scanned {data : Octets} {ders : List Octets} (read : files path = .ok data)
    (scanned : Pem.certificates data = .ok ders) (nonempty : ders ≠ []) :
    readBundle files path = (X509.decodeChain ders).mapError .undecodable := by
  obtain ⟨der, others, rfl⟩ := List.exists_cons_of_ne_nil nonempty
  rw [readBundle, read]
  dsimp only
  rw [scanned]
  dsimp only
  cases X509.decodeChain (der :: others) with
  | error fault => rfl
  | ok certificates => rfl

theorem readBundle_of_bundles {certificates : List X509.Certificate}
    (h : Bundles files path certificates) : readBundle files path = .ok certificates := by
  obtain ⟨data, ders, read, scanned, nonempty, decoded⟩ := h
  rw [readBundle_of_scanned read scanned nonempty, X509.decodeChain_eq_ok_iff.mpr decoded]
  rfl

theorem readBundle_of_bundleFault {fault : RunFault} (h : BundleFault files path fault) :
    readBundle files path = .error fault := by
  cases h with
  | unreadable read => rw [readBundle, read]
  | notPem read scanned =>
      rw [readBundle, read]
      dsimp only
      rw [scanned]
  | noCertificates read scanned =>
      rw [readBundle, read]
      dsimp only
      rw [scanned]
  | @undecodable data der front back fault read scanned decoded failed =>
      have hdecode : X509.decodeChain (front ++ der :: back) = .error fault :=
        X509.decodeChain_eq_error_iff.mpr ⟨front, der, back, rfl, decoded, failed⟩
      rw [readBundle_of_scanned read scanned (by simp), hdecode]
      rfl

/-- A file is a bundle or there is something wrong with it. -/
theorem bundles_or_bundleFault (files : FileSystem) (path : String) :
    (∃ certificates, Bundles files path certificates) ∨
      ∃ fault, BundleFault files path fault := by
  cases hread : files path with
  | error cause => exact .inr ⟨_, .unreadable hread⟩
  | ok data =>
      cases hscan : Pem.certificates data with
      | error fault => exact .inr ⟨_, .notPem hread hscan⟩
      | ok ders =>
          by_cases hsome : ders = []
          · subst hsome
            exact .inr ⟨_, .noCertificates hread hscan⟩
          · cases hdecode : X509.decodeChain ders with
            | ok certificates =>
                exact .inl ⟨certificates, data, ders, hread, hscan, hsome,
                  X509.decodeChain_eq_ok_iff.mp hdecode⟩
            | error fault =>
                obtain ⟨front, der, back, rfl, hfront, hder⟩ :=
                  X509.decodeChain_eq_error_iff.mp hdecode
                exact .inr ⟨_, .undecodable hread hscan hfront hder⟩

end Reading

/-! ### Depths -/

/-- The depth of the request, laid into the policy, is the one that the verification takes. -/
theorem check_eq_verification (world : World) (policy : Policy) (request : Request)
    (certificates : List X509.Certificate) :
    check world { policy with depth := request.depth.getD policy.depth } request certificates =
      verification world policy request certificates := by
  unfold check verification
  split
  · exact Verification.verifyChains_depth world policy _ [certificates]
  · cases request.depth with
    | none => rfl
    | some depth => rfl

theorem rawTargets_of_length_le {depth : Nat} {certificates : List X509.Certificate}
    (h : certificates.length ≤ depth) :
    Verification.rawTargets depth certificates = Verification.rawTargets 0 certificates := by
  have hwithin : Verification.withinDepth depth certificates = certificates := by
    unfold Verification.withinDepth
    split
    · rfl
    · exact List.take_of_length_le h
  unfold Verification.rawTargets
  rw [hwithin]
  rfl

/-- Depth zero is no limit: it checks what every depth checks that the bundle does not exceed. -/
theorem verification_unlimited {world : World} {policy : Policy} {request : Request}
    {certificates : List X509.Certificate} {depth : Nat} (h : certificates.length ≤ depth) :
    verification world policy { request with depth := some depth } certificates =
      verification world policy { request with depth := some 0 } certificates := by
  unfold verification
  split
  · rfl
  · dsimp only
    rw [Verification.verifyRaw_depth_eq_bind, Verification.verifyRaw_depth_eq_bind,
      rawTargets_of_length_le h]

/-! ### Runs -/

section Run

variable {world : World} {parents : Nat} {environment : Settings.Environment}
  {arguments : List String} {request : Request}

/-- The report of a run that comes to its verification. -/
def reportOf (checked : Checked Unit) : Report :=
  ⟨checked.fetched,
    match checked.result with
    | .error failure => .failed (.rejected failure)
    | .ok () => .passed⟩

/-- With a policy at hand, the bundle and its verification make the report. -/
theorem execute_of_configures {policy : Policy}
    (parsed : Request.ofArguments arguments = .ok request)
    (configured : Configures world.files parents environment policy) :
    execute world parents environment arguments =
      match readBundle world.files request.bundle with
      | .error fault => .of (.failed fault)
      | .ok certificates => reportOf (verification world policy request certificates) := by
  obtain ⟨surroundings, held, loaded⟩ := configured
  have hpolicy : policyOf world.files surroundings request =
      .ok { policy with depth := request.depth.getD policy.depth } := by
    rw [policyOf, loaded]
    rfl
  rw [execute, surroundings?_eq_iff.mpr held]
  dsimp only
  rw [parsed]
  dsimp only
  rw [perform, hpolicy]
  dsimp only
  cases readBundle world.files request.bundle with
  | error fault => rfl
  | ok certificates =>
      dsimp only
      rw [check_eq_verification]
      rfl

theorem execute_of_bundles {policy : Policy} {certificates : List X509.Certificate}
    (parsed : Request.ofArguments arguments = .ok request)
    (configured : Configures world.files parents environment policy)
    (bundled : Bundles world.files request.bundle certificates) :
    execute world parents environment arguments =
      reportOf (verification world policy request certificates) := by
  rw [execute_of_configures parsed configured, readBundle_of_bundles bundled]

theorem Ending.execute_eq {report : Report} (h : Ending world parents environment request report)
    (parsed : Request.ofArguments arguments = .ok request) :
    execute world parents environment arguments = report := by
  cases h with
  | environment broken => rw [execute, surroundings?_eq_iff.mpr broken]
  | settings held failed =>
      rw [execute, surroundings?_eq_iff.mpr held]
      dsimp only
      rw [parsed]
      dsimp only
      rw [perform, policyOf, failed]
      rfl
  | bundle configured failed =>
      rw [execute_of_configures parsed configured, readBundle_of_bundleFault failed]
  | rejected configured bundled failed =>
      rw [execute_of_bundles parsed configured bundled, reportOf, failed]
  | passed configured bundled passes =>
      rw [execute_of_bundles parsed configured bundled, reportOf, passes]

/-- Some stage is the first to fail, or none is. -/
theorem exists_ending (world : World) (parents : Nat) (environment : Settings.Environment)
    (request : Request) : ∃ report, Ending world parents environment request report := by
  cases hresult : surroundings? world.files parents environment with
  | none => exact ⟨_, .environment (surroundings?_eq_iff.mp hresult)⟩
  | some surroundings =>
      have held := surroundings?_eq_iff.mp hresult
      cases loaded : Settings.load world.files (.environment surroundings) with
      | error fault => exact ⟨_, .settings held loaded⟩
      | ok policy =>
          have configured : Configures world.files parents environment policy :=
            ⟨surroundings, held, loaded⟩
          obtain ⟨certificates, bundled⟩ | ⟨fault, failed⟩ :=
            bundles_or_bundleFault world.files request.bundle
          · cases checked : (verification world policy request certificates).result with
            | error failure => exact ⟨_, .rejected configured bundled checked⟩
            | ok _ => exact ⟨_, .passed configured bundled checked⟩
          · exact ⟨_, .bundle configured failed⟩

theorem execute_eq_iff_ending (parsed : Request.ofArguments arguments = .ok request)
    {report : Report} :
    execute world parents environment arguments = report ↔
      Ending world parents environment request report := by
  constructor
  · rintro rfl
    obtain ⟨report, h⟩ := exists_ending world parents environment request
    rwa [h.execute_eq parsed]
  · intro h
    exact h.execute_eq parsed

/-- Requests for the same verification of the same bundle end alike. -/
theorem Ending.of_verification_eq {other : Request} {report : Report}
    (hbundle : other.bundle = request.bundle)
    (hverification : ∀ policy certificates, verification world policy other certificates =
      verification world policy request certificates)
    (h : Ending world parents environment request report) :
    Ending world parents environment other report := by
  cases h with
  | environment broken => exact .environment broken
  | settings held failed => exact .settings held failed
  | bundle configured failed => exact .bundle configured (hbundle ▸ failed)
  | rejected configured bundled failed =>
      rw [← hverification] at failed ⊢
      exact .rejected configured (hbundle ▸ bundled) failed
  | passed configured bundled passes =>
      rw [← hverification] at passes ⊢
      exact .passed configured (hbundle ▸ bundled) passes

/-- Success is the only ending with the exit code zero. -/
theorem Ending.passes_of_exitCode {report : Report}
    (h : Ending world parents environment request report) (hzero : report.outcome.exitCode = 0) :
    ∃ policy certificates, Configures world.files parents environment policy ∧
      Bundles world.files request.bundle certificates ∧
      (verification world policy request certificates).result = .ok () := by
  cases h with
  | environment broken => cases hzero
  | settings held failed => cases hzero
  | bundle configured failed => cases hzero
  | rejected configured bundled failed => cases hzero
  | passed configured bundled passes => exact ⟨_, _, configured, bundled, passes⟩

/-- URLs are asked for by the verification only. -/
theorem Ending.exists_of_fetched {report : Report}
    (h : Ending world parents environment request report) (hfetched : report.fetched ≠ []) :
    ∃ policy certificates, Configures world.files parents environment policy ∧
      Bundles world.files request.bundle certificates ∧
      report.fetched = (verification world policy request certificates).fetched := by
  cases h with
  | environment broken => exact absurd rfl hfetched
  | settings held failed => exact absurd rfl hfetched
  | bundle configured failed => exact absurd rfl hfetched
  | rejected configured bundled failed => exact ⟨_, _, configured, bundled, rfl⟩
  | passed configured bundled passes => exact ⟨_, _, configured, bundled, rfl⟩

end Run

/-- A run fails closed.  The command lines that make a request are those whose words spell it, with
a bundle and perhaps the flag and a depth.  With such a command line, the exit code is zero if and
only if a policy is configured, the bundle is one of certificates that all decode, and the
verification that is asked for accepts them.

Otherwise the first stage that fails makes the report (`Ending`), and URLs are asked for by the
verification alone, which takes place only if every stage before it has succeeded.  A depth of zero
is no limit, and a run that verifies the bundle as one chain takes no notice of the depth. -/
theorem run_fails_closed (world : World) (parents : Nat) (environment : Settings.Environment) :
    (∀ arguments request,
      Request.ofArguments arguments = .ok request ↔ Asks arguments request) ∧
    ∀ arguments request, Asks arguments request →
      ((run world parents environment arguments).exitCode = 0 ↔
        ∃ policy certificates, Configures world.files parents environment policy ∧
          Bundles world.files request.bundle certificates ∧
          (verification world policy request certificates).result = .ok ()) ∧
      (∀ report, execute world parents environment arguments = report ↔
        Ending world parents environment request report) ∧
      ((execute world parents environment arguments).fetched ≠ [] →
        ∃ policy certificates, Configures world.files parents environment policy ∧
          Bundles world.files request.bundle certificates ∧
          (execute world parents environment arguments).fetched =
            (verification world policy request certificates).fetched) ∧
      (∀ policy certificates depth, certificates.length ≤ depth →
        verification world policy { request with depth := some depth } certificates =
          verification world policy { request with depth := some 0 } certificates) ∧
      (request.verified → ∀ others depth, Asks others { request with depth := depth } →
        execute world parents environment others =
          execute world parents environment arguments) := by
  refine ⟨fun arguments request => ofArguments_eq_ok_iff, ?_⟩
  intro arguments request asks
  have parsed := ofArguments_eq_ok_iff.mpr asks
  have hends : Ending world parents environment request
      (execute world parents environment arguments) := (execute_eq_iff_ending parsed).mp rfl
  refine ⟨?_, fun report => execute_eq_iff_ending parsed, hends.exists_of_fetched,
    fun policy certificates depth => verification_unlimited,
    fun hverified others depth hothers => ?_⟩
  · constructor
    · exact hends.passes_of_exitCode
    · rintro ⟨policy, certificates, configured, bundled, passes⟩
      rw [run, (execute_eq_iff_ending parsed).mpr (.passed configured bundled passes)]
      rfl
  · have hverification (policy : Policy) (certificates : List X509.Certificate) :
        verification world policy { request with depth := depth } certificates =
          verification world policy request certificates := by
      simp [verification, hverified]
    exact (execute_eq_iff_ending (ofArguments_eq_ok_iff.mpr hothers)).mpr
      (hends.of_verification_eq (by rfl) hverification)

/-! ### A sample -/

open Verification.Sample (offlinePolicy)

namespace Sample

/-- The octets of a text of plain characters. -/
def octetsOf (text : List Char) : Octets := text.map fun c => UInt8.ofNat c.toNat

/-- A line that names the offline list. -/
def assignment : List Char := "APP_CRL__OFFLINE_CRL_FILE=offline.pem\n".toList

/-- An environment file with this line. -/
def assignments : Octets := octetsOf assignment

/-- A certificate as a block. -/
def block (der : Octets) : List Char :=
  "-----BEGIN CERTIFICATE-----\n".toList ++ Base64.encode der ++
    "\n-----END CERTIFICATE-----\n".toList

/-- A bundle of two certificates, behind a line that belongs to no block.  The offline list has the
serial number of the second one. -/
def bundle : Octets :=
  octetsOf ("leaf\n".toList ++ block X509.plainCertificate ++ block (X509.plainEncoding 5))

/-- The world with these two files and the offline list, in which nothing answers.  The environment
file lies above the working directory. -/
def world : World where
  files path :=
    if path = "../.env" then .ok assignments
    else if path = "b.pem" then .ok bundle
    else (Verification.Sample.world true).files path
  network := Network.silent
  now := Verification.Sample.now

open Settings in
theorem load?_assignments : EnvironmentFile.load? assignments [] =
    some [("APP_CRL__OFFLINE_CRL_FILE", "offline.pem")] := by
  have hjoined : EnvironmentFile.join [] .bare
      (EnvironmentFile.lines (Text.Utf8.withoutMark assignments)) = [some assignment] := by
    decide +kernel
  have hline : EnvironmentFile.readLine [] assignment =
      some (some ("APP_CRL__OFFLINE_CRL_FILE", "offline.pem")) := by decide +kernel
  have hset : Environment.setNew? [] "APP_CRL__OFFLINE_CRL_FILE" "offline.pem" =
      some [("APP_CRL__OFFLINE_CRL_FILE", "offline.pem")] := by
    simp [Environment.setNew?, Environment.get?]
  rw [EnvironmentFile.load?, hjoined]
  simp only [EnvironmentFile.extend?, hline, hset]

theorem configures_offlinePolicy : Configures world.files 1 [] offlinePolicy := by
  have hpassed : IsPassed world.files 0 := .inl rfl
  have hnearest : IsNearest world.files 1 assignments :=
    ⟨1, Nat.le_refl 1, rfl, fun nearer hlt => (Nat.lt_one_iff.mp hlt) ▸ hpassed⟩
  have hsurrounds : Surrounds world.files 1 []
      (some [("APP_CRL__OFFLINE_CRL_FILE", "offline.pem")]) :=
    load?_assignments ▸ Surrounds.file hnearest
  exact ⟨_, hsurrounds, by decide +kernel⟩

theorem bundles_bundle {first second : X509.Certificate}
    (hfirst : X509.Certificate.decode X509.plainCertificate = .ok first)
    (hsecond : X509.Certificate.decode (X509.plainEncoding 5) = .ok second) :
    Bundles world.files "b.pem" [first, second] :=
  ⟨bundle, [X509.plainCertificate, X509.plainEncoding 5], rfl, by decide +kernel, by simp,
    .cons hfirst (.cons hsecond .nil)⟩

theorem loadOfflineList_offlinePolicy (depth : Nat) :
    Source.loadOfflineList world.files { offlinePolicy with depth := depth } world.now =
      .ok (some Verification.Sample.offlineList) :=
  Verification.Sample.loadOfflineList_offlinePolicy rfl

end Sample

open Sample in
/-- With a depth of one the second certificate of the bundle is not looked at, and the bundle
passes; with a depth of two it is rejected. -/
theorem run_fails_closed_sample :
    Asks ["--depth=+01", "b.pem"] ⟨"b.pem", false, some 1⟩ ∧
      (run world 1 [] ["--depth=+01", "b.pem"]).exitCode = 0 ∧
      Asks ["b.pem", "--depth", "2"] ⟨"b.pem", false, some 2⟩ ∧
      (run world 1 [] ["b.pem", "--depth", "2"]) = .failed (.rejected (.revoked "05")) := by
  have hone : Word.Writes "+01" 1 := ⟨by decide, 1, .inr (by decide)⟩
  have htwo : Word.Writes "2" 2 := ⟨by decide, 0, .inl (by decide)⟩
  have asks : Asks ["--depth=+01", "b.pem"] ⟨"b.pem", false, some 1⟩ :=
    ⟨[.depth "+01" true, .bundle "b.pem"],
      .depth true hone (.bundle (by decide) (by decide) .nil), rfl⟩
  have asks' : Asks ["b.pem", "--depth", "2"] ⟨"b.pem", false, some 2⟩ :=
    ⟨[.bundle "b.pem", .depth "2" false],
      .bundle (by decide) (by decide) (.depth false htwo .nil), rfl⟩
  obtain ⟨-, hruns⟩ := run_fails_closed world 1 []
  obtain ⟨first, hfirst, hserial, hextensions⟩ := X509.decode_plainCertificate
  obtain ⟨second, hsecond, hserial', hextensions'⟩ := X509.decode_plainEncoding 5
  have bundled := bundles_bundle hfirst hsecond
  have hpasses : (verification world offlinePolicy ⟨"b.pem", false, some 1⟩
      [first, second]).result = .ok () := by
    rw [verification, if_neg (by decide)]
    dsimp only
    refine Verification.verifyRaw_eq_ok_iff.mpr
      ⟨_, loadOfflineList_offlinePolicy 1, fun target hmem => ?_⟩
    obtain ⟨checked, hchecked, rfl⟩ := List.mem_map.mp hmem
    obtain rfl := List.mem_singleton.mp hchecked
    exact Verification.Sample.passes_offlineList hserial hextensions
  have hrejected : (verification world offlinePolicy ⟨"b.pem", false, some 2⟩
      [first, second]).result = .error (.revoked "05") := by
    rw [verification, if_neg (by decide)]
    dsimp only
    rw [Verification.verifyRaw_of_loaded (loadOfflineList_offlinePolicy 2)]
    change (Verification.checkTargets _ _ _ [⟨first, _⟩, ⟨second, _⟩]).result = _
    rw [Verification.checkTargets_cons_of_passes
        (Verification.Sample.passes_offlineList hserial hextensions),
      Verification.checkTargets_cons_of_failsWith
        (Verification.Sample.failsWith_offlineList hserial' hextensions')]
  have hexecute := ((hruns _ _ asks').2.1 _).mpr
    (.rejected configures_offlinePolicy bundled hrejected)
  exact ⟨asks, (hruns _ _ asks).1.mpr ⟨_, _, configures_offlinePolicy, bundled, hpasses⟩, asks',
    congrArg Report.outcome hexecute⟩

end RevocationCheck.CommandLine
