import RevocationCheck.Source

/-!
# Configured files

A configured file is missing from the configuration, cannot be read, or has contents
(`readConfigured_cases`).  For a file with an issuer's certificate there is more to it: its first
PEM block encodes a certificate (`Holds`), or the file is not usable (`Unusable`), and then the
failure names the file and what it is for.

An issuer's certificate is decoded when it is loaded and once more when it is used.  The second
decoding has no failure of its own (`loadIssuer_eq_error_iff`), since what is kept of the file are
the octets that have decoded before.
-/

namespace RevocationCheck.Source

/-- Nothing is configured: there is no path, or the file is empty. -/
def Unconfigured (files : FileSystem) (path : String) : Prop := path = "" ∨ files path = .ok []

/-- A configured file has contents. -/
structure Contains (files : FileSystem) (path : String) (data : Octets) : Prop where
  configured : path ≠ ""
  read : files path = .ok data
  nonempty : data ≠ []

/-- The first PEM block of a configured file encodes a certificate. -/
structure Holds (files : FileSystem) (path : String) (block : Pem.Block)
    (certificate : X509.Certificate) : Prop where
  scanned : ∃ data, Contains files path data ∧ Pem.first data = .ok block
  decoded : X509.Certificate.decode block.contents = .ok certificate

/-- What is wrong with a configured issuer file.  Every failure names the file and what it is for. -/
inductive Unusable (files : FileSystem) (role : IssuerRole) (path : String) : Failure → Prop
  | unreadable {cause : FileFault} (configured : path ≠ "") (read : files path = .error cause) :
      Unusable files role path (.issuerUnreadable role path cause)
  | notPem {data : Octets} {fault : Pem.Fault} (contents : Contains files path data)
      (scanned : Pem.first data = .error fault) : Unusable files role path (.issuerNotPem role path)
  | undecodable {data : Octets} {block : Pem.Block} {fault : X509.Fault}
      (contents : Contains files path data) (scanned : Pem.first data = .ok block)
      (failed : X509.Certificate.decode block.contents = .error fault) :
      Unusable files role path
        (.issuerUndecodable role path (Failure.undecodable fault.message).message)

section Reading

variable {files : FileSystem} {path : String}

theorem readConfigured_of_unconfigured (h : Unconfigured files path) :
    readConfigured files path = .ok [] := by
  unfold readConfigured
  split
  case isTrue => rfl
  case isFalse hpath => exact h.resolve_left hpath

theorem readConfigured_of_configured (h : path ≠ "") :
    readConfigured files path = files path := if_neg h

theorem Contains.readConfigured_eq {data : Octets} (h : Contains files path data) :
    readConfigured files path = .ok data := by
  rw [readConfigured_of_configured h.configured, h.read]

variable (files path) in
/-- The three states of a file that may be configured. -/
theorem readConfigured_cases :
    Unconfigured files path ∨ (path ≠ "" ∧ ∃ cause, files path = .error cause) ∨
      ∃ data, Contains files path data := by
  by_cases hpath : path = ""
  · exact .inl (.inl hpath)
  · cases hfile : files path with
    | error cause => exact .inr (.inl ⟨hpath, cause, rfl⟩)
    | ok data =>
        by_cases hempty : data = []
        · subst hempty
          exact .inl (.inr hfile)
        · exact .inr (.inr ⟨data, hpath, hfile, hempty⟩)

end Reading

/-! ### Issuer files -/

section Issuer

variable {files : FileSystem} {role : IssuerRole} {path : String}

theorem load_of_unconfigured (h : Unconfigured files path) :
    IssuerCertificate.load files role path = .ok none := by
  simp [IssuerCertificate.load, readConfigured_of_unconfigured h]

theorem load_of_holds {block : Pem.Block} {certificate : X509.Certificate}
    (h : Holds files path block certificate) :
    IssuerCertificate.load files role path = .ok (some ⟨block.contents⟩) := by
  obtain ⟨⟨data, hcontains, hscan⟩, hdecode⟩ := h
  simp [IssuerCertificate.load, IssuerCertificate.certificate, hcontains.readConfigured_eq,
    hcontains.nonempty, hscan, hdecode]

theorem load_of_unusable {failure : Failure} (h : Unusable files role path failure) :
    IssuerCertificate.load files role path = .error failure := by
  cases h with
  | unreadable configured read =>
      simp [IssuerCertificate.load, readConfigured_of_configured configured, read]
  | notPem contents scanned =>
      simp [IssuerCertificate.load, contents.readConfigured_eq, contents.nonempty, scanned]
  | undecodable contents scanned failed =>
      simp [IssuerCertificate.load, IssuerCertificate.certificate, contents.readConfigured_eq,
        contents.nonempty, scanned, failed]

/-- A file is not configured, holds a certificate, or is not usable. -/
theorem unconfigured_or_holds_or_unusable (files : FileSystem) (role : IssuerRole)
    (path : String) :
    Unconfigured files path ∨ (∃ block certificate, Holds files path block certificate) ∨
      ∃ failure, Unusable files role path failure := by
  rcases readConfigured_cases files path with hnone | ⟨hpath, cause, hread⟩ | ⟨data, hcontains⟩
  · exact .inl hnone
  · exact .inr (.inr ⟨_, .unreadable hpath hread⟩)
  · cases hscan : Pem.first data with
    | error fault => exact .inr (.inr ⟨_, .notPem hcontains hscan⟩)
    | ok block =>
        cases hdecode : X509.Certificate.decode block.contents with
        | error fault => exact .inr (.inr ⟨_, .undecodable hcontains hscan hdecode⟩)
        | ok certificate =>
            exact .inr (.inl ⟨block, certificate, ⟨data, hcontains, hscan⟩, hdecode⟩)

/-- A file that has been loaded holds a certificate. -/
theorem holds_of_load {issuer : IssuerCertificate}
    (h : IssuerCertificate.load files role path = .ok (some issuer)) :
    ∃ block certificate, Holds files path block certificate ∧ issuer = ⟨block.contents⟩ := by
  rcases unconfigured_or_holds_or_unusable files role path with
    hnone | ⟨block, certificate, hholds⟩ | ⟨failure, hunusable⟩
  · cases h.symm.trans (load_of_unconfigured hnone)
  · cases h.symm.trans (load_of_holds hholds)
    exact ⟨block, certificate, hholds, rfl⟩
  · cases h.symm.trans (load_of_unusable hunusable)

/-- What is kept of a file decodes again. -/
theorem certificate_of_holds {block : Pem.Block} {certificate : X509.Certificate}
    (h : Holds files path block certificate) :
    IssuerCertificate.certificate ⟨block.contents⟩ = .ok certificate := by
  rw [IssuerCertificate.certificate, h.decoded]

theorem loadIssuer_of_unconfigured (h : Unconfigured files path) :
    loadIssuer files role path = .ok none := by
  rw [loadIssuer, load_of_unconfigured h]

theorem loadIssuer_of_holds {block : Pem.Block} {certificate : X509.Certificate}
    (h : Holds files path block certificate) :
    loadIssuer files role path = .ok (some certificate) := by
  rw [loadIssuer, load_of_holds h]
  dsimp only
  rw [certificate_of_holds h]
  rfl

/-- The failures of an issuer's certificate are those of loading its file. -/
theorem loadIssuer_eq_error_iff {failure : Failure} :
    loadIssuer files role path = .error failure ↔ Unusable files role path failure := by
  constructor
  · intro h
    rcases unconfigured_or_holds_or_unusable files role path with
      hnone | ⟨block, certificate, hholds⟩ | ⟨found, hunusable⟩
    · cases h.symm.trans (loadIssuer_of_unconfigured hnone)
    · cases h.symm.trans (loadIssuer_of_holds hholds)
    · rw [loadIssuer, load_of_unusable hunusable] at h
      cases h
      exact hunusable
  · intro h
    rw [loadIssuer, load_of_unusable h]

end Issuer

/-! ### The file of the offline list -/

section OfflineList

variable {files : FileSystem} {policy : Policy} {now : Timestamp}

theorem loadOfflineList_of_unconfigured (h : Unconfigured files policy.offlineListFile) :
    loadOfflineList files policy now = .ok none := by
  simp [loadOfflineList, readConfigured_of_unconfigured h]

theorem loadOfflineList_of_unreadable {cause : FileFault} (h : policy.offlineListFile ≠ "")
    (hread : files policy.offlineListFile = .error cause) :
    loadOfflineList files policy now =
      .error (.offlineListUnreadable policy.offlineListFile cause) := by
  simp [loadOfflineList, readConfigured_of_configured h, hread]

/-- Once there are contents, the issuer file comes first. -/
theorem loadOfflineList_of_contains {data : Octets}
    (h : Contains files policy.offlineListFile data) :
    loadOfflineList files policy now =
      match loadIssuer files .offlineList policy.offlineIssuerFile with
      | .error failure => .error failure
      | .ok issuer => (validList data issuer policy.verifyOfflineSignature now).map some := by
  rw [loadOfflineList, h.readConfigured_eq]
  dsimp only
  rw [if_neg (by simpa using h.nonempty)]
  cases loadIssuer files .offlineList policy.offlineIssuerFile with
  | error failure => rfl
  | ok issuer =>
      dsimp only
      cases validList data issuer policy.verifyOfflineSignature now <;> rfl

end OfflineList

end RevocationCheck.Source
