import RevocationCheck.Failure
import RevocationCheck.Policy

/-!
# Lists and issuers from files

An empty path, and an empty file, stand for "not configured".  The certificate of an issuer is
the first PEM block of its file, whatever its label.  What is kept of it are its octets, which are
decoded when it is loaded and again when it is used.
-/

namespace RevocationCheck.Source

/-- The contents of a configured file; an empty path has empty contents. -/
def readConfigured (files : FileSystem) (path : String) : Except FileFault Octets :=
  if path = "" then .ok [] else files path

/-- An issuer certificate that has been loaded from a file. -/
structure IssuerCertificate where
  encoded : Octets
deriving Repr, DecidableEq

namespace IssuerCertificate

/-- Decode the certificate. -/
def certificate (issuer : IssuerCertificate) : Except Failure X509.Certificate :=
  match X509.Certificate.decode issuer.encoded with
  | .error fault => .error (.undecodable fault.message)
  | .ok certificate => .ok certificate

/-- Load the issuer certificate in a file, if one is configured. -/
def load (files : FileSystem) (role : IssuerRole) (path : String) :
    Except Failure (Option IssuerCertificate) :=
  match readConfigured files path with
  | .error cause => .error (.issuerUnreadable role path cause)
  | .ok data =>
    if data.isEmpty then .ok none
    else
      match Pem.first data with
      | .error _ => .error (.issuerNotPem role path)
      | .ok block =>
        let issuer : IssuerCertificate := ⟨block.contents⟩
        match issuer.certificate with
        | .error failure => .error (.issuerUndecodable role path failure.message)
        | .ok _ => .ok (some issuer)

end IssuerCertificate

/-- The certificate in an issuer's file, if one is configured. -/
def loadIssuer (files : FileSystem) (role : IssuerRole) (path : String) :
    Except Failure (Option X509.Certificate) :=
  match IssuerCertificate.load files role path with
  | .error failure => .error failure
  | .ok none => .ok none
  | .ok (some issuer) => issuer.certificate.map some

/-- An issuer file fails to be read, or to be decoded; nothing else can go wrong with it. -/
theorem kind_of_loadIssuer {files : FileSystem} {role : IssuerRole} {path : String}
    {failure : Failure} (h : loadIssuer files role path = .error failure) :
    failure.kind = .io ∨ failure.kind = .parse := by
  unfold loadIssuer at h
  split at h
  case h_1 hload =>
    cases h
    unfold IssuerCertificate.load at hload
    split at hload
    · cases hload
      exact .inl rfl
    · split at hload
      · cases hload
      · split at hload
        · cases hload
          exact .inr rfl
        · dsimp only at hload
          split at hload
          · cases hload
            exact .inr rfl
          · cases hload
  case h_2 => cases h
  case h_3 issuer _ =>
    unfold IssuerCertificate.certificate at h
    split at h
    · cases h
      exact .inr rfl
    · cases h

/-- Decode a list and require it to be valid. -/
def validList (data : Octets) (issuer : Option X509.Certificate) (signatureWanted : Bool)
    (now : Timestamp) : Except Failure RevocationList :=
  match RevocationList.ofPem data with
  | .error fault => .error (.ofList fault)
  | .ok list =>
    match list.validate issuer signatureWanted now with
    | .error invalidity => .error (.ofInvalidity invalidity)
    | .ok list => .ok list

/-- The offline list, if one is configured.  Its issuer is loaded first. -/
def loadOfflineList (files : FileSystem) (policy : Policy) (now : Timestamp) :
    Except Failure (Option RevocationList) :=
  match readConfigured files policy.offlineListFile with
  | .error cause => .error (.offlineListUnreadable policy.offlineListFile cause)
  | .ok data =>
    if data.isEmpty then .ok none
    else
      match loadIssuer files .offlineList policy.offlineIssuerFile with
      | .error failure => .error failure
      | .ok issuer =>
        match validList data issuer policy.verifyOfflineSignature now with
        | .error failure => .error failure
        | .ok list => .ok (some list)

end RevocationCheck.Source
