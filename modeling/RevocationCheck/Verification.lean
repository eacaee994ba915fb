import RevocationCheck.Checked
import RevocationCheck.Issuer
import RevocationCheck.Source

/-!
# Checking certificates for revocation

A certificate is checked against exactly one list: the one that it names itself, else the one at
the configured distribution point, else the offline list.  A list of lower rank never stands in
for one of higher rank that fails.  The first failure ends a check.
-/

namespace RevocationCheck

/-- What a check can see of the world. -/
structure World where
  files : FileSystem
  network : Network
  now : Timestamp

namespace Verification

/-- Fetch a list and require it to be valid and signed by an issuer. -/
def retrieve (world : World) (url : String) (issuer : Option X509.Certificate) :
    Checked RevocationList :=
  ⟨[url],
    match world.network url with
    | .error fault => .error (.ofFetch url fault)
    | .ok data => Source.validList data issuer true world.now⟩

/-- The list fetched for a certificate, if there is a place to fetch one from. -/
def fetchedList (world : World) (policy : Policy) (certificate issuer : X509.Certificate) :
    Checked (Option RevocationList) := do
  match certificate.distributionPoint? with
  | some url => return some (← retrieve world url (some issuer))
  | none =>
    match policy.distributionPoint with
    | none => return none
    | some url =>
      let signer ← Checked.of
        (Source.loadIssuer world.files .distributionPoint policy.distributionPointIssuerFile)
      return some (← retrieve world url.text signer)

/-- Does a list spare a certificate? -/
def judge (list : RevocationList) (certificate : X509.Certificate) : Except Failure Unit :=
  match list.lookup certificate.serial with
  | .revoked => .error (.revoked (Text.Hex.encode certificate.serialOctets))
  | .notRevoked => .ok ()

/-- Check one certificate. -/
def checkCertificate (world : World) (policy : Policy) (offline : Option RevocationList)
    (certificate issuer : X509.Certificate) : Checked Unit := do
  match ← fetchedList world policy certificate issuer with
  | some list => Checked.of (judge list certificate)
  | none =>
    match offline with
    | some list => Checked.of (judge list certificate)
    | none => Checked.of (.error .noSource)

/-- Check the certificates of a chain from a position on, one after another.  The check ends when
as many have passed as the depth says; without a depth it goes on to the end. -/
def checkFrom (world : World) (policy : Policy) (offline : Option RevocationList)
    (rule : IssuerRule) (depth : Option Nat) (chain : List X509.Certificate) (position : Nat) :
    List X509.Certificate → Checked Unit
  | [] => pure ()
  | certificate :: rest => do
    let issuer := (rule.issuerAt? chain position).getD certificate
    checkCertificate world policy offline certificate issuer
    if depth = some (position + 1) then pure ()
    else checkFrom world policy offline rule depth chain (position + 1) rest

/-- Check the certificates of a chain. -/
def checkChain (world : World) (policy : Policy) (offline : Option RevocationList)
    (rule : IssuerRule) (depth : Option Nat) (chain : List X509.Certificate) : Checked Unit :=
  checkFrom world policy offline rule depth chain 0 chain

/-- Check the chains of verified certificates one after another. -/
def checkChains (world : World) (policy : Policy) (offline : Option RevocationList) :
    List (List X509.Certificate) → Checked Unit
  | [] => pure ()
  | chain :: rest => do
    checkChain world policy offline .verifiedChain none chain
    checkChains world policy offline rest

/-- Check every certificate of verified chains. -/
def verifyChains (world : World) (policy : Policy) (chains : List (List X509.Certificate)) :
    Checked Unit := do
  let offline ← Checked.of (Source.loadOfflineList world.files policy world.now)
  checkChains world policy offline chains

/-- Check the first certificates of an unverified list, as many as the policy says.  All of
them can be issuers. -/
def verifyRaw (world : World) (policy : Policy) (certificates : List X509.Certificate) :
    Checked Unit := do
  let offline ← Checked.of (Source.loadOfflineList world.files policy world.now)
  let depth := if 0 < policy.depth then some policy.depth else none
  checkChain world policy offline .subjectMatch depth certificates

end Verification

end RevocationCheck
