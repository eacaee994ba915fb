import RevocationCheck.Files
import RevocationCheck.Network
import RevocationCheck.RevocationList.Validation

/-!
# Failures of revocation checking

Every way in which a check can fail, its kind, and its text.
-/

namespace RevocationCheck

/-- What a file with an issuer's certificate is for. -/
inductive IssuerRole
  | offlineList
  | distributionPoint
deriving Repr, DecidableEq

/-- The text of a role. -/
def IssuerRole.text : IssuerRole → String
  | offlineList => "offline CRL issuer cert file"
  | distributionPoint => "CRL distribution points issuer cert file"

/-- Why a check failed. -/
inductive Failure
  | noResponse (url : String)
  | httpStatus (url : String) (status : Nat)
  | brokenBody (url : String)
  | offlineListUnreadable (path : String) (cause : FileFault)
  | issuerUnreadable (role : IssuerRole) (path : String) (cause : FileFault)
  | issuerNotPem (role : IssuerRole) (path : String)
  | issuerUndecodable (role : IssuerRole) (path reason : String)
  | undecodable (reason : String)
  | badSignature (reason : String)
  | expired (nextUpdate : Timestamp)
  | noSource
  | revoked (serial : String)
deriving Repr, DecidableEq

namespace Failure

/-- The kinds of failures. -/
inductive Kind
  | retrieval
  | io
  | parse
  | signature
  | expired
  | noSource
  | revoked
deriving Repr, DecidableEq

/-- The name of a kind. -/
def Kind.name : Kind → String
  | retrieval => "Retrieval"
  | io => "Io"
  | parse => "Parse"
  | signature => "Signature"
  | expired => "Expired"
  | noSource => "NoSource"
  | revoked => "Revoked"

/-- The kind of a failure. -/
def kind : Failure → Kind
  | noResponse .. | httpStatus .. | brokenBody .. => .retrieval
  | offlineListUnreadable .. | issuerUnreadable .. => .io
  | issuerNotPem .. | issuerUndecodable .. | undecodable .. => .parse
  | badSignature .. => .signature
  | expired .. => .expired
  | noSource => .noSource
  | revoked .. => .revoked

/-- The reason of a file failure. -/
def cause? : Failure → Option FileFault
  | offlineListUnreadable _ cause | issuerUnreadable _ _ cause => some cause
  | _ => none

/-- The text of a failure. -/
def message : Failure → String
  | noResponse url => "failed to retrieve CRL from " ++ url
  | httpStatus url status =>
    "failed to retrieve CRL from " ++ url ++ ": HTTP status " ++ toString status ++ " " ++
      (reasonPhrase? status).getD "<unknown status code>"
  | brokenBody url => "failed to read CRL from " ++ url
  | offlineListUnreadable path _ => "failed to load offline CRL file " ++ path
  | issuerUnreadable role path _ => "failed to load " ++ role.text ++ " " ++ path
  | issuerNotPem role path => "failed to decode PEM block in " ++ role.text ++ " " ++ path
  | issuerUndecodable role path reason =>
    "failed to parse certificate in " ++ role.text ++ " " ++ path ++ ": " ++ reason
  | undecodable reason => "failed to parse CRL: " ++ reason
  | badSignature reason => "failed to verify CRL signature: " ++ reason
  | expired nextUpdate => "CRL expired at " ++ nextUpdate.text
  | noSource =>
    "neither offline CRL file nor CRL distribution points available for certificate"
  | revoked serial => "certificate " ++ serial ++ " revoked"

/-- The failure of a fetch. -/
def ofFetch (url : String) : FetchFault → Failure
  | .noResponse => noResponse url
  | .status code => httpStatus url code
  | .brokenBody => brokenBody url

/-- The failure to decode a list. -/
def ofList (fault : RevocationList.Fault) : Failure := undecodable fault.message

/-- The failure to read the blocks of a bundle. -/
def ofBundle (fault : Pem.Fault) : Failure := undecodable ("invalid PEM block: " ++ fault.name)

/-- The failure of a list to be valid. -/
def ofInvalidity : RevocationList.Invalidity → Failure
  | .expired nextUpdate => expired nextUpdate
  | .signature (.undecodable fault) => undecodable fault.message
  | .signature fault => badSignature fault.message

end Failure

end RevocationCheck
