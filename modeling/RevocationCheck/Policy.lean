import RevocationCheck.Url

/-!
# Policies

What the operator configures: how many certificates of a list are checked, where an offline list
lies and who signs it, and where to fetch a list for certificates that do not name a place.
-/

namespace RevocationCheck

/-- A policy. -/
structure Policy where
  /-- How many certificates of an unverified list are checked; zero stands for all. -/
  depth : Nat
  offlineListFile : String
  offlineIssuerFile : String
  /-- Where to fetch a list when a certificate does not say. -/
  distributionPoint : Option Url
  distributionPointIssuerFile : String
  verifyOfflineSignature : Bool
deriving Repr, DecidableEq

namespace Policy

/-- The policy when nothing is configured. -/
def default : Policy := ⟨1, "", "", none, "", false⟩

/-- The URL that a text gives; a blank text gives none. -/
def urlOfText (s : String) : Except Url.Fault (Option Url) :=
  match Text.trim s.toList with
  | [] => .ok none
  | cs => (Url.parse (String.ofList cs)).map some

end Policy

end RevocationCheck
