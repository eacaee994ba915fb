import RevocationCheck.TrustPath.Standing
import RevocationCheck.TrustPath.Strength

/-!
# Paths of trust

A path leads from a certificate up to a trusted root, each certificate being issued by the next
one.  It is built by what certificates say about each other, without looking at signatures: the
issuer of a certificate is the first trusted one that could be it, else the first presented one.
Once a trusted certificate is reached, only trusted ones follow.  The one path built this way is
then judged; there is no search for another.

The validity dates of certificates are not looked at here, and neither are constraints on names.
-/

namespace RevocationCheck

/-- A certificate with the octets that it was decoded from. -/
structure EncodedCertificate where
  octets : Octets
  certificate : X509.Certificate
deriving Repr, DecidableEq

/-- Decode a certificate and keep its octets. -/
def EncodedCertificate.decode (octets : Octets) : Except X509.Fault EncodedCertificate :=
  (X509.Certificate.decode octets).map (⟨octets, ·⟩)

namespace TrustPath

/-- The first item with a property, and the other items. -/
def pick? {α : Type} (p : α → Bool) : List α → Option (α × List α)
  | [] => none
  | a :: rest =>
    if p a then some (a, rest)
    else (pick? p rest).map fun (b, others) => (b, a :: others)

/-- There are fewer items once one is picked. -/
theorem length_lt_of_pick? {α : Type} {p : α → Bool} {items : List α} :
    ∀ {a : α} {rest : List α}, pick? p items = some (a, rest) → rest.length < items.length := by
  induction items with
  | nil =>
    intro a rest h
    cases h
  | cons b items ih =>
    intro a rest h
    simp only [pick?] at h
    split at h
    · cases h
      simp
    · cases e : pick? p items with
      | none =>
        rw [e] at h
        cases h
      | some found =>
        rw [e] at h
        cases h
        have := @ih found.1 found.2 e
        simp only [List.length_cons]
        omega

/-- Does a certificate name another one as its issuer? -/
def names (c issuer : EncodedCertificate) : Bool :=
  c.certificate.issuer.isLike issuer.certificate.subject

/-- Does a certificate name itself as its issuer? -/
def isSelfIssued (c : EncodedCertificate) : Bool := names c c

/-- Could a certificate have been issued by another one? -/
def couldBeFrom (c issuer : EncodedCertificate) : Bool :=
  names c issuer &&
    match Standing.of? c.certificate, Standing.of? issuer.certificate with
    | some standing, some above =>
      above.fits issuer.certificate standing.authority &&
        suits c.certificate.signature.algorithm.algorithm
          issuer.certificate.publicKey.algorithm.algorithm
    | _, _ => false

/-- Could a certificate have been issued by itself? -/
def isSelfSigned (c : EncodedCertificate) : Bool := couldBeFrom c c

/-- How many trusted certificates a path can have. -/
def maxTrusted : Nat := 100

/-- The path from a trusted certificate up to one that issued itself. -/
def climb (roots : List EncodedCertificate) (fuel : Nat) (c : EncodedCertificate) :
    Option (List EncodedCertificate) :=
  if isSelfSigned c then some [c]
  else
    match fuel, roots.find? (couldBeFrom c) with
    | fuel + 1, some issuer => (climb roots fuel issuer).map (c :: ·)
    | _, _ => none

/-- The path from a presented certificate.  One that issued itself has to be a root itself. -/
def build (roots presented : List EncodedCertificate) (c : EncodedCertificate) :
    Option (List EncodedCertificate) :=
  match roots.find? (couldBeFrom c) with
  | some issuer =>
    if isSelfSigned c then if issuer.octets = c.octets then some [c] else none
    else (climb roots maxTrusted issuer).map (c :: ·)
  | none =>
    if isSelfSigned c then none
    else
      match _h : pick? (couldBeFrom c) presented with
      | none => none
      | some (issuer, others) => (build roots others issuer).map (c :: ·)
termination_by presented.length
decreasing_by exact length_lt_of_pick? (by assumption)

/-- May the certificate issue the one below it, with `below` further authorities between it and
the leaf? -/
def mayIssue (c : EncodedCertificate) (below : Nat) (isLast : Bool) : Bool :=
  match Standing.of? c.certificate with
  | none => false
  | some standing =>
    !standing.isBeyond && standing.isForClients && isStrongKey c.certificate.publicKey &&
      (if isLast then standing.mayBeRoot c.certificate.version (isSelfSigned c)
        else standing.isAuthority && isStrongSignature c.certificate.signature) &&
      standing.constraints.all (·.pathLength.all (below ≤ ·))

/-- May all these certificates issue the ones below them?  Authorities that issued themselves do
not make a path longer. -/
def areAuthorities (below : Nat) : List EncodedCertificate → Bool
  | [] => true
  | c :: rest =>
    mayIssue c below rest.isEmpty &&
      areAuthorities (if isSelfIssued c then below else below + 1) rest

/-- May the certificate's key be used to prove who a client is? -/
def mayAuthenticate (c : EncodedCertificate) (isLast : Bool) : Bool :=
  match Standing.of? c.certificate with
  | none => false
  | some standing =>
    !standing.isBeyond && standing.mayAuthenticate && isStrongKey c.certificate.publicKey &&
      (isLast || isStrongSignature c.certificate.signature)

/-- Is each certificate signed by the next one?  Nobody else signed the last one. -/
def areSigned : List EncodedCertificate → Bool
  | c :: issuer :: rest =>
    isSignedBy c.certificate issuer.certificate && areSigned (issuer :: rest)
  | _ => true

/-- Is a path from a leaf to a root valid? -/
def isValid : List EncodedCertificate → Bool
  | [] => false
  | leaf :: authorities =>
    mayAuthenticate leaf authorities.isEmpty && areAuthorities 0 authorities &&
      areSigned (leaf :: authorities)

/-- The valid path from a leaf to a root, if the path that the certificates say is valid. -/
def find? (roots presented : List EncodedCertificate) (leaf : EncodedCertificate) :
    Option (List EncodedCertificate) :=
  (build roots presented leaf).filter isValid

end TrustPath

end RevocationCheck
