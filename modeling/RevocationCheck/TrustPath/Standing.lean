import RevocationCheck.X509.Certificate
import RevocationCheck.X509.KeyIdentifier
import RevocationCheck.X509.NameForm

/-!
# Standing

What the extensions of a certificate say of its place in a path: whether its key may sign other
certificates or prove who a client is, and which key has signed it.  A certificate in which one
of these extensions is doubled or does not decode has no standing.
-/

namespace RevocationCheck.TrustPath

open X509

/-- What the extensions of a certificate say of its place in a path. -/
structure Standing where
  constraints : Option BasicConstraints
  usage : Option KeyUsage
  purposes : Option (List Oid)
  /-- The bits of the older extension for the same end. -/
  kinds : Option KeyUsage
  key : Option Octets
  authority : Option AuthorityKey
  /-- Is there an extension that has to be understood and is not? -/
  isBeyond : Bool
deriving Repr, DecidableEq

/-- The identifier of the older extension that says what a certificate is for. -/
def kindsType : Oid := Oid.ofArcs [2, 16, 840, 1, 113730, 1, 1]

/-- The identifier of the extension that makes a certificate one that its owner has issued. -/
def proxyType : Oid := Oid.ofArcs [1, 3, 6, 1, 5, 5, 7, 1, 14]

/-- The identifiers of extensions that are understood if they have to be. -/
def understood : List Oid :=
  [ kindsType
  , Extension.keyUsageType
  , Oid.ofArcs [2, 5, 29, 17]
  , Extension.basicConstraintsType
  , Oid.ofArcs [2, 5, 29, 32]
  , Extension.distributionPointsType
  , purposesType
  , Oid.ofArcs [1, 3, 6, 1, 5, 5, 7, 1, 7]
  , Oid.ofArcs [1, 3, 6, 1, 5, 5, 7, 1, 8]
  , Oid.ofArcs [1, 3, 6, 1, 5, 5, 7, 48, 1, 5]
  , Oid.ofArcs [2, 5, 29, 36]
  , proxyType
  , Oid.ofArcs [2, 5, 29, 30]
  , Oid.ofArcs [2, 5, 29, 33]
  , Oid.ofArcs [2, 5, 29, 54] ]

/-- The identifiers of further extensions that may not be doubled. -/
def single : List Oid :=
  [Oid.ofArcs [2, 5, 29, 17], Oid.ofArcs [2, 5, 29, 30], Extension.distributionPointsType]

/-- What the only extension of a kind says; a doubled one, and one that does not decode, say
something wrong. -/
def extension? {α : Type} (c : Certificate) (type : Oid) (decode? : Octets → Option α) :
    Option (Option α) :=
  match c.extensionsOf type with
  | [] => some none
  | [e] => (decode? e.value).map some
  | _ => none

/-- A key usage in which some bit is set. -/
def someUsage? (value : Octets) : Option KeyUsage :=
  (KeyUsage.decode? value).filter fun usage => (usage.octets.take 2).any (· ≠ 0)

/-- The standing of a certificate. -/
def Standing.of? (c : Certificate) : Option Standing := do
  let constraints ← extension? c Extension.basicConstraintsType BasicConstraints.decode?
  let usage ← extension? c Extension.keyUsageType someUsage?
  let purposes ← extension? c purposesType purposes?
  let kinds ← extension? c kindsType KeyUsage.decode?
  let key ← extension? c subjectKeyType subjectKey?
  let authority ← extension? c AuthorityKey.extensionType AuthorityKey.decode?
  if single.any fun type => 1 < (c.extensionsOf type).length then none
  else
    let isBeyond (e : Extension) : Bool :=
      e.type = proxyType || (e.critical && !understood.contains e.type)
    some ⟨constraints, usage, purposes, kinds, key, authority, c.extensions.any isBeyond⟩

namespace Standing

/-- Is proving who a client is among the purposes, if there are any? -/
def isForClients (s : Standing) : Bool := s.purposes.all (·.contains clientPurpose)

/-- May the certificate's key be used to prove who a client is? -/
def mayAuthenticate (s : Standing) : Bool :=
  s.isForClients && s.usage.all (fun u => u.bit 0 || u.bit 4) && s.kinds.all (·.bit 0)

/-- Is the certificate clearly one of an authority? -/
def isAuthority (s : Standing) : Bool :=
  s.constraints.any BasicConstraints.ca && s.usage.all KeyUsage.certSign

/-- May the certificate stand at the end of a path?  One without constraints may if its key usage
says so, if the older extension says so, or if it is of the first version. -/
def mayBeRoot (s : Standing) (version : Nat) (isSelfSigned : Bool) : Bool :=
  s.usage.all KeyUsage.certSign &&
    match s.constraints with
    | some constraints => constraints.ca
    | none => (version = 0 && isSelfSigned) || s.usage.isSome || s.kinds.any (·.bit 5)

/-- Does what a certificate says of its issuer's key fit a certificate with this standing? -/
def fits (s : Standing) (issuer : Certificate) (authority : Option AuthorityKey) : Bool :=
  match authority with
  | none => true
  | some a =>
    (match a.identifier, s.key with
      | some wanted, some key => wanted = key
      | _, _ => true) &&
      a.serial.all (· = issuer.serialOctets) && a.directory?.all issuer.issuer.isLike

end Standing

end RevocationCheck.TrustPath
