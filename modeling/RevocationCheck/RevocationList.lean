import RevocationCheck.Pem
import RevocationCheck.X509.CertificateList

/-!
# Revocation lists

A revocation list as it is used: who issued it, when it is current, and which serial numbers it
revokes.  The octets that it was decoded from stay with it; a later check of its signature decodes
them once more.

A list without a next update has no end of currency and is refused.
-/

namespace RevocationCheck

/-- A revoked serial number. -/
structure RevokedEntry where
  serial : Nat
  date : Timestamp
deriving Repr, DecidableEq

/-- What a list says about a serial number. -/
inductive Revocation
  | revoked
  | notRevoked
deriving Repr, DecidableEq

/-- A revocation list. -/
structure RevocationList where
  /-- The octets that the list was decoded from. -/
  encoded : Octets
  issuer : String
  thisUpdate : Timestamp
  nextUpdate : Timestamp
  revoked : List RevokedEntry
deriving Repr, DecidableEq

namespace RevocationList

/-- Why octets or a text are no revocation list. -/
inductive Fault
  | noPem (fault : Pem.Fault)
  | undecodable (fault : X509.Fault)
  | noNextUpdate
deriving Repr, DecidableEq

/-- The text of a fault. -/
def Fault.message : Fault → String
  | .noPem fault => "no PEM block found: Parsing Error: " ++ fault.name
  | .undecodable fault => fault.message
  | .noNextUpdate => "CRL has no nextUpdate field"

/-- An entry with its serial number read as an unsigned number. -/
def entry (e : X509.RevokedCertificate) : RevokedEntry :=
  ⟨Octets.toNat e.serialOctets, e.date⟩

/-- The list that a decoded certificate list stands for. -/
def ofCertificateList (encoded : Octets) (list : X509.CertificateList) :
    Except Fault RevocationList :=
  match list.nextUpdate with
  | none => .error .noNextUpdate
  | some nextUpdate =>
    .ok ⟨encoded, list.issuer.text, list.thisUpdate, nextUpdate, list.revoked.map entry⟩

/-- Decode a list. -/
def ofDer (der : Octets) : Except Fault RevocationList :=
  match X509.CertificateList.decode der with
  | .error fault => .error (.undecodable fault)
  | .ok list => ofCertificateList der list

/-- A list is accepted if and only if it decodes and has a next update. -/
theorem ofDer_eq_ok_iff {der : Octets} {list : RevocationList} :
    ofDer der = .ok list ↔
      ∃ decoded nextUpdate, X509.CertificateList.decode der = .ok decoded ∧
        decoded.nextUpdate = some nextUpdate ∧
        list = ⟨der, decoded.issuer.text, decoded.thisUpdate, nextUpdate,
          decoded.revoked.map entry⟩ := by
  unfold ofDer
  cases X509.CertificateList.decode der with
  | error fault => simp
  | ok decoded =>
      cases hnext : decoded.nextUpdate with
      | none => simp [ofCertificateList, hnext]
      | some nextUpdate => simp [ofCertificateList, hnext, eq_comm]

/-- Decode the list in the first PEM block of a text, whatever its label. -/
def ofPem (text : Octets) : Except Fault RevocationList :=
  match Pem.first text with
  | .error fault => .error (.noPem fault)
  | .ok block => ofDer block.contents

/-- Decode the octets of the list once more. -/
def reread (list : RevocationList) : Except X509.Fault X509.CertificateList :=
  X509.CertificateList.decode list.encoded

/-- What the list says about a serial number. -/
def lookup (list : RevocationList) (serial : Nat) : Revocation :=
  if list.revoked.any fun e => e.serial = serial then .revoked else .notRevoked

/-- A serial number is revoked if and only if some entry has it. -/
theorem lookup_eq_revoked_iff (list : RevocationList) (serial : Nat) :
    list.lookup serial = .revoked ↔ ∃ entry ∈ list.revoked, entry.serial = serial := by
  unfold lookup
  split
  case isTrue h => simpa using h
  case isFalse h => simpa using h

theorem lookup_eq_notRevoked_iff (list : RevocationList) (serial : Nat) :
    list.lookup serial = .notRevoked ↔ ∀ entry ∈ list.revoked, entry.serial ≠ serial := by
  unfold lookup
  split
  case isTrue h => simpa using h
  case isFalse h => simpa using h

/-- Is the list current, that is, is its next update still to come? -/
def isCurrentAt (list : RevocationList) (now : Timestamp) : Bool := list.nextUpdate.isAfter now

end RevocationList

end RevocationCheck
