import RevocationCheck.Proofs.Locality
import RevocationCheck.Proofs.RevokedEntries

/-!
# The parts of a certificate list

A certificate list is an element with two things in it: the part that the signature covers, and the
signature.  All that is said of revocation is read from the content of the signed part (`Fields`).
`read_eq_ok_iff` takes the reader of lists apart along these lines.
-/

namespace RevocationCheck

namespace X509.CertificateList

open Der (bind_eq_ok_iff)

/-- What the signed part of a list says. -/
structure Fields where
  issuer : Name
  thisUpdate : Timestamp
  nextUpdate : Option Timestamp
  revoked : List RevokedCertificate
  extensions : List Extension
deriving Repr, DecidableEq

/-- Read the content of the signed part. -/
def Fields.decode (content : Octets) : Except Fault Fields := do
  let fields ← skipVersion content
  let (_, fields) ← AlgorithmIdentifier.read fields
  let (issuer, fields) ← orFault .malformed (Name.read fields)
  let (thisUpdate, fields) ← readTime fields
  let (nextUpdate, fields) ← readTime? fields
  let (revoked, fields) := readRevoked fields
  let extensions ← Extension.ofRest 0 fields
  .ok ⟨issuer, thisUpdate, nextUpdate, revoked, extensions⟩

/-- The list with given fields and a given signature over the octets `signed`. -/
def ofParts (signed : Octets) (fields : Fields) (signature : SignatureValue) : CertificateList :=
  ⟨signed, fields.issuer, fields.thisUpdate, fields.nextUpdate, fields.revoked, fields.extensions,
    signature⟩

/-- A list is read if and only if its first element is a sequence that begins with a sequence, the
content of this one decodes, and a signature follows it. -/
theorem read_eq_ok_iff {bs rest : Octets} {list : CertificateList} :
    read bs = .ok (list, rest) ↔
      ∃ outer part behind fields signature behindSignature,
        Der.Element.read bs = .ok (outer, rest) ∧ outer.tag = Der.tagSequence ∧
        Der.Element.read outer.content = .ok (part, behind) ∧ part.tag = Der.tagSequence ∧
        Fields.decode part.content = .ok fields ∧
        SignatureValue.read behind = .ok (signature, behindSignature) ∧
        list = ofParts (outer.content.take (outer.content.length - behind.length)) fields
          signature := by
  simp only [read, Fields.decode, bind_eq_ok_iff, Prod.exists, orFault_eq_ok_iff,
    Der.readTagged_eq_ok_iff, Except.ok.injEq, Prod.mk.injEq]
  constructor
  · rintro ⟨_, _, ⟨outer, houter, htag, rfl⟩, _, behind, ⟨part, hpart, htagPart, rfl⟩, fields,
      hskip, algorithm, behindAlgorithm, halgorithm, issuer, behindIssuer, hissuer, thisUpdate, behindThis,
      hthis, nextUpdate, behindNext, hnext, extensions, hextensions, signature, behindSignature,
      hsignature, rfl, rfl⟩
    exact ⟨outer, part, behind, _, signature, behindSignature, houter, htag, hpart, htagPart,
      ⟨fields, hskip, algorithm, behindAlgorithm, halgorithm, issuer, behindIssuer, hissuer,
        thisUpdate, behindThis, hthis, nextUpdate, behindNext, hnext, extensions, hextensions, rfl⟩,
      hsignature, rfl⟩
  · rintro ⟨outer, part, behind, _, signature, behindSignature, houter, htag, hpart, htagPart,
      ⟨fields, hskip, algorithm, behindAlgorithm, halgorithm, issuer, behindIssuer, hissuer,
        thisUpdate, behindThis, hthis, nextUpdate, behindNext, hnext, extensions, hextensions, rfl⟩,
      hsignature, rfl⟩
    exact ⟨_, rest, ⟨outer, houter, htag, rfl⟩, _, behind, ⟨part, hpart, htagPart, rfl⟩, fields,
      hskip, algorithm, behindAlgorithm, halgorithm, issuer, behindIssuer, hissuer, thisUpdate,
      behindThis, hthis, nextUpdate, behindNext, hnext, extensions, hextensions, signature,
      behindSignature, hsignature, rfl, rfl⟩

/-- The octets that a list is taken from decide about it, whatever stands behind them. -/
theorem isLocal_read : Der.IsLocal read := by
  intro bs list rest h
  obtain ⟨outer, part, behind, fields, signature, behindSignature, houter, hparts⟩ :=
    read_eq_ok_iff.mp h
  obtain ⟨front, rfl, htakes⟩ := Der.isLocal_elementRead _ _ _ houter
  exact ⟨front, rfl, fun t => read_eq_ok_iff.mpr
    ⟨outer, part, behind, fields, signature, behindSignature, htakes t, hparts⟩⟩

/-- A list is decoded from what it is taken from, and so from any octets that begin with it. -/
theorem decode_append {bs : Octets} {list : CertificateList} (h : decode bs = .ok list)
    (t : Octets) : decode (bs ++ t) = .ok list := by
  obtain ⟨rest, hread⟩ := decode_eq_ok_iff.mp h
  obtain ⟨front, rfl, htakes⟩ := isLocal_read _ _ _ hread
  rw [List.append_assoc]
  exact decode_eq_ok_iff.mpr ⟨rest ++ t, htakes _⟩

end X509.CertificateList

end RevocationCheck
