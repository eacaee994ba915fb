import RevocationCheck.X509.Certificate

/-!
# Finding the issuer of a certificate

Two rules say who issued a certificate of a chain.  In a chain that has been verified, the next
certificate did, and the last one issued itself.  In a mere list of certificates the issuer is
searched by name: a certificate whose subject has the wanted serialNumber attribute comes first,
then one whose subject has the same text, made with the keys of a registry.  A certificate whose
serialNumber differs from the wanted one is never taken.

A position may be given as a machine word.  Then counting beyond the last word breaks off, which a
verified chain has to do before it is looked into.
-/

namespace RevocationCheck

/-- How the issuer of a certificate is determined. -/
inductive IssuerRule
  /-- By position in a chain that has been verified. -/
  | verifiedChain
  /-- By name among certificates in any order. -/
  | subjectMatch
deriving Repr, DecidableEq

namespace Issuer

/-- Does a candidate carry the wanted, non-empty serialNumber? -/
def matchesSerial (wanted : X509.Name) (candidate : X509.Certificate) : Bool :=
  candidate.subject.serialNumber ≠ "" && candidate.subject.serialNumber = wanted.serialNumber

theorem matchesSerial_iff {wanted : X509.Name} {candidate : X509.Certificate} :
    matchesSerial wanted candidate = true ↔
      candidate.subject.serialNumber ≠ "" ∧
        candidate.subject.serialNumber = wanted.serialNumber := by
  simp [matchesSerial]

/-- Has a candidate the wanted text, by the keys of a registry, without a serialNumber on both sides
to contradict it? -/
def matchesTextBy (registry : X509.Registry) (wanted : X509.Name) (candidate : X509.Certificate) :
    Bool :=
  (candidate.subject.serialNumber = "" || wanted.serialNumber = "") &&
    candidate.subject.textBy registry = wanted.textBy registry

theorem matchesTextBy_iff {registry : X509.Registry} {wanted : X509.Name}
    {candidate : X509.Certificate} :
    matchesTextBy registry wanted candidate = true ↔
      (candidate.subject.serialNumber = "" ∨ wanted.serialNumber = "") ∧
        candidate.subject.textBy registry = wanted.textBy registry := by
  simp [matchesTextBy]

/-- Has a candidate the wanted text by the keys that are known? -/
def matchesText : X509.Name → X509.Certificate → Bool := matchesTextBy .known

theorem matchesText_iff {wanted : X509.Name} {candidate : X509.Certificate} :
    matchesText wanted candidate = true ↔
      (candidate.subject.serialNumber = "" ∨ wanted.serialNumber = "") ∧
        candidate.subject.text = wanted.text :=
  matchesTextBy_iff

/-- The index of the best match for an issuer name. -/
def findIndexBy? (registry : X509.Registry) (wanted : X509.Name)
    (candidates : List X509.Certificate) : Option Nat :=
  match candidates.findIdx? (matchesSerial wanted) with
  | some i => some i
  | none => candidates.findIdx? (matchesTextBy registry wanted)

/-- The best match for an issuer name. -/
def findBy? (registry : X509.Registry) (wanted : X509.Name) (candidates : List X509.Certificate) :
    Option X509.Certificate :=
  (findIndexBy? registry wanted candidates).bind fun i => candidates[i]?

/-- The index of the best match by the keys that are known. -/
def findIndex? (wanted : X509.Name) (candidates : List X509.Certificate) : Option Nat :=
  findIndexBy? .known wanted candidates

/-- The best match by the keys that are known. -/
def find? (wanted : X509.Name) (candidates : List X509.Certificate) : Option X509.Certificate :=
  findBy? .known wanted candidates

theorem findIndex?_eq_or (wanted : X509.Name) (candidates : List X509.Certificate) :
    findIndex? wanted candidates =
      (candidates.findIdx? (matchesSerial wanted)).or
        (candidates.findIdx? (matchesText wanted)) := by
  unfold findIndex? findIndexBy? matchesText
  cases candidates.findIdx? (matchesSerial wanted) <;> rfl

theorem find?_eq_bind (wanted : X509.Name) (candidates : List X509.Certificate) :
    find? wanted candidates = (findIndex? wanted candidates).bind fun i => candidates[i]? := rfl

end Issuer

namespace IssuerRule

/-- The index of the issuer in a verified chain, where `next` is the position behind the
certificate in question. -/
def indexBehind? (chain : List X509.Certificate) (position next : Nat) : Option Nat :=
  if next < chain.length then some next
  else if position < chain.length then some position
  else none

/-- The index of the issuer by its name. -/
def indexByName? (chain : List X509.Certificate) (position : Nat) : Option Nat :=
  chain[position]?.bind fun target => Issuer.findIndex? target.issuer chain

/-- The index of the issuer of the certificate at a position. -/
def index? (rule : IssuerRule) (chain : List X509.Certificate) (position : Nat) : Option Nat :=
  match rule with
  | .verifiedChain => indexBehind? chain position (position + 1)
  | .subjectMatch => indexByName? chain position

/-- The issuer of the certificate at a position of a chain. -/
def issuerAt? (rule : IssuerRule) (chain : List X509.Certificate) (position : Nat) :
    Option X509.Certificate :=
  (rule.index? chain position).bind fun i => chain[i]?

/-- How counting in machine words breaks off. -/
inductive Overflow
  /-- There is no word behind the last one. -/
  | noNextWord
deriving Repr, DecidableEq

/-- The word behind a word. -/
def nextWord (word : UInt64) : Except Overflow UInt64 :=
  if word.toNat + 1 < UInt64.size then .ok (word + 1) else .error .noNextWord

/-- The index of the issuer for a position given as a machine word.  In a verified chain the word
behind it is looked up first, and counting that far can break off; a search by name needs the
position alone. -/
def indexOfWord (rule : IssuerRule) (chain : List X509.Certificate) (position : UInt64) :
    Except Overflow (Option Nat) :=
  match rule with
  | .verifiedChain =>
    (nextWord position).map fun next => indexBehind? chain position.toNat next.toNat
  | .subjectMatch => .ok (indexByName? chain position.toNat)

end IssuerRule

end RevocationCheck
