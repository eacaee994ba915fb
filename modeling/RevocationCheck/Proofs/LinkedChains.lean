import Mathlib.Data.List.Nodup
import RevocationCheck.Proofs.SourcePriority

/-!
# Chains in which names lead the same way as positions

In a verified chain the issuer of a certificate is the next one; in a mere list it is searched by
name.  On a chain that is linked by its names (`IsLinked`), and in which no two subjects can be
taken for each other, the two rules agree, and so do the two ways to check.

The search looks at serialNumber attributes first and at texts second.  Both phases are covered by
one statement about a search with a single match (`find?_eq_some_of_only`): names with and without
a serialNumber may stand side by side in a chain.
-/

namespace RevocationCheck.Verification

/-- A chain that is linked by its names.  Each certificate names the next one as its issuer, and
the last one itself.  Subjects have different texts, and different serialNumber attributes where
they have any. -/
structure IsLinked (chain : List X509.Certificate) : Prop where
  next : ∀ (i : Nat) (h : i + 1 < chain.length), chain[i].issuer = chain[i + 1].subject
  last : ∀ certificate ∈ chain.getLast?, certificate.issuer = certificate.subject
  texts : (chain.map fun certificate => certificate.subject.text).Nodup
  serials : ((chain.map fun certificate => certificate.subject.serialNumber).filter
    fun serial => serial ≠ "").Nodup

/-! ### A search with a single match -/

/-- The search by name as two searches, of which the second one counts where the first one finds
nothing. -/
theorem find?_eq_or (wanted : X509.Name) (candidates : List X509.Certificate) :
    Issuer.find? wanted candidates =
      (candidates.find? (Issuer.matchesSerial wanted)).or
        (candidates.find? (Issuer.matchesText wanted)) := by
  rw [Issuer.find?_eq_bind, Issuer.findIndex?_eq_or, List.find?_eq_bind_findIdx?_getElem?,
    List.find?_eq_bind_findIdx?_getElem?]
  cases h : candidates.findIdx? (Issuer.matchesSerial wanted) with
  | none => rfl
  | some i =>
      obtain ⟨hlt, -⟩ := List.findIdx?_eq_some_iff_getElem.mp h
      simp [hlt]

/-- What is found is the only item with the property. -/
theorem find?_eq_some_of_forall_eq {α : Type} {p : α → Bool} {items : List α} {a : α}
    (hmem : a ∈ items) (holds : p a = true) (only : ∀ b ∈ items, p b = true → b = a) :
    items.find? p = some a := by
  cases h : items.find? p with
  | none => exact absurd holds (List.find?_eq_none.mp h a hmem)
  | some b => rw [only b (List.mem_of_find?_eq_some h) (List.find?_some h)]

/-- A certificate with the wanted subject is found if no other one has its text and, where the
wanted name has a serialNumber, no other one has that. -/
theorem find?_eq_some_of_only {wanted : X509.Name} {candidates : List X509.Certificate}
    {certificate : X509.Certificate} (hmem : certificate ∈ candidates)
    (hsubject : certificate.subject = wanted)
    (texts : ∀ other ∈ candidates, other.subject.text = wanted.text → other = certificate)
    (serials : wanted.serialNumber ≠ "" → ∀ other ∈ candidates,
      other.subject.serialNumber = wanted.serialNumber → other = certificate) :
    Issuer.find? wanted candidates = some certificate := by
  rw [find?_eq_or]
  by_cases hserial : wanted.serialNumber = ""
  · -- Nothing matches an empty serialNumber, so the texts decide.
    have hnone : candidates.find? (Issuer.matchesSerial wanted) = none := by
      rw [List.find?_eq_none]
      intro other _ hmatch
      obtain ⟨hne, heq⟩ := Issuer.matchesSerial_iff.mp hmatch
      exact hne (heq.trans hserial)
    have htext : candidates.find? (Issuer.matchesText wanted) = some certificate := by
      refine find?_eq_some_of_forall_eq hmem ?_ ?_
      · exact Issuer.matchesText_iff.mpr ⟨.inr hserial, by rw [hsubject]⟩
      · intro other hother hmatch
        exact texts other hother (Issuer.matchesText_iff.mp hmatch).2
    rw [hnone, htext]
    rfl
  · have hfound : candidates.find? (Issuer.matchesSerial wanted) = some certificate := by
      refine find?_eq_some_of_forall_eq hmem ?_ ?_
      · exact Issuer.matchesSerial_iff.mpr (by rw [hsubject]; exact ⟨hserial, rfl⟩)
      · intro other hother hmatch
        exact serials hserial other hother (Issuer.matchesSerial_iff.mp hmatch).2
    rw [hfound]
    rfl

/-! ### Linked chains -/

namespace IsLinked

variable {chain : List X509.Certificate} {i : Nat}

/-- The issuer by position is a certificate of the chain. -/
theorem issuer_mem (h : i < chain.length) : chain[i + 1]?.getD chain[i] ∈ chain := by
  cases hnext : chain[i + 1]? with
  | none => exact List.getElem_mem h
  | some issuer => exact List.mem_of_getElem? hnext

/-- The issuer by position has the name that is wanted. -/
theorem subject_issuer (linked : IsLinked chain) (h : i < chain.length) :
    (chain[i + 1]?.getD chain[i]).subject = chain[i].issuer := by
  by_cases hnext : i + 1 < chain.length
  · rw [List.getElem?_eq_getElem hnext]
    exact (linked.next i hnext).symm
  · have hlast : chain.getLast? = some chain[i] := by
      rw [List.getLast?_eq_getElem?, show chain.length - 1 = i by omega,
        List.getElem?_eq_getElem h]
    rw [List.getElem?_eq_none (by omega)]
    exact (linked.last chain[i] hlast).symm

theorem eq_of_text_eq (linked : IsLinked chain) {c other : X509.Certificate} (hc : c ∈ chain)
    (hother : other ∈ chain) (h : other.subject.text = c.subject.text) : other = c :=
  List.inj_on_of_nodup_map linked.texts hother hc h

theorem eq_of_serialNumber_eq (linked : IsLinked chain) {c other : X509.Certificate}
    (hc : c ∈ chain) (hother : other ∈ chain) (hserial : c.subject.serialNumber ≠ "")
    (h : other.subject.serialNumber = c.subject.serialNumber) : other = c := by
  have hnodup := linked.serials
  rw [List.filter_map] at hnodup
  refine List.inj_on_of_nodup_map hnodup (List.mem_filter.mpr ⟨hother, ?_⟩)
    (List.mem_filter.mpr ⟨hc, ?_⟩) h
  · simpa [h] using hserial
  · simpa using hserial

/-- The search by name finds the issuer by position. -/
theorem find?_issuer (linked : IsLinked chain) (h : i < chain.length) :
    Issuer.find? chain[i].issuer chain = some (chain[i + 1]?.getD chain[i]) := by
  have hmem : chain[i + 1]?.getD chain[i] ∈ chain := issuer_mem h
  have hsubject : (chain[i + 1]?.getD chain[i]).subject = chain[i].issuer :=
    linked.subject_issuer h
  refine find?_eq_some_of_only hmem hsubject ?_ ?_
  · intro other hother htext
    exact linked.eq_of_text_eq hmem hother (by rw [htext, hsubject])
  · intro hserial other hother heq
    exact linked.eq_of_serialNumber_eq hmem hother (by rwa [hsubject]) (by rw [heq, hsubject])

/-- The targets of a linked chain do not depend on the rule for issuers. -/
theorem rawTargets_eq_chainTargets (linked : IsLinked chain) :
    rawTargets 0 chain = chainTargets chain := by
  rw [← targetsFrom_subjectMatch, ← targetsFrom_verifiedChain]
  refine List.map_congr_left ?_
  rintro ⟨certificate, position⟩ hmem
  rw [List.mem_zipIdx_iff_getElem?] at hmem
  change chain[position]? = some certificate at hmem
  obtain ⟨hlt, rfl⟩ := List.getElem?_eq_some_iff.mp hmem
  rw [issuerAt?_verifiedChain hmem, issuerAt?_subjectMatch hmem, linked.find?_issuer hlt]
  rfl

end IsLinked

/-- On a chain that is linked by its names the two ways to check agree, in their results and in the
URLs that they ask for: as a mere list without a limit, and as one verified chain. -/
theorem verifyRaw_eq_verifyChains (world : World) (policy : Policy)
    {chain : List X509.Certificate} (linked : IsLinked chain) :
    verifyRaw world { policy with depth := 0 } chain = verifyChains world policy [chain] := by
  have htargets : verifiedTargets [chain] = chainTargets chain := List.append_nil _
  rw [verifyRaw_depth_eq_bind, verifyChains_eq_bind, htargets, linked.rawTargets_eq_chainTargets]

/-! ### A sample -/

namespace Sample

/-- A name with a common name of one letter and, if it is given, a serialNumber. -/
def name (letter : UInt8) (serial : Option Octets) : X509.Name :=
  ⟨[⟨Oid.ofArcs [2, 5, 4, 3], ⟨.universal, false, 12, [letter]⟩⟩] ::
    (serial.map fun digits => [⟨Oid.ofArcs [2, 5, 4, 5], ⟨.universal, false, 19, digits⟩⟩]).toList⟩

/-- A chain of three, the middle one of which alone has a serialNumber in its name. -/
def linkedChain : List X509.Certificate :=
  [{ named with subject := name 97 none, issuer := name 98 (some [49]) },
    { certificate [] with subject := name 98 (some [49]), issuer := name 99 none },
    { certificate [] with subject := name 99 none, issuer := name 99 none }]

theorem linkedChain_isLinked : IsLinked linkedChain where
  next i h := by
    match i, h with
    | 0, _ => rfl
    | 1, _ => rfl
  last certificate h := by
    obtain rfl : _ = certificate := Option.some.inj h
    rfl
  texts := by decide +kernel
  serials := by decide +kernel

end Sample

/-- The chain of three is checked alike in both ways. -/
theorem verifyRaw_eq_verifyChains_sample :
    IsLinked Sample.linkedChain ∧
      verifyRaw (Sample.world true) { Sample.policy true with depth := 0 } Sample.linkedChain =
        verifyChains (Sample.world true) (Sample.policy true) [Sample.linkedChain] :=
  ⟨Sample.linkedChain_isLinked,
    verifyRaw_eq_verifyChains (Sample.world true) (Sample.policy true)
      Sample.linkedChain_isLinked⟩

end RevocationCheck.Verification
