import RevocationCheck.Proofs.DecodedChains
import RevocationCheck.Proofs.IssuerRank

/-!
# Positions as machine words

The issuer of a certificate is asked for by a position, which is a machine word of 64 bits.  For
every word but the last one this is the position as a number: the issuer in a verified chain is the
next certificate, the last certificate is its own issuer, and behind the chain there is none
(`issuer_of_position`).

There is no word behind the last one, so that counting breaks off there, although the position is
behind every chain (`issuerAtWord_lastWord`).  A search by name does not count and answers for every
word.  A check never comes to the last word: its positions lie inside of the chain
(`issuerAt?_eq_issuerAtWord`).
-/

namespace RevocationCheck.IssuerRule

open X509 (Certificate)

/-- The issuer of the certificate at a position that is given as a machine word. -/
def issuerAtWord (rule : IssuerRule) (chain : List Certificate) (position : UInt64) :
    Except Overflow (Option Certificate) :=
  (rule.indexOfWord chain position).map fun index => index.bind fun i => chain[i]?

/-- The last machine word. -/
def lastWord : UInt64 := 0xFFFFFFFFFFFFFFFF

variable {chain : List Certificate} {position : UInt64}

/-! ### The word behind a word -/

theorem toNat_lastWord : lastWord.toNat = UInt64.size - 1 := by decide

theorem lt_size_iff_ne_lastWord : position.toNat + 1 < UInt64.size ↔ position ≠ lastWord := by
  have hlt : position.toNat < UInt64.size := position.toNat_lt_size
  rw [← UInt64.toNat_inj.ne, toNat_lastWord]
  omega

theorem exists_nextWord (h : position ≠ lastWord) :
    ∃ next, nextWord position = .ok next ∧ next.toNat = position.toNat + 1 := by
  have hlt := lt_size_iff_ne_lastWord.mpr h
  refine ⟨position + 1, if_pos hlt, ?_⟩
  rw [UInt64.toNat_add, UInt64.toNat_one]
  exact Nat.mod_eq_of_lt hlt

theorem nextWord_lastWord : nextWord lastWord = .error .noNextWord :=
  if_neg fun hlt => lt_size_iff_ne_lastWord.mp hlt rfl

/-! ### Words and numbers -/

/-- The position as a number is all that a search by name has use for. -/
theorem issuerAtWord_subjectMatch (chain : List Certificate) (position : UInt64) :
    subjectMatch.issuerAtWord chain position =
      .ok (subjectMatch.issuerAt? chain position.toNat) := rfl

/-- For every word but the last one the issuer is that for the position as a number. -/
theorem issuerAtWord_of_ne (rule : IssuerRule) (h : position ≠ lastWord) :
    rule.issuerAtWord chain position = .ok (rule.issuerAt? chain position.toNat) := by
  cases rule with
  | verifiedChain =>
      obtain ⟨next, hnext, hword⟩ := exists_nextWord h
      rw [issuerAtWord, indexOfWord, hnext, issuerAt?, index?, ← hword]
      rfl
  | subjectMatch => exact issuerAtWord_subjectMatch chain position

/-- The last word does not even come to the chain. -/
theorem issuerAtWord_lastWord (chain : List Certificate) :
    verifiedChain.issuerAtWord chain lastWord = .error .noNextWord := by
  rw [issuerAtWord, indexOfWord, nextWord_lastWord]
  rfl

/-- In a verified chain the next certificate is tried first, and then the one in question. -/
theorem issuerAt?_verifiedChain_eq_or (chain : List Certificate) (i : Nat) :
    verifiedChain.issuerAt? chain i = chain[i + 1]?.or chain[i]? := by
  rw [issuerAt?, index?, indexBehind?]
  split
  case isTrue hnext => simp [hnext]
  case isFalse hnext =>
    rw [List.getElem?_eq_none (Nat.le_of_not_lt hnext), Option.none_or]
    split
    case isTrue => rfl
    case isFalse houtside => simp [houtside]

theorem issuerAt?_subjectMatch_eq_bind (chain : List Certificate) (i : Nat) :
    subjectMatch.issuerAt? chain i =
      chain[i]?.bind fun target => Issuer.find? target.issuer chain := by
  rw [issuerAt?, index?, indexByName?]
  cases chain[i]? <;> rfl

/-- A position inside of a chain that has fewer certificates than there are words can be given as a
word. -/
theorem issuerAt?_eq_issuerAtWord (rule : IssuerRule) {i : Nat} (hi : i < chain.length)
    (hlength : chain.length < UInt64.size) :
    rule.issuerAtWord chain (UInt64.ofNat i) = .ok (rule.issuerAt? chain i) := by
  have hword : (UInt64.ofNat i).toNat = i := UInt64.toNat_ofNat_of_lt' (Nat.lt_trans hi hlength)
  have hinner : UInt64.ofNat i ≠ lastWord := by
    rw [← lt_size_iff_ne_lastWord, hword]
    omega
  rw [issuerAtWord_of_ne rule hinner, hword]

/-- Counting breaks off at the last word, and in a verified chain only. -/
theorem issuerAtWord_eq_error_iff {rule : IssuerRule} {overflow : Overflow} :
    rule.issuerAtWord chain position = .error overflow ↔
      rule = verifiedChain ∧ position = lastWord := by
  constructor
  · intro h
    cases rule with
    | verifiedChain =>
        refine ⟨rfl, not_not.mp fun hne => ?_⟩
        rw [issuerAtWord_of_ne _ hne] at h
        cases h
    | subjectMatch => cases h
  · rintro ⟨rfl, rfl⟩
    exact issuerAtWord_lastWord chain

/-! ### The issuer of a position -/

/-- **The issuer of a position**, for every chain and every machine word.  In a verified chain it is
the next certificate, the last certificate is its own issuer, and behind the chain there is none,
for every word but the last one.  At the last word, and nowhere else, counting breaks off instead of
giving an answer.  By name, there is always an answer, and it is an issuer for positions inside of
the chain only: a certificate of the chain, the best match for the issuer name. -/
theorem issuer_of_position (chain : List Certificate) (position : UInt64) :
    (position ≠ lastWord →
      (∀ h : position.toNat + 1 < chain.length,
        verifiedChain.issuerAtWord chain position = .ok (some chain[position.toNat + 1])) ∧
      (∀ h : position.toNat + 1 = chain.length,
        verifiedChain.issuerAtWord chain position = .ok (some chain[position.toNat])) ∧
      (chain.length ≤ position.toNat →
        verifiedChain.issuerAtWord chain position = .ok none)) ∧
    (∀ rule overflow, rule.issuerAtWord chain position = .error overflow ↔
      rule = verifiedChain ∧ position = lastWord) ∧
    (chain.length ≤ position.toNat →
      subjectMatch.issuerAtWord chain position = .ok none) ∧
    ∀ issuer, subjectMatch.issuerAtWord chain position = .ok (some issuer) →
      issuer ∈ chain ∧ ∃ h : position.toNat < chain.length,
        Issuer.IsBestMatch chain[position.toNat].issuer chain issuer := by
  refine ⟨fun hinner => ?_, fun rule overflow => issuerAtWord_eq_error_iff,
    fun houtside => ?_, fun issuer hissuer => ?_⟩
  · rw [issuerAtWord_of_ne _ hinner, issuerAt?_verifiedChain_eq_or]
    refine ⟨fun hnext => ?_, fun hlast => ?_, fun houtside => ?_⟩
    · simp [hnext]
    · have hnone : chain[position.toNat + 1]? = none := List.getElem?_eq_none (by omega)
      rw [hnone, Option.none_or, List.getElem?_eq_getElem]
    · have hnext : chain[position.toNat + 1]? = none := List.getElem?_eq_none (by omega)
      rw [hnext, Option.none_or, List.getElem?_eq_none houtside]
  · rw [issuerAtWord_subjectMatch, issuerAt?_subjectMatch_eq_bind,
      List.getElem?_eq_none houtside]
    rfl
  · rw [issuerAtWord_subjectMatch, issuerAt?_subjectMatch_eq_bind] at hissuer
    obtain ⟨target, htarget, hfound⟩ := Option.bind_eq_some_iff.mp (Except.ok.inj hissuer)
    obtain ⟨hinside, rfl⟩ := List.getElem?_eq_some_iff.mp htarget
    have hbest := Issuer.isBestMatch_of_find? hfound
    exact ⟨hbest.1, hinside, hbest⟩

/-- In a chain of two certificates the second one is the issuer of both, and far behind the chain
there is none. -/
theorem issuer_of_position_sample :
    ∃ first second : Certificate, first ≠ second ∧
      verifiedChain.issuerAtWord [first, second] 0 = .ok (some second) ∧
      verifiedChain.issuerAtWord [first, second] 1 = .ok (some second) ∧
      verifiedChain.issuerAtWord [first, second] (lastWord - 1) = .ok none ∧
      subjectMatch.issuerAtWord [first, second] lastWord = .ok none := by
  obtain ⟨first, -, hserial, -⟩ := X509.decode_plainCertificate
  obtain ⟨second, hother⟩ : ∃ second : Certificate, second.serialOctets = [7] :=
    ⟨{ first with serialOctets := [7] }, rfl⟩
  have hne : first ≠ second := by
    rintro rfl
    simp [hserial] at hother
  have hinner := (issuer_of_position [first, second] 0).1 (by decide)
  have hlast := (issuer_of_position [first, second] 1).1 (by decide)
  have hbehind := (issuer_of_position [first, second] (lastWord - 1)).1 (by decide)
  have hname := (issuer_of_position [first, second] lastWord).2.2.1
  exact ⟨first, second, hne, hinner.1 (show 0 + 1 < 2 by decide), hlast.2.1 rfl,
    hbehind.2.2 (show 2 ≤ (lastWord - 1).toNat by decide),
    hname (show 2 ≤ lastWord.toNat by decide)⟩

/-- The last word is far behind a chain of one certificate, and yet there is no answer that there is
no issuer: counting breaks off.  The search by name has this answer. -/
theorem no_answer_behind_the_chain :
    ∃ certificate, Certificate.decode X509.plainCertificate = .ok certificate ∧
      [certificate].length ≤ lastWord.toNat ∧
      verifiedChain.issuerAtWord [certificate] lastWord = .error .noNextWord ∧
      subjectMatch.issuerAtWord [certificate] lastWord = .ok none := by
  obtain ⟨certificate, hdecode, -⟩ := X509.decode_plainCertificate
  have houtside : [certificate].length ≤ lastWord.toNat := show 1 ≤ lastWord.toNat by decide
  refine ⟨certificate, hdecode, houtside, issuerAtWord_lastWord [certificate], ?_⟩
  rw [issuerAtWord_subjectMatch, issuerAt?_subjectMatch_eq_bind,
    List.getElem?_eq_none houtside]
  rfl

end RevocationCheck.IssuerRule
