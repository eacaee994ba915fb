import RevocationCheck.Handshake
import RevocationCheck.Proofs.DecodedChains
import RevocationCheck.Proofs.SourcePriority

/-!
# What a handshake comes to

A handshake asks the check about the certificates of a path, from the root down to the leaf, and
ends at the first refusal.  Who asks is not described here beyond that: a question may carry any
verdict on the certificate, at any depth, with any chain.  Of the questions of one handshake it is
assumed that they go down, that they come to the leaf unless something is wrong on the way, and that
the chain is complete there (`Questions`).

* `answer_of_passed_on`: a question that the check has no say in gets its own verdict back;
* `answer_at_leaf`: at the leaf the chain decides (`Decided`);
* `answerAll_of_sound`, `answerAll_of_unsound`: so it does for a whole handshake, provided that no
  verdict is bad; with a bad verdict nothing is fetched.  Both go by induction along the questions,
  where the depths see to it that the leaf comes last.
-/

namespace RevocationCheck.Handshake

/-- A chain reads as certificates: it is at hand, each certificate of it could be encoded, and what
they are encoded as decodes, the root included. -/
def ReadsAs (chain : Option (List (Except String Octets)))
    (certificates : List X509.Certificate) : Prop :=
  ∃ ders : List Octets, chain = some (ders.map .ok) ∧
    List.Forall₂ (fun der certificate => X509.Certificate.decode der = .ok certificate)
      ders certificates

/-- A reply is decided by a chain.  It is affirmative if and only if the chain reads as certificates
which are accepted as one verified chain, and it has asked for the URLs of that verification and for
no others. -/
structure Decided (world : World) (policy : Policy) (chain : Option (List (Except String Octets)))
    (reply : Reply) : Prop where
  accepted : reply.accepted = true ↔ ∃ certificates, ReadsAs chain certificates ∧
    (Verification.verifyChains world policy [certificates]).result = .ok ()
  fetched : ∀ certificates, ReadsAs chain certificates →
    reply.fetched = (Verification.verifyChains world policy [certificates]).fetched
  silent : (¬ ∃ certificates, ReadsAs chain certificates) → reply.fetched = []

/-- The questions of one handshake.  They go from the root down to the leaf, perhaps with several of
them at one depth; the question about the leaf is the last one, and the chain is complete there.
The leaf is reached if no certificate has been found wrong. -/
structure Questions (chain : Option (List (Except String Octets))) (queries : List Query) :
    Prop where
  descends : queries.Pairwise fun earlier later =>
    earlier.depth ≠ 0 ∧ later.depth ≤ earlier.depth
  complete : ∀ query ∈ queries, query.depth = 0 → query.chain = chain
  reaches : (∀ query ∈ queries, query.verdict = true) → ∃ query ∈ queries, query.depth = 0

/-! ### Chains -/

theorem mapM_id_eq_ok_iff {encodings : List (Except String Octets)} {ders : List Octets} :
    encodings.mapM id = .ok ders ↔ encodings = ders.map .ok := by
  rw [X509.mapM_eq_ok_iff, ← List.forall₂_eq_eq_eq, List.forall₂_map_right_iff]
  rfl

theorem readChain_eq_ok_iff {chain : Option (List (Except String Octets))}
    {certificates : List X509.Certificate} :
    readChain chain = .ok certificates ↔ ReadsAs chain certificates := by
  cases chain with
  | none => simp [readChain, ReadsAs]
  | some encodings =>
      unfold readChain ReadsAs
      dsimp only
      constructor
      · intro h
        cases hders : encodings.mapM id with
        | error reason =>
            rw [hders] at h
            cases h
        | ok ders =>
            rw [hders] at h
            dsimp only at h
            cases hdecode : X509.decodeChain ders with
            | error fault =>
                rw [hdecode] at h
                cases h
            | ok decoded =>
                rw [hdecode] at h
                cases h
                exact ⟨ders, by rw [mapM_id_eq_ok_iff.mp hders],
                  X509.decodeChain_eq_ok_iff.mp hdecode⟩
      · rintro ⟨ders, hders, hdecode⟩
        rw [mapM_id_eq_ok_iff.mpr (Option.some.inj hders)]
        dsimp only
        rw [X509.decodeChain_eq_ok_iff.mpr hdecode]

section Answers

variable {world : World} {policy : Policy} {chain : Option (List (Except String Octets))}

theorem checkChain_of_readsAs (world : World) (policy : Policy)
    {certificates : List X509.Certificate} (h : ReadsAs chain certificates) :
    (checkChain world policy chain).1 =
        (Verification.verifyChains world policy [certificates]).fetched ∧
      ((checkChain world policy chain).2.isOk = true ↔
        (Verification.verifyChains world policy [certificates]).result = .ok ()) := by
  unfold checkChain
  rw [readChain_eq_ok_iff.mpr h]
  refine ⟨rfl, ?_⟩
  dsimp only
  cases (Verification.verifyChains world policy [certificates]).result with
  | error failure => simp [Except.isOk, Except.toBool]
  | ok _ => simp [Except.isOk, Except.toBool]

theorem checkChain_of_unreadable (world : World) (policy : Policy)
    (h : ¬ ∃ certificates, ReadsAs chain certificates) :
    (checkChain world policy chain).1 = [] ∧
      (checkChain world policy chain).2.isOk = false := by
  unfold checkChain
  cases hread : readChain chain with
  | error fault => exact ⟨rfl, rfl⟩
  | ok certificates => exact absurd ⟨certificates, readChain_eq_ok_iff.mp hread⟩ h

/-- A chain reads in one way only. -/
theorem ReadsAs.unique {certificates others : List X509.Certificate}
    (h : ReadsAs chain certificates) (hothers : ReadsAs chain others) :
    certificates = others := by
  rw [← readChain_eq_ok_iff] at h hothers
  exact Except.ok.inj (h.symm.trans hothers)

/-- The check of a chain is decided by it. -/
theorem decided_checkChain (world : World) (policy : Policy)
    (chain : Option (List (Except String Octets))) :
    Decided world policy chain
      ⟨(checkChain world policy chain).2.isOk, (checkChain world policy chain).1⟩ := by
  by_cases hreads : ∃ certificates, ReadsAs chain certificates
  · obtain ⟨certificates, h⟩ := hreads
    obtain ⟨hfetched, hok⟩ := checkChain_of_readsAs world policy h
    refine ⟨?_, ?_, fun hunreadable => absurd ⟨certificates, h⟩ hunreadable⟩
    · rw [hok]
      constructor
      · exact fun haccepted => ⟨certificates, h, haccepted⟩
      · rintro ⟨others, hothers, haccepted⟩
        rwa [h.unique hothers]
    · intro others hothers
      rw [← h.unique hothers]
      exact hfetched
  · obtain ⟨hfetched, hrefused⟩ := checkChain_of_unreadable world policy hreads
    refine ⟨?_, fun certificates h => absurd ⟨certificates, h⟩ hreads, fun _ => hfetched⟩
    rw [hrefused]
    constructor
    · intro h
      cases h
    · rintro ⟨certificates, h, -⟩
      exact absurd ⟨certificates, h⟩ hreads

/-! ### Single questions -/

/-- Away from the leaf, and where something is wrong already, the verdict is passed on. -/
theorem answer_of_passed_on {query : Query} (h : query.verdict = false ∨ query.depth ≠ 0) :
    answer world policy query = ⟨query.verdict, []⟩ := by
  unfold answer
  rw [if_neg]
  rcases h with h | h <;> simp [h]

theorem answer_at_leaf {query : Query} (hverdict : query.verdict = true)
    (hdepth : query.depth = 0) : Decided world policy query.chain (answer world policy query) := by
  unfold answer
  rw [if_pos (by simp [hverdict, hdepth])]
  exact decided_checkChain world policy query.chain

/-- A bad verdict is never overruled. -/
theorem verdict_of_accepted {query : Query} (h : (answer world policy query).accepted = true) :
    query.verdict = true := by
  cases hverdict : query.verdict with
  | true => rfl
  | false =>
      rw [answer_of_passed_on (.inl hverdict), hverdict] at h
      cases h

/-! ### Whole handshakes -/

theorem answerAll_singleton (query : Query) :
    answerAll world policy [query] = answer world policy query := by
  rw [answerAll]
  cases h : answer world policy query with
  | mk accepted fetched => cases accepted <;> simp [answerAll]

/-- A good verdict above the leaf leads on to the next question. -/
theorem answerAll_of_above {query : Query} {rest : List Query} (hverdict : query.verdict = true)
    (hdepth : query.depth ≠ 0) :
    answerAll world policy (query :: rest) = answerAll world policy rest := by
  simp [answerAll, answer_of_passed_on (.inr hdepth), hverdict]

/-- A bad verdict ends the handshake. -/
theorem answerAll_of_bad {query : Query} {rest : List Query} (hverdict : query.verdict = false) :
    answerAll world policy (query :: rest) = ⟨false, []⟩ := by
  simp [answerAll, answer_of_passed_on (.inl hverdict), hverdict]

/-- Nothing is asked behind the leaf. -/
theorem eq_nil_of_depth_eq_zero {query : Query} {rest : List Query}
    (descends : (query :: rest).Pairwise fun earlier later =>
      earlier.depth ≠ 0 ∧ later.depth ≤ earlier.depth)
    (hdepth : query.depth = 0) : rest = [] := by
  refine List.eq_nil_iff_forall_not_mem.mpr fun later hlater => ?_
  exact ((List.pairwise_cons.mp descends).1 later hlater).1 hdepth

/-- Without a bad verdict the question about the leaf decides. -/
theorem answerAll_of_sound (world : World) (policy : Policy) {queries : List Query}
    (descends : queries.Pairwise fun earlier later =>
      earlier.depth ≠ 0 ∧ later.depth ≤ earlier.depth)
    (sound : ∀ query ∈ queries, query.verdict = true)
    (reached : ∃ query ∈ queries, query.depth = 0) :
    ∃ leaf ∈ queries, leaf.depth = 0 ∧
      answerAll world policy queries = answer world policy leaf := by
  induction queries with
  | nil =>
      obtain ⟨_, hmem, _⟩ := reached
      cases hmem
  | cons query rest ih =>
      obtain ⟨hverdict, hrest⟩ := List.forall_mem_cons.mp sound
      by_cases hdepth : query.depth = 0
      · obtain rfl := eq_nil_of_depth_eq_zero descends hdepth
        exact ⟨query, List.mem_singleton_self query, hdepth, answerAll_singleton query⟩
      · obtain ⟨found, hfound, hzero⟩ := reached
        have hbelow : found ∈ rest := by
          rcases List.mem_cons.mp hfound with rfl | hmem
          · exact absurd hzero hdepth
          · exact hmem
        obtain ⟨leaf, hleaf, hleafDepth, heq⟩ :=
          ih (List.pairwise_cons.mp descends).2 hrest ⟨found, hbelow, hzero⟩
        refine ⟨leaf, List.mem_cons_of_mem _ hleaf, hleafDepth, ?_⟩
        rw [answerAll_of_above hverdict hdepth, heq]

/-- With a bad verdict the handshake ends before anything is fetched. -/
theorem answerAll_of_unsound {queries : List Query}
    (descends : queries.Pairwise fun earlier later =>
      earlier.depth ≠ 0 ∧ later.depth ≤ earlier.depth)
    (unsound : ∃ query ∈ queries, query.verdict = false) :
    answerAll world policy queries = ⟨false, []⟩ := by
  induction queries with
  | nil =>
      obtain ⟨_, hmem, _⟩ := unsound
      cases hmem
  | cons query rest ih =>
      cases hverdict : query.verdict with
      | false => exact answerAll_of_bad hverdict
      | true =>
          obtain ⟨bad, hbad, hfalse⟩ := unsound
          have hbelow : bad ∈ rest := by
            rcases List.mem_cons.mp hbad with rfl | hmem
            · rw [hverdict] at hfalse
              cases hfalse
            · exact hmem
          -- Something comes behind this question, so it is not the one about the leaf.
          have hdepth : query.depth ≠ 0 := by
            intro hzero
            rw [eq_nil_of_depth_eq_zero descends hzero] at hbelow
            cases hbelow
          rw [answerAll_of_above hverdict hdepth]
          exact ih (List.pairwise_cons.mp descends).2 ⟨bad, hbelow, hfalse⟩

theorem decided_answerAll {queries : List Query} (h : Questions chain queries)
    (sound : ∀ query ∈ queries, query.verdict = true) :
    Decided world policy chain (answerAll world policy queries) := by
  obtain ⟨leaf, hleaf, hdepth, heq⟩ :=
    answerAll_of_sound world policy h.descends sound (h.reaches sound)
  rw [heq, ← h.complete leaf hleaf hdepth]
  exact answer_at_leaf (sound leaf hleaf) hdepth

end Answers

/-! ### Handshakes with a client -/

/-- The valid path of a client's certificates to a root, its own one first. -/
def path? (roots presented : List EncodedCertificate) : Option (List EncodedCertificate) :=
  match presented with
  | [] => none
  | leaf :: others => TrustPath.find? roots others leaf

/-- The encodings of a path. -/
def encodingsOf (path : List EncodedCertificate) : Option (List (Except String Octets)) :=
  some (path.map fun certificate => .ok certificate.octets)

theorem questions_queriesOf {path : List EncodedCertificate} (h : path ≠ []) :
    Questions (encodingsOf path) (queriesOf path) where
  descends := by
    rw [queriesOf, List.pairwise_map, List.pairwise_reverse]
    refine List.pairwise_lt_range.imp fun hlt => ?_
    exact ⟨Nat.ne_zero_of_lt hlt, Nat.le_of_lt hlt⟩
  complete query hmem _ := by
    obtain ⟨depth, -, rfl⟩ := List.mem_map.mp hmem
    rfl
  reaches _ := by
    refine ⟨⟨true, 0, encodingsOf path⟩, List.mem_map.mpr ⟨0, ?_, rfl⟩, rfl⟩
    simpa [List.length_pos_iff] using h

theorem ne_nil_of_path? {roots presented path : List EncodedCertificate}
    (h : path? roots presented = some path) : path ≠ [] := by
  rintro rfl
  unfold path? at h
  split at h
  · cases h
  · obtain ⟨-, hvalid⟩ := Option.filter_eq_some_iff.mp h
    cases hvalid

section Run

variable {world : World} {policy : Policy} {roots presented path : List EncodedCertificate}

theorem run_of_untrusted (h : path? roots presented = none) :
    run world policy roots presented = (.untrusted, []) := by
  cases presented with
  | nil => rfl
  | cons leaf others =>
      change TrustPath.find? roots others leaf = none at h
      rw [run, h]

theorem run_of_path (h : path? roots presented = some path) :
    run world policy roots presented =
      (if (answerAll world policy (queriesOf path)).accepted then .accepted else .rejected,
        (answerAll world policy (queriesOf path)).fetched) := by
  cases presented with
  | nil => cases h
  | cons leaf others =>
      change TrustPath.find? roots others leaf = some path at h
      rw [run, h]

end Run

/-- The check has its say in a handshake at one point, and there it decides.

A single answer is never affirmative against the verdict; it passes the verdict on, without fetching
anything, except at the leaf, where the chain decides.  So the questions of a handshake are all
answered in the affirmative if and only if no certificate was found wrong and the chain, with all of
its certificates, passes as one verified chain; nothing is fetched where a certificate was found
wrong, and otherwise what that one verification fetches.  In particular this holds of a client's
handshake, about whose valid path to a root the questions are. -/
theorem handshake_follows_chain (world : World) (policy : Policy) :
    (∀ query,
      ((answer world policy query).accepted = true → query.verdict = true) ∧
      (query.verdict = false ∨ query.depth ≠ 0 →
        answer world policy query = ⟨query.verdict, []⟩) ∧
      (query.verdict = true → query.depth = 0 →
        Decided world policy query.chain (answer world policy query))) ∧
    (∀ chain queries, Questions chain queries →
      ((answerAll world policy queries).accepted = true ↔
        (∀ query ∈ queries, query.verdict = true) ∧ ∃ certificates, ReadsAs chain certificates ∧
          (Verification.verifyChains world policy [certificates]).result = .ok ()) ∧
      ((∃ query ∈ queries, query.verdict = false) →
        answerAll world policy queries = ⟨false, []⟩) ∧
      ((∀ query ∈ queries, query.verdict = true) →
        Decided world policy chain (answerAll world policy queries))) ∧
    ∀ roots presented,
      (path? roots presented = none → run world policy roots presented = (.untrusted, [])) ∧
      ∀ path, path? roots presented = some path →
        ∃ reply, Decided world policy (encodingsOf path) reply ∧
          run world policy roots presented =
            (if reply.accepted then .accepted else .rejected, reply.fetched) := by
  refine ⟨fun query => ⟨verdict_of_accepted, answer_of_passed_on, answer_at_leaf⟩,
    fun chain queries h => ⟨?_, answerAll_of_unsound h.descends, decided_answerAll h⟩,
    fun roots presented => ⟨run_of_untrusted, fun path hpath => ?_⟩⟩
  · constructor
    · intro haccepted
      by_cases hsound : ∀ query ∈ queries, query.verdict = true
      · exact ⟨hsound, (decided_answerAll h hsound).accepted.mp haccepted⟩
      · have hunsound : ∃ query ∈ queries, query.verdict = false := by simpa using hsound
        rw [answerAll_of_unsound h.descends hunsound] at haccepted
        cases haccepted
    · rintro ⟨hsound, hpasses⟩
      exact (decided_answerAll h hsound).accepted.mpr hpasses
  · refine ⟨answerAll world policy (queriesOf path), ?_, run_of_path hpath⟩
    refine decided_answerAll (questions_queriesOf (ne_nil_of_path? hpath)) fun query hmem => ?_
    obtain ⟨depth, -, rfl⟩ := List.mem_map.mp hmem
    rfl

/-! ### A sample -/

/-- A chain of one certificate, which is at hand at the leaf. -/
def plainChain : Option (List (Except String Octets)) := some [.ok X509.plainCertificate]

/-- A question about the root, where no chain is at hand yet, and one about the leaf. -/
def plainQueries : List Query := [⟨true, 1, none⟩, ⟨true, 0, plainChain⟩]

theorem questions_plainQueries : Questions plainChain plainQueries where
  descends := by simp [plainQueries]
  complete query hmem hdepth := by
    rcases List.mem_pair.mp hmem with rfl | rfl
    · cases hdepth
    · rfl
  reaches _ := ⟨⟨true, 0, plainChain⟩, by simp [plainQueries], rfl⟩

/-- The certificate with the serial number 6 is accepted against the list that revokes 5. -/
theorem handshake_follows_chain_sample :
    Questions plainChain plainQueries ∧
      (answerAll (Verification.Sample.world true) Verification.Sample.offlinePolicy
        plainQueries).accepted = true := by
  obtain ⟨certificate, hdecode, hserial, hextensions⟩ := X509.decode_plainCertificate
  have hreads : ReadsAs plainChain [certificate] :=
    ⟨[X509.plainCertificate], rfl, .cons hdecode .nil⟩
  have haccepted : (Verification.verifyChains (Verification.Sample.world true)
      Verification.Sample.offlinePolicy [[certificate]]).result = .ok () := by
    refine Verification.verifyChains_eq_ok_iff.mpr
      ⟨_, Verification.Sample.loadOfflineList_offlinePolicy rfl, ?_⟩
    intro target hmem
    obtain rfl : target = ⟨certificate, certificate⟩ := List.mem_singleton.mp hmem
    exact Verification.Sample.passes_offlineList hserial hextensions
  exact ⟨questions_plainQueries, ((handshake_follows_chain _ _).2.1 _ _
    questions_plainQueries).1.mpr ⟨by simp [plainQueries], [certificate], hreads, haccepted⟩⟩

end RevocationCheck.Handshake
