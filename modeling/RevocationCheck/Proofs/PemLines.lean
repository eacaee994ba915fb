import RevocationCheck.Pem
import Mathlib.Data.List.Infix
import Mathlib.Data.List.TakeWhile

/-!
# Blocks line by line

What the reader of PEM blocks does with one line, and from this with a run of lines.  The lines are
given by their characters; a line that is no UTF-8 comes up in one place only.

A line outside of a block is passed over unless it has the begin mark, a line inside of a block adds
its characters to the body unless it has the end mark, and a line feed at the very end of a text
makes no difference (`blocks_append_feed`).
-/

namespace RevocationCheck.Pem

open Text (Utf8.encodeChars Utf8.decodeChars trimEnd)

/-- What a begin line begins with. -/
def beginMark : List Char := "-----BEGIN ".toList

/-- What an end line begins with. -/
def endMark : List Char := "-----END ".toList

/-- What stands behind the label of a begin line. -/
def dashes : List Char := "-----".toList

/-- Lines as octets, each with its line feed. -/
def unlines (ls : List (List Char)) : Octets := ls.flatMap fun l => Utf8.encodeChars l ++ [10]

/-! ### Lines of a text -/

theorem lines_append_feed {l : Octets} (h : 10 ∉ l) (rest : Octets) :
    lines (l ++ 10 :: rest) = l :: lines rest := by
  induction l with
  | nil => simp [lines]
  | cons b l ih =>
      have hb : b ≠ 10 := fun heq => h (by simp [heq])
      rw [List.cons_append, lines, if_neg hb, ih fun hmem => h (by simp [hmem])]

theorem lines_of_unbroken {l : Octets} (h : 10 ∉ l) (hne : l ≠ []) : lines l = [l] := by
  induction l with
  | nil => exact absurd rfl hne
  | cons b l ih =>
      have hb : b ≠ 10 := fun heq => h (by simp [heq])
      rw [lines, if_neg hb]
      by_cases hl : l = []
      · rw [hl]
        rfl
      · rw [ih (fun hmem => h (by simp [hmem])) hl]

theorem lines_unlines_append {ls : List (List Char)} (h : ∀ l ∈ ls, '\n' ∉ l) (rest : Octets) :
    lines (unlines ls ++ rest) = ls.map Utf8.encodeChars ++ lines rest := by
  induction ls with
  | nil => rfl
  | cons l ls ih =>
      have hfeed : 10 ∉ Utf8.encodeChars l :=
        Text.Utf8.feed_notMem_encodeChars (h l List.mem_cons_self)
      have hrest := ih fun other hother => h other (List.mem_cons_of_mem _ hother)
      rw [unlines, List.flatMap_cons, List.append_assoc, List.append_assoc, List.singleton_append,
        lines_append_feed hfeed, List.map_cons, List.cons_append]
      exact congrArg (Utf8.encodeChars l :: ·) hrest

/-- A line feed at the end closes the last line, or it adds an empty one. -/
theorem lines_append_singleton_feed (text : Octets) :
    lines (text ++ [10]) = lines text ∨ lines (text ++ [10]) = lines text ++ [[]] := by
  induction text with
  | nil => exact .inr rfl
  | cons b text ih =>
      rw [List.cons_append, lines, lines]
      split
      · rcases ih with heq | heq
        · exact .inl (by rw [heq])
        · exact .inr (by rw [heq, List.cons_append])
      · rcases ih with heq | heq
        · exact .inl (by rw [heq])
        · rw [heq]
          cases lines text with
          | nil => exact .inl rfl
          | cons line others => exact .inr rfl

/-! ### Begin and end lines -/

theorem stripFront_eq_some_iff {front cs rest : List Char} :
    stripFront front cs = some rest ↔ cs = front ++ rest := by
  induction front generalizing cs with
  | nil => simp [stripFront, eq_comm]
  | cons f front ih =>
      cases cs with
      | nil => simp [stripFront]
      | cons c cs =>
          rw [stripFront]
          by_cases hfc : f = c
          · simp [hfc, ih]
          · simp [hfc, eq_comm]

theorem stripFront_append (front rest : List Char) :
    stripFront front (front ++ rest) = some rest := stripFront_eq_some_iff.mpr rfl

theorem stripFront_eq_none_iff {front cs : List Char} :
    stripFront front cs = none ↔ ¬ front <+: cs := by
  rw [Option.eq_none_iff_forall_ne_some]
  constructor
  · rintro hnone ⟨rest, rfl⟩
    exact hnone rest (stripFront_append front rest)
  · intro hnot rest hsome
    exact hnot ⟨rest, (stripFront_eq_some_iff.mp hsome).symm⟩

theorem beforeDashes_eq_none_iff {cs : List Char} : beforeDashes cs = none ↔ ¬ dashes <:+: cs := by
  induction cs with
  | nil => simp [beforeDashes, dashes]
  | cons c cs ih =>
      rw [List.infix_cons_iff, beforeDashes]
      cases hstrip : stripFront "-----".toList (c :: cs) with
      | none =>
          have hnot : ¬ dashes <+: c :: cs := stripFront_eq_none_iff.mp hstrip
          simp [ih, hnot]
      | some rest =>
          have hdashes : dashes <+: c :: cs := ⟨rest, (stripFront_eq_some_iff.mp hstrip).symm⟩
          simp [hdashes]

theorem beforeDashes_append {label : List Char} (h : '-' ∉ label) (back : List Char) :
    beforeDashes (label ++ dashes ++ back) = some label := by
  induction label with
  | nil => rfl
  | cons c label ih =>
      have hc : '-' ≠ c := fun heq => h (heq ▸ List.mem_cons_self)
      have hstrip : stripFront "-----".toList (c :: (label ++ dashes ++ back)) = none := by
        simp [stripFront, hc]
      rw [List.cons_append, List.cons_append, beforeDashes, hstrip]
      dsimp only
      rw [ih fun hmem => h (by simp [hmem])]
      rfl

theorem opening_eq_absent {cs : List Char} (h : ¬ beginMark <+: cs) : opening cs = .absent := by
  rw [opening, show stripFront "-----BEGIN ".toList cs = none from stripFront_eq_none_iff.mpr h]

theorem opening_eq_malformed {text : List Char} (h : ¬ dashes <:+: text) :
    opening (beginMark ++ text) = .malformed := by
  rw [opening, show stripFront "-----BEGIN ".toList (beginMark ++ text) = some text from
    stripFront_append beginMark text]
  dsimp only
  rw [beforeDashes_eq_none_iff.mpr h]

/-- With dashes behind the mark there is some label. -/
theorem exists_opening_eq_labelled {text : List Char} (h : dashes <:+: text) :
    ∃ label, opening (beginMark ++ text) = .labelled label := by
  rw [opening, show stripFront "-----BEGIN ".toList (beginMark ++ text) = some text from
    stripFront_append beginMark text]
  dsimp only
  cases hbefore : beforeDashes text with
  | none => exact absurd h (beforeDashes_eq_none_iff.mp hbefore)
  | some label => exact ⟨_, rfl⟩

theorem opening_eq_labelled {label : List Char} (h : '-' ∉ label) (back : List Char) :
    opening (beginMark ++ (label ++ dashes ++ back)) = .labelled (String.ofList label) := by
  have htake : label.takeWhile (· ≠ '-') = label := by
    rw [List.takeWhile_eq_self_iff]
    intro c hc
    have hne : c ≠ '-' := fun heq => h (heq ▸ hc)
    simp [hne]
  rw [opening, show stripFront "-----BEGIN ".toList _ = some (label ++ dashes ++ back) from
    stripFront_append beginMark _]
  dsimp only
  rw [beforeDashes_append h]
  dsimp only
  rw [htake]

theorem isEnd_append (text : List Char) : isEnd (endMark ++ text) = true := by
  rw [isEnd, show stripFront "-----END ".toList (endMark ++ text) = some text from
    stripFront_append endMark text]
  rfl

theorem isEnd_eq_false {cs : List Char} (h : ¬ endMark <+: cs) : isEnd cs = false := by
  rw [isEnd, show stripFront "-----END ".toList cs = none from stripFront_eq_none_iff.mpr h]
  rfl

/-! ### Inside a block -/

section Body

variable {label : String} {body cs : List Char} {rest : List Octets}

theorem readBody_cons_of_not_end (h : ¬ endMark <+: cs) :
    readBody label body (Utf8.encodeChars cs :: rest) =
      readBody label (body ++ trimEnd cs) rest := by
  rw [readBody, Text.Utf8.decodeChars_encodeChars]
  dsimp only
  rw [isEnd_eq_false h]
  rfl

/-- Lines that end no block add to the body. -/
theorem readBody_append {ls : List (List Char)} (h : ∀ l ∈ ls, ¬ endMark <+: l) :
    readBody label body (ls.map Utf8.encodeChars ++ rest) =
      readBody label (body ++ ls.flatMap trimEnd) rest := by
  induction ls generalizing body with
  | nil => simp
  | cons l ls ih =>
      rw [List.map_cons, List.cons_append, readBody_cons_of_not_end (h l List.mem_cons_self),
        ih fun other hother => h other (List.mem_cons_of_mem _ hother), List.flatMap_cons,
        List.append_assoc]

/-- An end line puts the body to the test. -/
theorem readBody_cons_of_end (text : List Char) :
    readBody label body (Utf8.encodeChars (endMark ++ text) :: rest) =
      match Base64.decode? body with
      | none => .error .badBase64
      | some contents => .ok (⟨label, contents⟩, rest) := by
  rw [readBody, Text.Utf8.decodeChars_encodeChars]
  dsimp only
  rw [isEnd_append]
  rfl

theorem readBody_append_empty (label : String) (body : List Char) (ls : List Octets) :
    readBody label body (ls ++ [[]]) =
      (readBody label body ls).map fun found => (found.1, found.2 ++ [[]]) := by
  induction ls generalizing body with
  | nil => rfl
  | cons line ls ih =>
      rw [List.cons_append, readBody, readBody]
      cases Utf8.decodeChars line with
      | none => rfl
      | some cs =>
          dsimp only
          split
          · cases Base64.decode? body <;> rfl
          · exact ih _

end Body

/-! ### Between blocks -/

section Between

variable {cs : List Char} {rest : List Octets}

theorem readBlock_cons_of_absent (h : ¬ beginMark <+: cs) :
    readBlock (Utf8.encodeChars cs :: rest) = readBlock rest := by
  rw [readBlock, Text.Utf8.decodeChars_encodeChars]
  dsimp only
  rw [opening_eq_absent h]

/-- Lines that begin no block are passed over. -/
theorem readBlock_append {ls : List (List Char)} (h : ∀ l ∈ ls, ¬ beginMark <+: l) :
    readBlock (ls.map Utf8.encodeChars ++ rest) = readBlock rest := by
  induction ls with
  | nil => rfl
  | cons l ls ih =>
      rw [List.map_cons, List.cons_append, readBlock_cons_of_absent (h l List.mem_cons_self),
        ih fun other hother => h other (List.mem_cons_of_mem _ hother)]

theorem readBlock_cons_of_malformed {text : List Char} (h : ¬ dashes <:+: text) :
    readBlock (Utf8.encodeChars (beginMark ++ text) :: rest) = .error .invalidHeader := by
  rw [readBlock, Text.Utf8.decodeChars_encodeChars]
  dsimp only
  rw [opening_eq_malformed h]

theorem readBlock_cons_of_labelled {label : String} (h : opening cs = .labelled label) :
    readBlock (Utf8.encodeChars cs :: rest) = readBody label [] rest := by
  rw [readBlock, Text.Utf8.decodeChars_encodeChars]
  dsimp only
  rw [h]

theorem readBlock_append_empty (ls : List Octets) :
    readBlock (ls ++ [[]]) =
      (readBlock ls).map fun found => (found.1, found.2 ++ [[]]) := by
  induction ls with
  | nil => rfl
  | cons line ls ih =>
      rw [List.cons_append, readBlock, readBlock]
      cases Utf8.decodeChars line with
      | none => rfl
      | some cs =>
          dsimp only
          cases opening cs with
          | absent => exact ih
          | malformed => rfl
          | labelled label => exact readBody_append_empty label [] ls

end Between

/-! ### All blocks -/

section Blocks

variable {ls rest : List Octets}

theorem readBlocks_of_ok {block : Block} (h : readBlock ls = .ok (block, rest)) :
    readBlocks ls = (readBlocks rest).map (block :: ·) := by
  rw [readBlocks]
  split <;> simp_all

theorem readBlocks_of_missing (h : readBlock ls = .error .missingHeader) :
    readBlocks ls = .ok [] := by
  rw [readBlocks]
  split <;> simp_all

theorem readBlocks_of_error {fault : Fault} (h : readBlock ls = .error fault)
    (hfault : fault ≠ .missingHeader) : readBlocks ls = .error fault := by
  rw [readBlocks]
  split <;> simp_all

/-- What the first block is found in decides about all of them. -/
theorem readBlocks_congr {others : List Octets} (h : readBlock ls = readBlock others) :
    readBlocks ls = readBlocks others := by
  cases hothers : readBlock others with
  | error fault =>
      by_cases hmissing : fault = .missingHeader
      · subst hmissing
        rw [readBlocks_of_missing (h.trans hothers), readBlocks_of_missing hothers]
      · rw [readBlocks_of_error (h.trans hothers) hmissing, readBlocks_of_error hothers hmissing]
  | ok found => rw [readBlocks_of_ok (h.trans hothers), readBlocks_of_ok hothers]

theorem readBlocks_append_empty (ls : List Octets) : readBlocks (ls ++ [[]]) = readBlocks ls := by
  -- The induction is on the number of lines, which a block makes smaller.
  induction hlen : ls.length using Nat.strong_induction_on generalizing ls with
  | _ n ih =>
      have hsame := readBlock_append_empty ls
      cases hblock : readBlock ls with
      | error fault =>
          rw [hblock] at hsame
          exact readBlocks_congr (hsame.trans hblock.symm)
      | ok found =>
          rw [hblock] at hsame
          have hshorter : found.2.length < ls.length := length_of_readBlock hblock
          rw [readBlocks_of_ok hsame, readBlocks_of_ok hblock, ih _ (hlen ▸ hshorter) _ rfl]

/-- A line feed at the end of a text makes no difference. -/
theorem blocks_append_feed (text : Octets) : blocks (text ++ [10]) = blocks text := by
  rw [blocks, blocks]
  rcases lines_append_singleton_feed text with heq | heq
  · rw [heq]
  · rw [heq, readBlocks_append_empty]

end Blocks

end RevocationCheck.Pem
