import RevocationCheck.Proofs.PemLines

/-!
# Bundles in writing

A bundle as it can be written: blocks of any label and contents, the contents as base64 in lines of
any width, each line ended in one of the two ways, and any lines that begin no block before,
between and behind the blocks.

The reader finds a written block whatever follows it (`readBlock_written`), and so it finds all
blocks of a bundle and goes on behind them (`Bundle.readBlocks_append`).  Of a whole bundle it
returns the contents of the certificate blocks (`Bundle.certificates_octets`).
-/

namespace RevocationCheck.Pem

open Text (Utf8.encodeChars trimEnd isBlank)

/-! ### What is written -/

/-- A line of text that begins no block. -/
structure PlainLine where
  text : List Char
  unbroken : '\n' ∉ text
  noMark : ¬ beginMark <+: text

/-- What may stand before the line feed at the end of a line. -/
inductive LineEnd
  | feed
  | returnFeed
deriving Repr, DecidableEq

/-- The characters between the text of a line and its line feed. -/
def LineEnd.mark : LineEnd → List Char
  | .feed => []
  | .returnFeed => ['\r']

/-- Text in lines of `width` characters, of which the last may be shorter.  There is at least one
character on a line, also when `width` is zero. -/
def wrap (width : Nat) : List Char → List (List Char)
  | [] => []
  | c :: cs => (c :: cs.take (width - 1)) :: wrap width (cs.drop (width - 1))
termination_by cs => cs.length
decreasing_by
  rw [List.length_drop, List.length_cons]
  omega

/-- A block as it is written.  What stands behind the mark of the end line is free. -/
structure WrittenBlock where
  label : String
  contents : Octets
  width : Nat
  closing : List Char
  lineEnd : Nat → LineEnd
  label_noDash : '-' ∉ label.toList
  label_unbroken : '\n' ∉ label.toList
  closing_unbroken : '\n' ∉ closing

/-- The block that is to be found. -/
def WrittenBlock.block (w : WrittenBlock) : Block := ⟨w.label, w.contents⟩

/-- The lines of a block without their ends. -/
def WrittenBlock.texts (w : WrittenBlock) : List (List Char) :=
  (beginMark ++ (w.label.toList ++ dashes)) ::
    (wrap w.width (Base64.encode w.contents) ++ [endMark ++ w.closing])

/-- The lines of a block up to their line feeds. -/
def WrittenBlock.lines (w : WrittenBlock) : List (List Char) :=
  w.texts.mapIdx fun i text => text ++ (w.lineEnd i).mark

example :
    unlines (WrittenBlock.lines ⟨"NOTE", [1, 2, 3, 4], 3, "NOTE-----".toList, fun _ => .returnFeed,
      by decide, by decide, by decide⟩) =
      Utf8.encodeChars ("-----BEGIN NOTE-----\r\nAQI\r\nDBA\r\n==\r\n" ++
        "-----END NOTE-----\r\n").toList := by decide +kernel

/-- Blocks, each with the lines before it, and the lines behind the last one. -/
structure Bundle where
  entries : List (List PlainLine × WrittenBlock)
  after : List PlainLine
  terminated : Bool

/-- The lines of a bundle. -/
def Bundle.lines (b : Bundle) : List (List Char) :=
  (b.entries.flatMap fun e => e.1.map PlainLine.text ++ e.2.lines) ++ b.after.map PlainLine.text

/-- Lines as octets, with or without the line feed at the very end. -/
def written (terminated : Bool) (ls : List (List Char)) : Octets :=
  if terminated then unlines ls else (unlines ls).dropLast

/-- The bundle as a text. -/
def Bundle.octets (b : Bundle) : Octets := written b.terminated b.lines

/-! ### The body of a block -/

theorem flatten_wrap (width : Nat) (cs : List Char) : (wrap width cs).flatten = cs := by
  fun_induction wrap width cs with
  | case1 => rfl
  | case2 c cs ih => rw [List.flatten_cons, ih, List.cons_append, List.take_append_drop]

theorem mem_wrap {width : Nat} {cs l : List Char} {c : Char} (hl : l ∈ wrap width cs)
    (hc : c ∈ l) : c ∈ cs := by
  rw [← flatten_wrap width cs]
  exact List.mem_flatten.mpr ⟨l, hl, hc⟩

/-- No sign of base64 is blank. -/
theorem isBlank_of_isSign {c : Char} (h : Base64.IsSign c) : isBlank c = false := by
  rcases h with hvalue | rfl
  · obtain ⟨n, hn⟩ := Option.isSome_iff_exists.mp hvalue
    obtain ⟨hlt, rfl⟩ := Base64.symbol_of_value? hn
    have all : ∀ m ∈ List.range 64, isBlank (Base64.symbol m) = false := by decide
    exact all n (List.mem_range.mpr hlt)
  · rfl

theorem dash_not_isSign : ¬ Base64.IsSign '-' := by decide

theorem feed_not_isSign : ¬ Base64.IsSign '\n' := by decide

theorem LineEnd.feed_notMem_mark (e : LineEnd) : '\n' ∉ e.mark := by cases e <;> decide

/-- The end of a line is trimmed off base64. -/
theorem trimEnd_append_mark {text : List Char} (h : ∀ c ∈ text, Base64.IsSign c) (e : LineEnd) :
    trimEnd (text ++ e.mark) = text := by
  have hmark : ∀ c ∈ e.mark, isBlank c = true := by
    intro c hc
    cases e with
    | feed => cases hc
    | returnFeed =>
        rw [List.mem_singleton.mp hc]
        rfl
  rw [Text.trimEnd_append_blank text e.mark hmark]
  exact Text.trimEnd_of_forall fun c hc => isBlank_of_isSign (h c hc)

theorem flatMap_trimEnd_mapIdx {texts : List (List Char)}
    (h : ∀ text ∈ texts, ∀ c ∈ text, Base64.IsSign c) (ends : Nat → LineEnd) :
    (texts.mapIdx fun i text => text ++ (ends i).mark).flatMap trimEnd = texts.flatten := by
  induction texts generalizing ends with
  | nil => rfl
  | cons text texts ih =>
      rw [List.mapIdx_cons, List.flatMap_cons,
        trimEnd_append_mark (h text List.mem_cons_self) (ends 0), List.flatten_cons,
        ih (fun other hother => h other (List.mem_cons_of_mem _ hother)) fun i => ends (i + 1)]

/-- A line of base64 ends no block. -/
theorem not_endMark_of_isSign {text : List Char} (h : ∀ c ∈ text, Base64.IsSign c) (e : LineEnd) :
    ¬ endMark <+: text ++ e.mark := by
  intro hend
  have hmem : '-' ∈ text ++ e.mark := hend.subset (by decide)
  rcases List.mem_append.mp hmem with htext | hmark
  · exact dash_not_isSign (h _ htext)
  · cases e with
    | feed => cases hmark
    | returnFeed => exact absurd hmark (by decide)

/-! ### Reading a block -/

/-- The lines of a block: the begin line, lines whose text is the base64 of the contents, and the
end line. -/
theorem WrittenBlock.lines_eq (w : WrittenBlock) :
    ∃ body : List (List Char), ∃ first last : LineEnd,
      w.lines = (beginMark ++ (w.label.toList ++ dashes ++ first.mark)) ::
        (body ++ [endMark ++ (w.closing ++ last.mark)]) ∧
      body.flatMap trimEnd = Base64.encode w.contents ∧
      ∀ l ∈ body, '\n' ∉ l ∧ ¬ endMark <+: l := by
  have hsigns : ∀ text ∈ wrap w.width (Base64.encode w.contents), ∀ c ∈ text, Base64.IsSign c :=
    fun text htext c hc => Base64.isSign_of_mem_encode (mem_wrap htext hc)
  refine ⟨(wrap w.width (Base64.encode w.contents)).mapIdx fun i text =>
      text ++ (w.lineEnd (i + 1)).mark, w.lineEnd 0,
    w.lineEnd ((wrap w.width (Base64.encode w.contents)).length + 1), ?_, ?_, ?_⟩
  · rw [WrittenBlock.lines, WrittenBlock.texts, List.mapIdx_cons, List.mapIdx_append]
    simp
  · rw [flatMap_trimEnd_mapIdx hsigns, flatten_wrap]
  · intro l hl
    obtain ⟨i, hi, rfl⟩ := List.mem_mapIdx.mp hl
    have htext := hsigns _ (List.getElem_mem hi)
    refine ⟨fun hfeed => ?_, not_endMark_of_isSign htext _⟩
    rcases List.mem_append.mp hfeed with hmem | hmark
    · exact feed_not_isSign (htext _ hmem)
    · exact LineEnd.feed_notMem_mark _ hmark

theorem WrittenBlock.lines_unbroken (w : WrittenBlock) : ∀ l ∈ w.lines, '\n' ∉ l := by
  obtain ⟨body, first, last, hlines, -, hbody⟩ := w.lines_eq
  rw [hlines]
  intro l hl
  rcases List.mem_cons.mp hl with rfl | hl
  · have hmark : '\n' ∉ beginMark := by decide
    have hdashes : '\n' ∉ dashes := by decide
    simp [hmark, w.label_unbroken, hdashes, LineEnd.feed_notMem_mark]
  · rcases List.mem_append.mp hl with hl | hl
    · exact (hbody l hl).1
    · have hmark : '\n' ∉ endMark := by decide
      rw [List.mem_singleton.mp hl]
      simp [hmark, w.closing_unbroken, LineEnd.feed_notMem_mark]

/-- A written block is found, and nothing behind it is touched. -/
theorem readBlock_written (w : WrittenBlock) (rest : List Octets) :
    readBlock (w.lines.map Utf8.encodeChars ++ rest) = .ok (w.block, rest) := by
  obtain ⟨body, first, last, hlines, hencoded, hbody⟩ := w.lines_eq
  rw [hlines, List.map_cons, List.cons_append,
    readBlock_cons_of_labelled (opening_eq_labelled w.label_noDash first.mark),
    String.ofList_toList, List.map_append, List.append_assoc,
    readBody_append fun l hl => (hbody l hl).2, List.nil_append, hencoded, List.map_cons,
    List.map_nil, List.singleton_append, readBody_cons_of_end, Base64.decode?_encode]
  rfl

/-! ### Reading a bundle -/

/-- The blocks that are to be found. -/
def Bundle.blocks (b : Bundle) : List Block := b.entries.map fun e => e.2.block

theorem readBlock_plain (plain : List PlainLine) (rest : List Octets) :
    readBlock ((plain.map PlainLine.text).map Utf8.encodeChars ++ rest) = readBlock rest := by
  refine readBlock_append fun l hl => ?_
  obtain ⟨line, -, rfl⟩ := List.mem_map.mp hl
  exact line.noMark

theorem readBlocks_entries (entries : List (List PlainLine × WrittenBlock))
    (rest : List Octets) :
    readBlocks ((entries.flatMap fun e => e.1.map PlainLine.text ++ e.2.lines).map
        Utf8.encodeChars ++ rest) =
      (readBlocks rest).map ((entries.map fun e => e.2.block) ++ ·) := by
  -- What follows the first entry is again a list of entries and the rest.
  induction entries with
  | nil => cases h : readBlocks rest <;> simp [Except.map, h]
  | cons e entries ih =>
      have hfirst : readBlock ((((e :: entries).flatMap fun e =>
            e.1.map PlainLine.text ++ e.2.lines).map Utf8.encodeChars) ++ rest) =
          .ok (e.2.block, (entries.flatMap fun e =>
            e.1.map PlainLine.text ++ e.2.lines).map Utf8.encodeChars ++ rest) := by
        rw [List.flatMap_cons, List.map_append, List.map_append, List.append_assoc,
          List.append_assoc, readBlock_plain, readBlock_written]
      rw [readBlocks_of_ok hfirst, ih, List.map_cons]
      cases readBlocks rest <;> rfl

/-- The blocks of a bundle are found first, and then those of what follows. -/
theorem Bundle.readBlocks_append (b : Bundle) (rest : List Octets) :
    readBlocks (b.lines.map Utf8.encodeChars ++ rest) =
      (readBlocks rest).map (b.blocks ++ ·) := by
  rw [Bundle.lines, List.map_append, List.append_assoc, readBlocks_entries,
    readBlocks_congr (readBlock_plain b.after rest)]
  rfl

theorem Bundle.lines_unbroken (b : Bundle) : ∀ l ∈ b.lines, '\n' ∉ l := by
  intro l hl
  rcases List.mem_append.mp hl with hentry | hafter
  · obtain ⟨e, -, hline⟩ := List.mem_flatMap.mp hentry
    rcases List.mem_append.mp hline with hplain | hblock
    · obtain ⟨line, -, rfl⟩ := List.mem_map.mp hplain
      exact line.unbroken
    · exact e.2.lines_unbroken l hblock
  · obtain ⟨line, -, rfl⟩ := List.mem_map.mp hafter
    exact line.unbroken

/-- What follows a bundle is read as if it stood alone. -/
theorem Bundle.blocks_unlines_append (b : Bundle) (text : Octets) :
    Pem.blocks (unlines b.lines ++ text) = (Pem.blocks text).map (b.blocks ++ ·) := by
  rw [Pem.blocks, lines_unlines_append b.lines_unbroken, b.readBlocks_append]
  rfl

/-- Whether the last line has its line feed makes no difference. -/
theorem blocks_append_written (front : Octets) (terminated : Bool) (ls : List (List Char)) :
    blocks (front ++ written terminated ls) = blocks (front ++ unlines ls) := by
  cases terminated with
  | true => rfl
  | false =>
      rcases List.eq_nil_or_concat' ls with rfl | ⟨init, last, rfl⟩
      · rfl
      · have hfeed : unlines (init ++ [last]) = unlines init ++ Utf8.encodeChars last ++ [10] := by
          simp [unlines]
        rw [written, if_neg (by decide), hfeed, List.dropLast_concat,
          ← List.append_assoc front _ [10], blocks_append_feed]

/-- **A bundle reads as it was written**: its blocks, and of these the certificates, in order and
with nothing lost, doubled or merged. -/
theorem Bundle.certificates_octets (b : Bundle) :
    Pem.blocks b.octets = .ok (b.entries.map fun e => ⟨e.2.label, e.2.contents⟩) ∧
      certificates b.octets =
        .ok ((b.entries.filter fun e => e.2.label = "CERTIFICATE").map fun e => e.2.contents) := by
  have hblocks : Pem.blocks b.octets = .ok b.blocks := by
    have hwritten := blocks_append_written [] b.terminated b.lines
    have hread := b.blocks_unlines_append []
    rw [List.append_nil] at hread
    rw [List.nil_append, List.nil_append, hread] at hwritten
    rw [Bundle.octets, hwritten, show Pem.blocks [] = .ok [] from readBlocks_of_missing rfl]
    simp [Except.map]
  refine ⟨hblocks, ?_⟩
  rw [certificates, hblocks, Except.map, Bundle.blocks, List.filter_map, List.map_map]
  rfl

end RevocationCheck.Pem
