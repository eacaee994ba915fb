import RevocationCheck.Failure
import RevocationCheck.Proofs.WrittenBundles

/-!
# Damaged bundles

A bundle with a damaged block is not read in part: no certificate is returned, also none of those
that stand before the damage.  A block is damaged if its begin line is not closed, if it has a line
that is no UTF-8, if its body is not base64, or if its end line is missing, so that it runs to the
end of the text or into the next begin line (`Damaged`).

What follows the damage cannot mend it: a body that has taken in a dash is never base64
(`exists_readBody_eq_error`).

Base64 is what has been written in one piece or in several.  A group that is filled up need not be
the last one, so a body that joins the encodings of two contents is no damage
(`joined_encodings_read`).
-/

namespace RevocationCheck.Pem

open Text (Utf8.encodeChars Utf8.decodeChars trimEnd)

/-! ### What is damaged -/

/-- What can stand behind a line: nothing, or a line feed and any octets. -/
def EndsLine (rest : Octets) : Prop := rest = [] ∨ ∃ more, rest = 10 :: more

/-- A block that has been begun: a begin line that is closed, and lines that do not end it. -/
structure Started where
  heading : List Char
  body : List (List Char)
  heading_unbroken : '\n' ∉ heading
  heading_closed : dashes <:+: heading
  body_unbroken : ∀ l ∈ body, '\n' ∉ l
  body_open : ∀ l ∈ body, ¬ endMark <+: l

/-- The lines of what has been begun. -/
def Started.lines (s : Started) : List (List Char) := (beginMark ++ s.heading) :: s.body

/-- A damaged block, with whatever follows it. -/
inductive Damaged : Octets → Prop
  /-- The begin line is not closed. -/
  | unclosed {heading : List Char} {rest : Octets} (unbroken : '\n' ∉ heading)
      (noDashes : ¬ dashes <:+: heading) (ends : EndsLine rest) :
      Damaged (Utf8.encodeChars (beginMark ++ heading) ++ rest)
  /-- A line inside of the block is no UTF-8. -/
  | notUtf8 (s : Started) {line rest : Octets} (unbroken : 10 ∉ line)
      (unreadable : Utf8.decodeChars line = none) (ends : EndsLine rest) :
      Damaged (unlines s.lines ++ (line ++ rest))
  /-- The body, without the blanks at the ends of its lines, is not base64. -/
  | notBase64 (s : Started) {closing : List Char} {rest : Octets} (unbroken : '\n' ∉ closing)
      (other : ∀ pieces : List Octets, s.body.flatMap trimEnd ≠ pieces.flatMap Base64.encode)
      (ends : EndsLine rest) :
      Damaged (unlines s.lines ++ (Utf8.encodeChars (endMark ++ closing) ++ rest))
  /-- There is no end line up to the end of the text. -/
  | unended (s : Started) (terminated : Bool) : Damaged (written terminated s.lines)
  /-- There is no end line before the next begin line. -/
  | overrun (s : Started) {heading : List Char} {rest : Octets} (unbroken : '\n' ∉ heading)
      (ends : EndsLine rest) :
      Damaged (unlines s.lines ++ (Utf8.encodeChars (beginMark ++ heading) ++ rest))

/-! ### Reading what is damaged -/

theorem exists_lines_append {l rest : Octets} (h : 10 ∉ l) (hne : l ≠ []) (ends : EndsLine rest) :
    ∃ more, lines (l ++ rest) = l :: more := by
  rcases ends with rfl | ⟨rest, rfl⟩
  · exact ⟨[], by rw [List.append_nil, lines_of_unbroken h hne]⟩
  · exact ⟨lines rest, lines_append_feed h rest⟩

/-- The line of a mark, with whatever follows it. -/
theorem exists_lines_marked (front : List Char) {text : List Char} {rest : Octets}
    (hne : front ≠ []) (hfront : '\n' ∉ front) (htext : '\n' ∉ text) (ends : EndsLine rest) :
    ∃ more, lines (Utf8.encodeChars (front ++ text) ++ rest) =
      Utf8.encodeChars (front ++ text) :: more := by
  refine exists_lines_append (Text.Utf8.feed_notMem_encodeChars ?_) ?_ ends
  · rw [List.mem_append, not_or]
    exact ⟨hfront, htext⟩
  · intro hnil
    have hread := Text.Utf8.decodeChars_encodeChars (front ++ text)
    rw [hnil] at hread
    have hempty : front ++ text = [] := (Option.some.inj hread).symm
    exact hne (List.append_eq_nil_iff.mp hempty).1

theorem Started.lines_unbroken (s : Started) : ∀ l ∈ s.lines, '\n' ∉ l := by
  intro l hl
  rcases List.mem_cons.mp hl with rfl | hl
  · have hmark : '\n' ∉ beginMark := by decide
    rw [List.mem_append, not_or]
    exact ⟨hmark, s.heading_unbroken⟩
  · exact s.body_unbroken l hl

/-- Inside of a block that has been begun, its body is collected. -/
theorem Started.exists_readBlock_eq (s : Started) :
    ∃ label, ∀ rest : List Octets, readBlock (s.lines.map Utf8.encodeChars ++ rest) =
      readBody label (s.body.flatMap trimEnd) rest := by
  obtain ⟨label, hlabel⟩ := exists_opening_eq_labelled s.heading_closed
  refine ⟨label, fun rest => ?_⟩
  rw [Started.lines, List.map_cons, List.cons_append, readBlock_cons_of_labelled hlabel,
    readBody_append s.body_open, List.nil_append]

/-- A body with a character that is no sign of base64 is never read, whatever follows. -/
theorem exists_readBody_eq_error (label : String) {body : List Char} {c : Char} (hmem : c ∈ body)
    (hc : ¬ Base64.IsSign c) (rest : List Octets) :
    ∃ fault, readBody label body rest = .error fault ∧ fault ≠ .missingHeader := by
  -- The body only grows, so the character is still there when an end line is reached.
  induction rest generalizing body with
  | nil => exact ⟨.incomplete, rfl, by decide⟩
  | cons line rest ih =>
      rw [readBody]
      cases Utf8.decodeChars line with
      | none => exact ⟨.notUtf8, rfl, by decide⟩
      | some cs =>
          dsimp only
          split
          · rw [Base64.decode?_eq_none_of_mem hmem hc]
            exact ⟨.badBase64, rfl, by decide⟩
          · exact ih (List.mem_append_left _ hmem)

theorem readBlock_unclosed {heading : List Char} {rest : Octets} (unbroken : '\n' ∉ heading)
    (noDashes : ¬ dashes <:+: heading) (ends : EndsLine rest) :
    readBlock (lines (Utf8.encodeChars (beginMark ++ heading) ++ rest)) =
      .error .invalidHeader := by
  obtain ⟨more, hlines⟩ := exists_lines_marked beginMark (by decide) (by decide) unbroken ends
  rw [hlines, readBlock_cons_of_malformed noDashes]

namespace Started

variable (s : Started) {rest : Octets}

theorem readBlock_notUtf8 {line : Octets} (unbroken : 10 ∉ line)
    (unreadable : Utf8.decodeChars line = none) (ends : EndsLine rest) :
    readBlock (Pem.lines (unlines s.lines ++ (line ++ rest))) = .error .notUtf8 := by
  have hne : line ≠ [] := by
    rintro rfl
    cases unreadable
  obtain ⟨label, hread⟩ := s.exists_readBlock_eq
  obtain ⟨more, hlines⟩ := exists_lines_append unbroken hne ends
  rw [lines_unlines_append s.lines_unbroken, hlines, hread, readBody, unreadable]

theorem readBlock_notBase64 {closing : List Char} (unbroken : '\n' ∉ closing)
    (other : ∀ pieces : List Octets, s.body.flatMap trimEnd ≠ pieces.flatMap Base64.encode)
    (ends : EndsLine rest) :
    readBlock (Pem.lines (unlines s.lines ++
      (Utf8.encodeChars (endMark ++ closing) ++ rest))) = .error .badBase64 := by
  have hdecode : Base64.decode? (s.body.flatMap trimEnd) = none := by
    rw [Option.eq_none_iff_forall_ne_some]
    intro bs hbs
    obtain ⟨pieces, hpieces, -⟩ := Base64.decode?_eq_some_iff.mp hbs
    exact other pieces hpieces
  obtain ⟨label, hread⟩ := s.exists_readBlock_eq
  obtain ⟨more, hlines⟩ := exists_lines_marked endMark (by decide) (by decide) unbroken ends
  rw [lines_unlines_append s.lines_unbroken, hlines, hread, readBody_cons_of_end, hdecode]

theorem readBlock_unended : readBlock (Pem.lines (unlines s.lines)) = .error .incomplete := by
  obtain ⟨label, hread⟩ := s.exists_readBlock_eq
  have hlines := lines_unlines_append s.lines_unbroken []
  rw [List.append_nil] at hlines
  rw [hlines, hread]
  rfl

/-- The begin line of the next block is taken into the body, with its dashes. -/
theorem readBlock_overrun {heading : List Char} (unbroken : '\n' ∉ heading)
    (ends : EndsLine rest) :
    ∃ fault, readBlock (Pem.lines (unlines s.lines ++
        (Utf8.encodeChars (beginMark ++ heading) ++ rest))) = .error fault ∧
      fault ≠ .missingHeader := by
  have hopen : ¬ endMark <+: beginMark ++ heading := by
    intro hend
    have hmarks := List.prefix_or_prefix_of_prefix hend (List.prefix_append beginMark heading)
    exact absurd hmarks (by decide)
  have hmark : '-' ∈ beginMark := by decide
  have hblank : Text.isBlank '-' = false := by decide
  have hdash : '-' ∈ s.body.flatMap trimEnd ++ trimEnd (beginMark ++ heading) :=
    List.mem_append_right _ (Text.mem_trimEnd (List.mem_append_left _ hmark) hblank)
  obtain ⟨label, hread⟩ := s.exists_readBlock_eq
  obtain ⟨more, hlines⟩ := exists_lines_marked beginMark (by decide) (by decide) unbroken ends
  rw [lines_unlines_append s.lines_unbroken, hlines, hread, readBody_cons_of_not_end hopen]
  exact exists_readBody_eq_error label hdash dash_not_isSign more

end Started

/-- No damaged block is read, and none is taken for the end of the bundle. -/
theorem Damaged.exists_blocks_eq_error {text : Octets} (h : Damaged text) :
    ∃ fault, blocks text = .error fault := by
  cases h with
  | unclosed unbroken noDashes ends =>
      exact ⟨_, readBlocks_of_error (readBlock_unclosed unbroken noDashes ends) (by decide)⟩
  | notUtf8 s unbroken unreadable ends =>
      exact ⟨_, readBlocks_of_error (s.readBlock_notUtf8 unbroken unreadable ends) (by decide)⟩
  | notBase64 s unbroken other ends =>
      exact ⟨_, readBlocks_of_error (s.readBlock_notBase64 unbroken other ends) (by decide)⟩
  | unended s terminated =>
      have hblocks := blocks_append_written [] terminated s.lines
      rw [List.nil_append, List.nil_append] at hblocks
      exact ⟨_, hblocks.trans (readBlocks_of_error s.readBlock_unended (by decide))⟩
  | overrun s unbroken ends =>
      obtain ⟨fault, hfault, hother⟩ := s.readBlock_overrun unbroken ends
      exact ⟨fault, readBlocks_of_error hfault hother⟩

/-- **A bundle with a damaged block is rejected as a whole**, whatever stands before the damage and
behind it. -/
theorem damaged_bundle_rejected (b : Bundle) {damage : Octets} (h : Damaged damage) :
    ∃ fault, certificates (unlines b.lines ++ damage) = .error fault ∧
      (Failure.ofBundle fault).kind = .parse := by
  obtain ⟨fault, hfault⟩ := h.exists_blocks_eq_error
  refine ⟨fault, ?_, rfl⟩
  rw [certificates, b.blocks_unlines_append, hfault]
  rfl

/-! ### Samples -/

/-- A bundle of one certificate. -/
def oneCertificate : Bundle where
  entries := [([], {
    label := "CERTIFICATE"
    contents := [0x30, 0]
    width := 64
    closing := "CERTIFICATE-----".toList
    lineEnd := fun _ => .feed
    label_noDash := by decide
    label_unbroken := by decide
    closing_unbroken := by decide })]
  after := []
  terminated := true

/-- A certificate block that has been begun. -/
def certificateStarted : Started where
  heading := "CERTIFICATE-----".toList
  body := ["MAA=".toList]
  heading_unbroken := by decide
  heading_closed := by decide
  body_unbroken := by decide
  body_open := by decide

/-- A second block that runs into a third one. -/
def overrunSample : Octets :=
  unlines certificateStarted.lines ++
    (Utf8.encodeChars (beginMark ++ "CERTIFICATE-----".toList) ++
      10 :: Utf8.encodeChars "MAA=\n-----END CERTIFICATE-----\n".toList)

theorem damaged_bundle_rejected_sample :
    certificates (unlines oneCertificate.lines) = .ok [[0x30, 0]] ∧
      Damaged overrunSample ∧
      ∃ fault, certificates (unlines oneCertificate.lines ++ overrunSample) = .error fault ∧
        (Failure.ofBundle fault).kind = .parse := by
  have hdamaged : Damaged overrunSample :=
    .overrun certificateStarted (by decide) (.inr ⟨_, rfl⟩)
  exact ⟨by decide +kernel, hdamaged, damaged_bundle_rejected oneCertificate hdamaged⟩

/-- Two encodings in a row are the encoding of nothing, and yet they are read, as one certificate
that joins the contents. -/
theorem joined_encodings_read :
    (∀ contents, "QQ==QQ==".toList ≠ Base64.encode contents) ∧
      certificates (Utf8.encodeChars ("-----BEGIN CERTIFICATE-----\nQQ==QQ==\n" ++
        "-----END CERTIFICATE-----\n").toList) = .ok [[0x41, 0x41]] := by
  refine ⟨fun contents hencode => ?_, by decide +kernel⟩
  have hdecode : some [0x41, 0x41] = some contents :=
    (congrArg Base64.decode? hencode).trans (Base64.decode?_encode contents)
  rw [← Option.some.inj hdecode] at hencode
  exact absurd hencode (by decide)

end RevocationCheck.Pem
