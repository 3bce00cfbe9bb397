import ElementMarkup.Proofs.BlockExpansion
import ElementMarkup.Proofs.LineNumbers

/-!
# Text blocks

A tag that ends with a dot takes the lines below it as its text, and the first line that is not
indented ends the block. Main statement: `of_source_text_block`. The text that a block was written
with comes back without the indentation, and what stands below the block is read as if it stood
alone. The block also takes the blank lines that follow it. They are dropped from its text and
would have been passed over anyway, see `scan_lines_blank`.
-/

namespace ElementMarkup

namespace TextBlock

variable {blank : Char} {width : Nat} {line : List Char} {lines below : List (List Char)}

/-- The first line that is not blank starts with a space or a tab. -/
def firstIsIndented (lines : List (List Char)) : Bool :=
  (lines.find? fun line => !Text.allBlank line).any fun line => line.head?.any Line.isGap

/-- Lines that a text block can hold. The first of them that is not blank starts at the margin of
the block, and the last one is not blank. -/
structure IsText (lines : List (List Char)) : Prop where
  isLineText : ∀ line ∈ lines, Print.isLineText line = true
  empty_or : ∀ line ∈ lines, line = [] ∨ Text.allBlank line = false
  first : firstIsIndented lines = false
  last : ∃ line ∈ lines.getLast?, Text.allBlank line = false

/-- The line with an indentation in front of it, unless it is empty. -/
def indented (indent line : List Char) : List Char :=
  if line.isEmpty then [] else indent ++ line

/-! ## Indented lines -/

/-- A line that is not empty gets the indentation. -/
theorem indented_of_not_all_blank (h : Text.allBlank line = false) (indent : List Char) :
    indented indent line = indent ++ line := by
  cases line with
  | nil => cases h
  | cons c line => rfl

/-- A line is blank exactly if it is so with spaces or tabs in front of it. -/
theorem all_blank_indented (hblank : blank = ' ' ∨ blank = '\t') (width : Nat) (line : List Char) :
    Text.allBlank (indented (List.replicate width blank) line) = Text.allBlank line := by
  have hrun : (List.replicate width blank).all Text.isBlank = true := by
    have hchar : Text.isBlank blank = true := by
      rcases hblank with rfl | rfl <;> decide
    rw [List.all_eq_true]
    intro c hc
    rw [List.eq_of_mem_replicate hc, hchar]
  cases line with
  | nil => rfl
  | cons c line =>
      show List.all (List.replicate width blank ++ c :: line) Text.isBlank = _
      rw [List.all_append, hrun, Bool.true_and]
      rfl

/-- The width of an indentation is added to that of the line. -/
theorem indent_width_replicate_append (hblank : blank = ' ' ∨ blank = '\t') (width : Nat)
    (line : List Char) :
    Layout.indentWidth (List.replicate width blank ++ line) = width + Layout.indentWidth line := by
  have hgap : ∀ c ∈ List.replicate width blank, Line.isGap c = true := by
    intro c hc
    rw [List.eq_of_mem_replicate hc]
    rcases hblank with rfl | rfl <;> rfl
  rw [Layout.indentWidth, List.takeWhile_append_of_pos hgap, List.length_append,
    List.length_replicate]
  rfl

/-- A line that starts with neither a space nor a tab is not indented. -/
theorem indent_width_eq_zero (h : line.head?.any Line.isGap = false) :
    Layout.indentWidth line = 0 := by
  have hpos := mt (Token.indent_width_pos_iff line).mp (by rw [h]; exact Bool.false_ne_true)
  omega

/-- Blank lines do not count as the first line. -/
theorem first_is_indented_cons_of_all_blank (h : Text.allBlank line = true) :
    firstIsIndented (line :: lines) = firstIsIndented lines := by
  rw [firstIsIndented, List.find?_cons_of_neg (by simp [h])]
  rfl

/-- If the first line is not blank, then its indentation counts. -/
theorem indent_width_of_first_is_indented (h : firstIsIndented (line :: lines) = false)
    (hline : Text.allBlank line = false) : Layout.indentWidth line = 0 := by
  rw [firstIsIndented, List.find?_cons_of_pos (by simp [hline]), Option.any_some] at h
  exact indent_width_eq_zero h

/-! ## The lines of a block -/

/-- Of lines that start at the margin a block takes the blank ones in front. -/
theorem lines_from_of_first_is_indented (h : firstIsIndented below = false) (base : Option Nat) :
    linesFrom 0 base below = List.replicate (below.takeWhile Text.allBlank).length [] := by
  induction below with
  | nil => rfl
  | cons line below ih =>
      rw [linesFrom]
      by_cases hblank : Text.allBlank line = true
      · rw [first_is_indented_cons_of_all_blank hblank] at h
        rw [if_pos hblank, ih h, List.takeWhile_cons_of_pos hblank, List.length_cons,
          List.replicate_succ]
      · have hwidth := indent_width_of_first_is_indented h (Bool.eq_false_iff.mpr hblank)
        rw [if_neg hblank, List.takeWhile_cons_of_neg hblank]
        dsimp only
        rw [if_pos (Nat.le_of_eq hwidth)]
        rfl

/-- A block takes indented lines without their indentation, and the blank lines that follow. The
width of the indentation is known from a line above or from the first line that is not blank. -/
theorem lines_from_indented (hblank : blank = ' ' ∨ blank = '\t') (hwidth : 0 < width)
    (hlines : ∀ line ∈ lines, line = [] ∨ Text.allBlank line = false)
    (hbelow : firstIsIndented below = false) {base : Option Nat}
    (hbase : base = some width ∨ base = none ∧ firstIsIndented lines = false) :
    linesFrom 0 base (lines.map (indented (List.replicate width blank)) ++ below) =
      lines ++ List.replicate (below.takeWhile Text.allBlank).length [] := by
  induction lines generalizing base with
  | nil => exact lines_from_of_first_is_indented hbelow base
  | cons line lines ih =>
      obtain ⟨hline, hmore⟩ := List.forall_mem_cons.mp hlines
      rw [List.map_cons, List.cons_append, linesFrom, all_blank_indented hblank]
      rcases hline with rfl | hline
      · rw [if_pos (show Text.allBlank [] = true from rfl), ih hmore hbase, List.cons_append]
      · have hindent : Layout.indentWidth (indented (List.replicate width blank) line) =
            width + Layout.indentWidth line := by
          rw [indented_of_not_all_blank hline, indent_width_replicate_append hblank]
        have hknown : base.getD (width + Layout.indentWidth line) = width := by
          rcases hbase with rfl | ⟨rfl, hfirst⟩
          · rfl
          · rw [indent_width_of_first_is_indented hfirst hline]
            rfl
        rw [if_neg (by rw [hline]; exact Bool.false_ne_true)]
        dsimp only
        rw [hindent, if_neg (by omega), hknown, ih hmore (.inl rfl), Nat.min_eq_left (by omega),
          indented_of_not_all_blank hline, List.drop_left' List.length_replicate, List.cons_append]

/-- The lines of a block that was written as a text, and the blank lines that follow. -/
theorem block_lines_indented (hblank : blank = ' ' ∨ blank = '\t') (hwidth : 0 < width)
    (h : IsText lines) (hbelow : firstIsIndented below = false) :
    blockLines 0 (lines.map (indented (List.replicate width blank)) ++ below) =
      lines ++ List.replicate (below.takeWhile Text.allBlank).length [] :=
  lines_from_indented hblank hwidth h.empty_or hbelow (.inr ⟨rfl, h.first⟩)

/-- Empty lines at the end are dropped, and no others. -/
theorem drop_trailing_empty_append_replicate
    (h : ∃ line ∈ lines.getLast?, Text.allBlank line = false) (count : Nat) :
    dropTrailingEmpty (lines ++ List.replicate count []) = lines := by
  obtain ⟨last, hlast, hblank⟩ := h
  obtain ⟨front, rfl⟩ := List.getLast?_eq_some_iff.mp hlast
  have hempty : ∀ line ∈ List.replicate count ([] : List Char), line.isEmpty = true := by
    intro line hline
    rw [List.eq_of_mem_replicate hline]
    rfl
  have hkept : ¬ last.isEmpty = true := by
    rw [List.isEmpty_iff]
    rintro rfl
    cases hblank
  rw [dropTrailingEmpty, List.reverse_append, List.reverse_replicate,
    List.dropWhile_append_of_pos hempty, List.reverse_append, List.reverse_singleton,
    List.singleton_append, List.dropWhile_cons_of_neg hkept, List.reverse_cons,
    List.reverse_reverse]

/-- The first line of a text that is not blank. -/
theorem IsText.exists_find? (h : IsText lines) :
    ∃ line, lines.find? (fun line => !Text.allBlank line) = some line ∧
      Text.allBlank line = false ∧ Layout.indentWidth line = 0 := by
  obtain ⟨last, hlast, hblank⟩ := h.last
  have hfound : (lines.find? fun line => !Text.allBlank line).isSome := by
    rw [List.find?_isSome]
    exact ⟨last, List.mem_of_getLast? hlast, by rw [hblank]; rfl⟩
  obtain ⟨line, hline⟩ := Option.isSome_iff_exists.mp hfound
  have hfirst := h.first
  rw [firstIsIndented, hline, Option.any_some] at hfirst
  exact ⟨line, hline, by simpa using List.find?_some hline, indent_width_eq_zero hfirst⟩

/-- A block of indented lines is indented as they are. -/
theorem base_width_indented (hblank : blank = ' ' ∨ blank = '\t') (h : IsText lines) :
    baseWidth (lines.map (indented (List.replicate width blank)) ++ below) = width := by
  obtain ⟨line, hline, hkept, hmargin⟩ := h.exists_find?
  have hfind : (lines.map (indented (List.replicate width blank)) ++ below).find?
      (fun line => !Text.allBlank line) = some (List.replicate width blank ++ line) := by
    rw [List.find?_append, List.find?_map]
    simp only [Function.comp_def, all_blank_indented hblank]
    rw [hline, Option.map_some, indented_of_not_all_blank hkept, Option.some_or]
  rw [baseWidth, hfind]
  show Layout.indentWidth (List.replicate width blank ++ line) = width
  rw [indent_width_replicate_append hblank, hmargin, Nat.add_zero]

/-- The token of a block of indented lines holds the lines without their indentation. -/
theorem tokens_indented (hblank : blank = ' ' ∨ blank = '\t') (hwidth : 0 < width)
    (h : IsText lines) (hbelow : firstIsIndented below = false) (number : Nat) :
    tokens number 0 (lines.map (indented (List.replicate width blank)) ++ below) =
      [⟨.text (String.ofList (Text.joinWith ['\n'] lines)), ⟨number + 1, width⟩⟩] := by
  have hcontent : dropTrailingEmpty
      (blockLines 0 (lines.map (indented (List.replicate width blank)) ++ below)) = lines := by
    rw [block_lines_indented hblank hwidth h hbelow, drop_trailing_empty_append_replicate h.last]
  have hne : ¬ lines.isEmpty = true := by
    obtain ⟨last, hlast, -⟩ := h.last
    rw [List.isEmpty_iff]
    rintro rfl
    cases hlast
  rw [tokens, hcontent, base_width_indented hblank h]
  exact if_neg hne

end TextBlock

namespace Token

open TextBlock

variable {blank : Char} {width : Nat} {lines below : List (List Char)}

/-! ## Lines below a block -/

/-- Lines that belong to a text block are passed over. -/
theorem scan_lines_passed (layout : Layout) (number passed : Nat)
    (above below : List (List Char)) :
    scanLines layout number (above.length + passed) (above ++ below) =
      scanLines layout (number + above.length) passed below := by
  induction above generalizing number with
  | nil => rw [List.length_nil, Nat.zero_add, List.nil_append, Nat.add_zero]
  | cons line above ih =>
      rw [List.length_cons, List.cons_append, Nat.add_right_comm, scanLines, ih,
        show number + 1 + above.length = number + (above.length + 1) by omega]

/-- It does not matter whether the blank lines in front are passed over as lines of a block. -/
theorem scan_lines_blank (layout : Layout) (number : Nat) (below : List (List Char)) :
    scanLines layout number (below.takeWhile Text.allBlank).length below =
      scanLines layout number 0 below := by
  induction below generalizing number with
  | nil => rfl
  | cons line below ih =>
      by_cases hblank : Text.allBlank line = true
      · rw [List.takeWhile_cons_of_pos hblank, List.length_cons, scanLines, ih, scanLines,
          if_pos hblank]
      · rw [List.takeWhile_cons_of_neg hblank, List.length_nil]

/-- Empty lines are passed over. -/
theorem scan_lines_replicate (layout : Layout) (number count : Nat) (below : List (List Char)) :
    scanLines layout number 0 (List.replicate count [] ++ below) =
      scanLines layout (number + count) 0 below := by
  induction count generalizing number with
  | zero => rfl
  | succ count ih =>
      rw [List.replicate_succ, List.cons_append, scanLines,
        if_pos (show Text.allBlank [] = true from rfl), ih,
        show number + 1 + count = number + (count + 1) by omega]

/-- The tokens of a paragraph whose text block holds the given lines at the given indentation. -/
def paragraph (width : Nat) (lines : List (List Char)) : List Token :=
  [⟨.tagName "p", ⟨1, 0⟩⟩, ⟨.dot, ⟨1, 1⟩⟩,
    ⟨.text (String.ofList (Text.joinWith ['\n'] lines)), ⟨2, width⟩⟩, ⟨.newline, ⟨1, 2⟩⟩]

/-- A paragraph with a text block, and the lines below. -/
theorem scan_lines_paragraph (hblank : blank = ' ' ∨ blank = '\t') (hwidth : 0 < width)
    (h : IsText lines) (hbelow : firstIsIndented below = false) :
    scanLines .start 1 0
        ("p.".toList :: (lines.map (indented (List.replicate width blank)) ++ below)) =
      (scanLines .start (2 + lines.length) 0 below).map (paragraph width lines ++ ·) := by
  have hcontent : Line.tokens 1 0 "p.".toList =
      .ok [⟨.tagName "p", ⟨1, 0⟩⟩, ⟨.dot, ⟨1, 1⟩⟩] := by decide +kernel
  have hpassed : (blockLines 0
      (lines.map (indented (List.replicate width blank)) ++ below)).length =
      (lines.map (indented (List.replicate width blank))).length +
        (below.takeWhile Text.allBlank).length := by
    rw [block_lines_indented hblank hwidth h hbelow, List.length_append, List.length_replicate,
      List.length_map]
  have hfirst : AtMargin "p.".toList := by decide
  rw [scanLines, hfirst.1, scan_line_start hfirst, hcontent]
  show (scanLines .start 2 (blockLines 0 _).length _ >>= fun more =>
    .ok ([⟨.tagName "p", ⟨1, 0⟩⟩, ⟨.dot, ⟨1, 1⟩⟩] ++ TextBlock.tokens 1 0 _ ++
      [⟨.newline, ⟨1, 2⟩⟩] ++ more)) = _
  rw [hpassed, scan_lines_passed, scan_lines_blank, tokens_indented hblank hwidth h hbelow,
    List.length_map]
  cases scanLines .start (2 + lines.length) 0 below <;> rfl

/-! ## Sources -/

/-- Lines in front of a source are lines of the whole. -/
theorem source_lines_below {above : List (List Char)}
    (h : ∀ line ∈ above, Print.isLineText line = true) (rest : String) :
    sourceLines (String.ofList (Text.joinWith ['\n'] (above ++ [rest.toList]))) =
      above ++ sourceLines rest := by
  rw [sourceLines, sourceLines, String.toList_ofList]
  induction above with
  | nil => rw [List.nil_append, List.nil_append, Text.joinWith, List.intercalate_singleton]
  | cons line above ih =>
      obtain ⟨hline, habove⟩ := List.forall_mem_cons.mp h
      obtain ⟨hfeed, hreturn⟩ := Print.is_line_text_iff.mp hline
      rw [List.cons_append, Text.join_with_cons (by simp), Text.unify_line_ends_append hreturn,
        Text.split_on_append_of_not_mem hfeed]
      show (Text.splitOn '\n' ('\n' :: Text.unifyLineEnds _)).modifyHead (line ++ ·) = _
      rw [Text.splitOn, if_pos rfl, ih habove, List.modifyHead_cons, List.append_nil,
        List.cons_append]

/-- The lines of a paragraph with a text block, and of empty lines below it. -/
def paragraphLines (indent : List Char) (lines : List (List Char)) (empties : Nat) :
    List (List Char) :=
  "p.".toList :: (lines.map (indented indent) ++ List.replicate empties [])

/-- A paragraph is written on lines. -/
theorem is_line_text_paragraph_lines (hblank : blank = ' ' ∨ blank = '\t')
    (h : ∀ line ∈ lines, Print.isLineText line = true) (width empties : Nat) :
    ∀ line ∈ paragraphLines (List.replicate width blank) lines empties,
      Print.isLineText line = true := by
  have hindent : Print.isLineText (List.replicate width blank) = true := by
    have hother {c : Char} (hc : c ≠ blank) : c ∉ List.replicate width blank :=
      fun hmem => hc (List.eq_of_mem_replicate hmem)
    rw [Print.is_line_text_iff]
    rcases hblank with rfl | rfl
    · exact ⟨hother (by decide), hother (by decide)⟩
    · exact ⟨hother (by decide), hother (by decide)⟩
  refine List.forall_mem_cons.mpr ⟨by decide, List.forall_mem_append.mpr ⟨?_, ?_⟩⟩
  · intro line hline
    obtain ⟨text, htext, rfl⟩ := List.mem_map.mp hline
    unfold indented
    split
    · rfl
    · rw [Print.is_line_text_append, hindent, h text htext]
      rfl
  · intro line hline
    rw [List.eq_of_mem_replicate hline]
    rfl

/-- A paragraph with empty lines below it, and other lines that start at the margin. -/
theorem scan_lines_paragraph_lines (hblank : blank = ' ' ∨ blank = '\t') (hwidth : 0 < width)
    (h : IsText lines) (hbelow : firstIsIndented below = false) (empties : Nat) :
    scanLines .start 1 0 (paragraphLines (List.replicate width blank) lines empties ++ below) =
      (scanLines .start (1 + (1 + lines.length + empties)) 0 below).map
        (paragraph width lines ++ ·) := by
  have hempty : firstIsIndented (List.replicate empties [] ++ below) = false := by
    induction empties with
    | zero => exact hbelow
    | succ empties ih =>
        rw [List.replicate_succ, List.cons_append, first_is_indented_cons_of_all_blank rfl]
        exact ih
  rw [paragraphLines, List.cons_append, List.append_assoc,
    scan_lines_paragraph hblank hwidth h hempty, scan_lines_replicate,
    show 2 + lines.length + empties = 1 + (1 + lines.length + empties) by omega]

/-- A text block keeps its text, and nothing of it leaks out.

Lines that start at the margin, whatever their other indentation, are indented by a run of spaces or
tabs and put below a tag with a dot. They come back as the text of the tag, with the empty lines
between them. Empty lines may follow, and then a source that starts at the margin: its tokens are
those that it has alone, on lines further down. If no source follows, then the whole ends on its
last line. -/
theorem of_source_text_block (h : IsText lines) (hblank : blank = ' ' ∨ blank = '\t')
    (hwidth : 0 < width) (empties : Nat) (name : Option String) :
    let above := paragraphLines (List.replicate width blank) lines empties
    (∀ rest tokens, startsIndented rest = false → ofSource rest name = .ok tokens →
      ofSource (String.ofList (Text.joinWith ['\n'] (above ++ [rest.toList]))) name =
        .ok (paragraph width lines ++ tokens.map (moveDown (1 + lines.length + empties)))) ∧
    ofSource (String.ofList (Text.joinWith ['\n'] above)) name =
      .ok (paragraph width lines ++ [⟨.endOfSource, ⟨1 + lines.length + empties, 0⟩⟩]) := by
  intro above
  have habove : ∀ line ∈ above, Print.isLineText line = true :=
    is_line_text_paragraph_lines hblank h.isLineText width empties
  constructor
  · intro rest tokens hrest htokens
    have hscan := Parser.scan_of_of_source htokens
    rw [scan] at hscan
    rw [ofSource, scan, source_lines_below habove,
      scan_lines_paragraph_lines hblank hwidth h hrest, scan_lines_add _ _ Nat.one_pos, hscan]
    rfl
  · have hlines : sourceLines (String.ofList (Text.joinWith ['\n'] above)) = above :=
      Print.source_lines_join_with (List.cons_ne_nil _ _) habove
    have hscan := @scan_lines_paragraph_lines _ _ _ [] hblank hwidth h rfl empties
    rw [List.append_nil] at hscan
    rw [ofSource, scan, hlines, hscan, scanLines, Nat.add_sub_cancel_left]
    rfl

/-- Two spaces stand in front of a text that starts with an empty line, has an empty line inside, a
line that is indented further with a tab, and a line with a dot at its end. A source with a blank
line and an indented tag follows. -/
theorem of_source_text_block_between :
    let lines := ["".toList, "one.".toList, "\ttwo ".toList, "".toList, "#three".toList]
    IsText lines ∧
    ofSource " \nq\n    b hi" none = .ok [⟨.tagName "q", ⟨2, 0⟩⟩, ⟨.newline, ⟨2, 1⟩⟩,
      ⟨.indent (some 4), ⟨3, 0⟩⟩, ⟨.tagName "b", ⟨3, 4⟩⟩, ⟨.text "hi", ⟨3, 6⟩⟩,
      ⟨.newline, ⟨3, 8⟩⟩, ⟨.outdent none, ⟨3, 0⟩⟩, ⟨.endOfSource, ⟨3, 0⟩⟩] ∧
    ofSource "p.\n\n  one.\n  \ttwo \n\n  #three\n\n \nq\n    b hi" none = .ok
      [⟨.tagName "p", ⟨1, 0⟩⟩, ⟨.dot, ⟨1, 1⟩⟩, ⟨.text "\none.\n\ttwo \n\n#three", ⟨2, 2⟩⟩,
        ⟨.newline, ⟨1, 2⟩⟩, ⟨.tagName "q", ⟨9, 0⟩⟩, ⟨.newline, ⟨9, 1⟩⟩,
        ⟨.indent (some 4), ⟨10, 0⟩⟩, ⟨.tagName "b", ⟨10, 4⟩⟩, ⟨.text "hi", ⟨10, 6⟩⟩,
        ⟨.newline, ⟨10, 8⟩⟩, ⟨.outdent none, ⟨10, 0⟩⟩, ⟨.endOfSource, ⟨10, 0⟩⟩] := by
  intro lines
  have htext : IsText lines := ⟨by decide, by decide, by decide, "#three".toList, rfl, by decide⟩
  have hrest : ofSource " \nq\n    b hi" none = .ok [⟨.tagName "q", ⟨2, 0⟩⟩,
      ⟨.newline, ⟨2, 1⟩⟩, ⟨.indent (some 4), ⟨3, 0⟩⟩, ⟨.tagName "b", ⟨3, 4⟩⟩,
      ⟨.text "hi", ⟨3, 6⟩⟩, ⟨.newline, ⟨3, 8⟩⟩, ⟨.outdent none, ⟨3, 0⟩⟩,
      ⟨.endOfSource, ⟨3, 0⟩⟩] := by decide +kernel
  have hsource : String.ofList (Text.joinWith ['\n']
      (paragraphLines (List.replicate 2 ' ') lines 1 ++ [" \nq\n    b hi".toList])) =
      "p.\n\n  one.\n  \ttwo \n\n  #three\n\n \nq\n    b hi" := by decide +kernel
  have htokens := (of_source_text_block htext (.inl rfl) (Nat.succ_pos 1) 1 none).1 _ _
    (by decide +kernel) hrest
  rw [hsource] at htokens
  exact ⟨htext, hrest, htokens.trans (congrArg Except.ok (by decide +kernel))⟩

end Token

end ElementMarkup
