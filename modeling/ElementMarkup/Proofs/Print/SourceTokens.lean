import ElementMarkup.Proofs.Print.LineTokens
import ElementMarkup.Token.Lexer

/-!
# The tokens of written markup

The reader opens a level when a line is deeper than the one above it, but closes levels only when a
later line or the end of the source shows that they are over. So what the lines of a forest are read
as depends on the lines below them. `ClosesTo` states this dependence: from any depth, the lines
first close the levels down to their own and then go on as if these had been closed before. The
main statement is `scan_source`: written markup is read as its lexemes and the end of the source.
-/

namespace ElementMarkup.Print

open Token

/-! ## Lines -/

/-- The content of a line that starts with no blank and is read as the given lexemes, wherever it
stands. -/
structure ReadsAs (content : List Char) (lexemes : List Lexeme) : Prop where
  starts : ∃ c cs, content = c :: cs ∧ Text.isBlank c = false
  reads : ∀ line column, ∃ tokens, Line.tokens line column content = .ok tokens ∧
    shapes tokens = lexemes
  noDot : lexemes.getLast? ≠ some .dot

/-- The levels that are open at a depth, the innermost first. -/
def levels (unit : Nat) : Nat → List Nat
  | 0 => []
  | depth + 1 => unit * (depth + 1) :: levels unit depth

/-- The layout has as many levels open as the depth says, and no tab has been seen. -/
def AtDepth (unit depth : Nat) (layout : Layout) : Prop :=
  layout.levels = levels unit depth ∧ layout.indentChar ≠ some .tab

/-- The lines are read as the given lexemes from a layout. -/
def Scans (layout : Layout) (lines : List (List Char)) (lexemes : List Lexeme) : Prop :=
  ∀ number, ∃ tokens, scanLines layout number 0 lines = .ok tokens ∧ shapes tokens = lexemes

/-- From any depth, the lines close the levels down to the given one and are then read as the given
lexemes. -/
def ClosesTo (unit level : Nat) (lines : List (List Char)) (lexemes : List Lexeme) : Prop :=
  ∀ depth layout, level ≤ depth → AtDepth unit depth layout →
    Scans layout lines (List.replicate (depth - level) (.outdent none) ++ lexemes)

/-- The lines are read as the given lexemes both after deeper levels, which they close, and right
below a line of the level above, where they open their own. -/
structure StartsAt (unit level : Nat) (lines : List (List Char)) (lexemes : List Lexeme) :
    Prop where
  closes : ClosesTo unit level lines lexemes
  opens : ∀ outer layout, level = outer + 1 → AtDepth unit outer layout →
    Scans layout lines (.indent none :: lexemes)

variable {unit : Nat}

/-- The width of the innermost level. -/
theorem AtDepth.width_eq {depth : Nat} {layout : Layout} (h : AtDepth unit depth layout) :
    layout.width = unit * depth := by
  unfold Layout.width
  rw [h.1]
  cases depth <;> rfl

/-- Closing the levels that are wider than a level leaves those up to it. -/
theorem close_to_levels (hunit : 0 < unit) {level depth : Nat} (hle : level ≤ depth)
    (number : Nat) :
    ∃ tokens, Layout.closeTo number (unit * level) (levels unit depth) =
        (tokens, levels unit level) ∧
      shapes tokens = List.replicate (depth - level) (.outdent none) := by
  induction depth with
  | zero =>
      obtain rfl := Nat.le_zero.mp hle
      exact ⟨[], rfl, rfl⟩
  | succ depth ih =>
      rw [show levels unit (depth + 1) = unit * (depth + 1) :: levels unit depth from rfl,
        Layout.closeTo.eq_2]
      by_cases heq : level = depth + 1
      · subst heq
        rw [if_neg (Nat.lt_irrefl _)]
        exact ⟨[], rfl, by simp⟩
      · have hlt : level ≤ depth := by omega
        obtain ⟨tokens, htokens, hshapes⟩ := ih hlt
        rw [if_pos (Nat.mul_lt_mul_of_pos_left (by omega) hunit), htokens]
        refine ⟨_, rfl, ?_⟩
        rw [shapes_cons, hshapes, Nat.succ_sub hlt, List.replicate_succ]
        rfl

/-- Moving to a level that is open closes the deeper ones. -/
theorem move_to_of_le (hunit : 0 < unit) {level depth : Nat} {layout : Layout}
    (h : AtDepth unit depth layout) (hle : level ≤ depth) (number : Nat) :
    ∃ tokens, layout.moveTo number (unit * level) =
        .ok (tokens, { layout with levels := levels unit level }) ∧
      shapes tokens = List.replicate (depth - level) (.outdent none) := by
  obtain ⟨tokens, htokens, hshapes⟩ := close_to_levels hunit hle number
  have hhead : (levels unit level).headD 0 = unit * level := by
    cases level <;> rfl
  refine ⟨tokens, ?_, hshapes⟩
  unfold Layout.moveTo
  rw [h.width_eq, if_neg (Nat.not_lt.mpr (Nat.mul_le_mul_left _ hle)), h.1, htokens]
  simp only
  rw [if_pos hhead]

/-- Moving one level deeper opens that level. -/
theorem move_to_succ (hunit : 0 < unit) {level : Nat} {layout : Layout}
    (h : AtDepth unit level layout) (number : Nat) :
    layout.moveTo number (unit * (level + 1)) =
      .ok ([⟨.indent (some (unit * (level + 1))), ⟨number, 0⟩⟩],
        { layout with levels := levels unit (level + 1) }) := by
  unfold Layout.moveTo
  rw [h.width_eq, if_pos (Nat.mul_lt_mul_of_pos_left (by omega) hunit), h.1]
  rfl

/-- The spaces in front of a line are accepted, and no tab has been seen after them either. -/
theorem accept_spaces {depth : Nat} {layout : Layout} (h : AtDepth unit depth layout) (n : Nat) :
    ∃ layout', layout.accept (List.replicate n ' ') = .ok layout' ∧
      AtDepth unit depth layout' := by
  cases n with
  | zero => exact ⟨layout, rfl, h⟩
  | succ n =>
      cases hchar : layout.indentChar with
      | none =>
          refine ⟨{ layout with indentChar := some .space }, ?_, h.1, by simp⟩
          simp [Layout.accept, Layout.indentChar?, List.replicate_succ, hchar]
      | some char =>
          cases char with
          | space =>
              refine ⟨layout, ?_, h⟩
              simp [Layout.accept, Layout.indentChar?, List.replicate_succ, hchar]
          | tab => exact absurd hchar h.2

/-- The indentation of a line is measured up to its content. -/
theorem indent_width_indented {content : List Char} {lexemes : List Lexeme}
    (h : ReadsAs content lexemes) (level : Nat) :
    Layout.indentWidth (indented unit level content) = unit * level := by
  obtain ⟨c, cs, rfl, hc⟩ := h.starts
  have hgap : Line.isGap c = false := by
    by_contra hgap
    simp only [Line.isGap, Bool.not_eq_false, Bool.or_eq_true, beq_iff_eq] at hgap
    rcases hgap with rfl | rfl <;> revert hc <;> decide
  unfold Layout.indentWidth indented
  rw [List.takeWhile_append_of_pos, List.takeWhile_cons_of_neg (by simp [hgap]),
    List.append_nil, List.length_replicate]
  intro d hd
  rw [List.eq_of_mem_replicate hd]
  rfl

/-- A line of written markup opens no text block. -/
theorem opens_block_eq_false {tokens : List Token} {lexemes : List Lexeme}
    (hshapes : shapes tokens = lexemes) (hdot : lexemes.getLast? ≠ some .dot) :
    opensBlock tokens = false := by
  unfold opensBlock
  cases hlast : tokens.getLast? with
  | none => rfl
  | some t =>
      by_contra h
      simp only [Option.any_some, Bool.not_eq_false, beq_iff_eq] at h
      apply hdot
      rw [← hshapes]
      unfold shapes
      rw [List.getLast?_map, hlast, Option.map_some, h]
      rfl

/-- What a line gives besides the tokens for its change of indentation does not depend on the
layout before it. -/
theorem scan_line_indented {content : List Char} {lexemes : List Lexeme}
    (h : ReadsAs content lexemes) (unit level number : Nat) (below : List (List Char)) :
    ∃ tokens, shapes tokens = lexemes ++ [.newline] ∧
      ∀ layout accepted moved indentation,
        layout.accept (List.replicate (unit * level) ' ') = .ok accepted →
        accepted.moveTo number (unit * level) = .ok (indentation, moved) →
        scanLine layout number (indented unit level content) below =
          .ok (indentation ++ tokens, moved, 0) := by
  obtain ⟨tokens, htokens, hshapes⟩ := h.reads number (unit * level)
  refine ⟨tokens ++ [⟨.newline, ⟨number, (indented unit level content).length⟩⟩], ?_, ?_⟩
  · rw [shapes_append, hshapes]
    rfl
  · intro layout accepted moved indentation haccept hmove
    have htake : (indented unit level content).take (unit * level) =
        List.replicate (unit * level) ' ' :=
      List.take_left' List.length_replicate
    have hdrop : (indented unit level content).drop (unit * level) = content :=
      List.drop_left' List.length_replicate
    unfold scanLine
    simp only [indent_width_indented h, htake, hdrop, haccept, hmove, htokens, bind, Except.bind,
      opens_block_eq_false hshapes h.noDot]
    simp [pure, Except.pure]

/-- A line is read as the tokens for its change of indentation, its own lexemes and the end of the
line, and then the lines below it are read. -/
theorem scan_lines_indented {content : List Char} {lexemes : List Lexeme}
    (h : ReadsAs content lexemes) (level number : Nat) (below : List (List Char)) :
    ∃ tokens, shapes tokens = lexemes ++ [.newline] ∧
      ∀ layout accepted moved indentation more,
        layout.accept (List.replicate (unit * level) ' ') = .ok accepted →
        accepted.moveTo number (unit * level) = .ok (indentation, moved) →
        scanLines moved (number + 1) 0 below = .ok more →
        scanLines layout number 0 (indented unit level content :: below) =
          .ok (indentation ++ tokens ++ more) := by
  obtain ⟨tokens, hshapes, hscan⟩ := scan_line_indented h unit level number below
  refine ⟨tokens, hshapes, ?_⟩
  intro layout accepted moved indentation more haccept hmove hmore
  obtain ⟨c, cs, rfl, hc⟩ := h.starts
  have hblank : Text.allBlank (indented unit level (c :: cs)) = false :=
    Text.all_blank_eq_false (List.mem_append_right _ List.mem_cons_self) hc
  rw [scanLines, hblank]
  simp only [Bool.false_eq_true, ↓reduceIte, hscan _ _ _ _ haccept hmove, hmore]
  rfl

/-- A line is read at its level if the lines below it are read from there. -/
theorem starts_at_line (hunit : 0 < unit) {content : List Char} {lexemes after : List Lexeme}
    {level : Nat} {below : List (List Char)} (h : ReadsAs content lexemes)
    (hbelow : ∀ layout, AtDepth unit level layout → Scans layout below after) :
    StartsAt unit level (indented unit level content :: below)
      (lexemes ++ .newline :: after) := by
  constructor
  · -- The line closes the deeper levels and stays at its own.
    intro depth layout hle hdepth number
    obtain ⟨accepted, haccept, haccepted⟩ := accept_spaces hdepth (unit * level)
    obtain ⟨closing, hmove, hclosing⟩ := move_to_of_le hunit haccepted hle number
    obtain ⟨tokens, hshapes, hscan⟩ := scan_lines_indented h level number below
    obtain ⟨more, hmore, hafter⟩ :=
      hbelow { accepted with levels := levels unit level } ⟨rfl, haccepted.2⟩ (number + 1)
    refine ⟨closing ++ tokens ++ more, hscan _ _ _ _ _ haccept hmove hmore, ?_⟩
    simp only [shapes_append, hclosing, hshapes, hafter, List.append_assoc, List.cons_append,
      List.nil_append]
  · -- The line opens its level right below the one above.
    rintro outer layout rfl hdepth number
    obtain ⟨accepted, haccept, haccepted⟩ := accept_spaces hdepth (unit * (outer + 1))
    obtain ⟨tokens, hshapes, hscan⟩ := scan_lines_indented h (outer + 1) number below
    obtain ⟨more, hmore, hafter⟩ :=
      hbelow { accepted with levels := levels unit (outer + 1) } ⟨rfl, haccepted.2⟩ (number + 1)
    refine ⟨_, hscan _ _ _ _ _ haccept (move_to_succ hunit haccepted number) hmore, ?_⟩
    simp only [shapes_append, shapes_cons, shape, hshapes, hafter, List.append_assoc,
      List.cons_append, List.nil_append]

/-! ## Forests -/

/-- Lines that close levels down to an outer one close the level inside it as well. -/
theorem ClosesTo.succ {level : Nat} {below : List (List Char)} {after : List Lexeme}
    (h : ClosesTo unit level below after) :
    ClosesTo unit (level + 1) below (.outdent none :: after) := by
  intro depth layout hle hdepth
  have hscans := h depth layout (by omega) hdepth
  rw [show depth - level = depth - (level + 1) + 1 by omega, List.replicate_succ',
    List.append_assoc] at hscans
  exact hscans

/-- From their own level there is nothing to close. -/
theorem ClosesTo.scans {level : Nat} {below : List (List Char)} {after : List Lexeme}
    {layout : Layout} (h : ClosesTo unit level below after)
    (hlayout : AtDepth unit level layout) : Scans layout below after := by
  have hscans := h level layout (Nat.le_refl _) hlayout
  rwa [Nat.sub_self] at hscans

/-- The line of a node with the lines of the nodes inside it. -/
theorem starts_at_node (hunit : 0 < unit) {content : List Char} {lexemes after : List Lexeme}
    {level : Nat} {below : List (List Char)} {children : List Markup}
    (h : ReadsAs content lexemes) (hbelow : ClosesTo unit level below after)
    (hchildren : children ≠ [] →
      StartsAt unit (level + 1) (linesOf unit (level + 1) children ++ below)
        (lexemesOf children ++ .outdent none :: after)) :
    StartsAt unit level
      (indented unit level content :: linesOf unit (level + 1) children ++ below)
      (lexemes ++ .newline :: nestedLexemes children ++ after) := by
  rw [List.append_assoc, List.cons_append, List.cons_append]
  refine starts_at_line hunit h fun layout hlayout => ?_
  cases children with
  | nil => exact hbelow.scans hlayout
  | cons child children =>
      have hscans := (hchildren (List.cons_ne_nil _ _)).opens level layout rfl hlayout
      rwa [show nestedLexemes (child :: children) ++ after = .indent none ::
        (lexemesOf (child :: children) ++ .outdent none :: after) by
          simp [nestedLexemes, lexemesOf]]

/-- The line of a tag is read as its name and its attributes. -/
theorem reads_as_tag_head {name : String} {as : List Attribute}
    (hname : isTagName name.toList = true) (has : as.all isAttribute = true) :
    ReadsAs (tagHead name.toList as)
      (.tagName name :: as.map fun a => .attributePair a.name a.value) where
  starts := by
    cases hcs : name.toList with
    | nil =>
        rw [hcs] at hname
        cases hname
    | cons c cs =>
        have hc : c ∈ name.toList := by
          rw [hcs]
          exact List.mem_cons_self
        exact ⟨c, _, rfl, is_blank_of_is_tag_char (is_tag_char_of_mem hname hc)⟩
  reads line column := by
    have htokens := tokens_tag_head hname has line column
    rwa [String.ofList_toList] at htokens
  noDot := by
    intro hlast
    have hmem := List.mem_of_getLast? hlast
    simp at hmem

/-- The line of a text is read as the text. -/
theorem reads_as_bar_text (value : String) :
    ReadsAs ('|' :: ' ' :: value.toList) [.text value] where
  starts := ⟨'|', _, rfl, by decide⟩
  reads line column := ⟨_, tokens_bar_text value.toList line column, by
    rw [String.ofList_toList]
    rfl⟩
  noDot := by simp

/-- The line of a directive is read as the directive. -/
theorem reads_as_directive_text {d : Directive} {argument : String} (hne : argument.toList ≠ [])
    (htrim : Text.trim argument.toList = argument.toList) :
    ReadsAs (directiveText d argument.toList) [d.lexeme argument] where
  starts := by
    cases d <;> exact ⟨_, _, rfl, by decide⟩
  reads line column := ⟨_, tokens_directive_text hne htrim line column, by
    rw [String.ofList_toList]
    cases d <;> rfl⟩
  noDot := by
    cases d <;> simp [Directive.lexeme]

/-- A block name has no blanks around it. -/
theorem trim_block_name {name : List Char} (h : Parser.isBlockName name = true) :
    name ≠ [] ∧ Text.trim name = name := by
  simp only [Parser.isBlockName, Bool.and_eq_true, List.all_eq_true, Bool.not_eq_true',
    List.isEmpty_eq_false_iff] at h
  have hblank (c : Char) (hc : c ∈ name) : Text.isBlank c = false :=
    Text.is_blank_of_is_word_or_hyphen (h.2 c hc)
  exact ⟨h.1, Text.trim_eq_self (fun c hc => hblank c (List.mem_of_mem_head? hc))
    (fun c hc => hblank c (List.mem_of_mem_getLast? hc))⟩

/-- A path has no blanks around it. -/
theorem trim_path {path : List Char} (h : isPath path = true) :
    path ≠ [] ∧ Text.trim path = path := by
  simp only [isPath, Bool.and_eq_true, Bool.not_eq_true', List.isEmpty_eq_false_iff,
    beq_iff_eq] at h
  exact ⟨h.1.1, h.2⟩

mutual

/-- The lines of a printable node are read as its lexemes. -/
theorem starts_at_lines (hunit : 0 < unit) (node : Markup) (h : isPrintable node = true)
    {level : Nat} {below : List (List Char)} {after : List Lexeme}
    (hbelow : ClosesTo unit level below after) :
    StartsAt unit level (lines unit level node ++ below) (lexemes node ++ after) := by
  cases node with
  | tag position name attributes blockPosition children =>
      simp only [isPrintable, Bool.and_eq_true] at h
      obtain ⟨⟨⟨hname, hattributes⟩, -⟩, hchildren⟩ := h
      exact starts_at_node hunit (reads_as_tag_head hname hattributes) hbelow
        fun hne => starts_at_lines_of hunit children hchildren hne hbelow.succ
  | text position value =>
      exact starts_at_line hunit (reads_as_bar_text value) fun layout => hbelow.scans
  | namedBlock position name nodes =>
      simp only [isPrintable, Bool.and_eq_true] at h
      obtain ⟨hne, htrim⟩ := trim_block_name h.1
      exact starts_at_node hunit (reads_as_directive_text (d := .blockName) hne htrim) hbelow
        fun hne => starts_at_lines_of hunit nodes h.2 hne hbelow.succ
  | included position path tree =>
      cases path with
      | none => cases h
      | some path =>
          obtain ⟨hne, htrim⟩ := trim_path h
          exact starts_at_line hunit (reads_as_directive_text (d := .includePath) hne htrim)
            fun layout => hbelow.scans
  | block _ _ => cases h
  | extended _ _ _ => cases h
  | foreign _ _ => cases h

/-- The lines of a list of printable nodes are read as their lexemes in order. -/
theorem starts_at_lines_of (hunit : 0 < unit) (nodes : List Markup)
    (h : arePrintable nodes = true) (hne : nodes ≠ []) {level : Nat}
    {below : List (List Char)} {after : List Lexeme} (hbelow : ClosesTo unit level below after) :
    StartsAt unit level (linesOf unit level nodes ++ below) (lexemesOf nodes ++ after) := by
  cases nodes with
  | nil => exact absurd rfl hne
  | cons node nodes =>
      simp only [arePrintable, Bool.and_eq_true] at h
      unfold linesOf lexemesOf
      rw [List.append_assoc, List.append_assoc]
      refine starts_at_lines hunit node h.1 ?_
      cases nodes with
      | nil => exact hbelow
      | cons next nodes =>
          exact (starts_at_lines_of hunit (next :: nodes) h.2 (List.cons_ne_nil _ _) hbelow).closes

end

/-! ## Sources -/

/-- The line of a tag fits on a line. -/
theorem is_line_text_tag_head {name : List Char} {as : List Attribute}
    (hname : isTagName name = true) (has : as.all isAttribute = true) :
    isLineText (tagHead name as) = true := by
  have hchars : isLineText name = true :=
    is_line_text_of_not_blank fun c hc => is_blank_of_is_tag_char (is_tag_char_of_mem hname hc)
  unfold tagHead
  rw [is_line_text_append, is_line_text_append, is_line_text_cons, hchars,
    is_line_text_attributes_text has]
  rfl

/-- The line of a directive fits on a line if its argument does. -/
theorem is_line_text_directive_text (d : Directive) {argument : List Char}
    (h : isLineText argument = true) : isLineText (directiveText d argument) = true := by
  unfold directiveText
  rw [is_line_text_append, is_line_text_cons, h]
  cases d <;> decide

mutual

/-- The lines of a printable node hold no line ends. -/
theorem is_line_text_of_mem_lines (node : Markup) (h : isPrintable node = true) {level : Nat}
    {line : List Char} (hmem : line ∈ lines unit level node) : isLineText line = true := by
  cases node with
  | tag position name attributes blockPosition children =>
      simp only [isPrintable, Bool.and_eq_true] at h
      obtain ⟨⟨⟨hname, hattributes⟩, -⟩, hchildren⟩ := h
      rcases List.mem_cons.mp hmem with rfl | hmem
      · rw [is_line_text_indented]
        exact is_line_text_tag_head hname hattributes
      · exact is_line_text_of_mem_lines_of children hchildren hmem
  | text position value =>
      rw [List.mem_singleton.mp hmem, is_line_text_indented]
      show isLineText ('|' :: ' ' :: value.toList) = true
      rw [is_line_text_cons, is_line_text_cons, show isLineText value.toList = true from h]
      rfl
  | namedBlock position name nodes =>
      simp only [isPrintable, Parser.isBlockName, Bool.and_eq_true, List.all_eq_true] at h
      rcases List.mem_cons.mp hmem with rfl | hmem
      · rw [is_line_text_indented]
        exact is_line_text_directive_text _ (is_line_text_of_not_blank fun c hc =>
          Text.is_blank_of_is_word_or_hyphen (h.1.2 c hc))
      · exact is_line_text_of_mem_lines_of nodes h.2 hmem
  | included position path tree =>
      cases path with
      | none => cases h
      | some path =>
          simp only [isPrintable, isPath, Bool.and_eq_true] at h
          rw [List.mem_singleton.mp hmem, is_line_text_indented]
          exact is_line_text_directive_text _ h.1.2
  | block _ _ => cases h
  | extended _ _ _ => cases h
  | foreign _ _ => cases h

/-- The lines of printable nodes hold no line ends. -/
theorem is_line_text_of_mem_lines_of (nodes : List Markup) (h : arePrintable nodes = true)
    {level : Nat} {line : List Char} (hmem : line ∈ linesOf unit level nodes) :
    isLineText line = true := by
  cases nodes with
  | nil => cases hmem
  | cons node nodes =>
      simp only [arePrintable, Bool.and_eq_true] at h
      rcases List.mem_append.mp hmem with hmem | hmem
      · exact is_line_text_of_mem_lines node h.1 hmem
      · exact is_line_text_of_mem_lines_of nodes h.2 hmem

end

/-- A printable node has at least one line. -/
theorem lines_ne_nil {node : Markup} (h : isPrintable node = true) (level : Nat) :
    lines unit level node ≠ [] := by
  cases node with
  | tag | text | namedBlock | included => exact List.cons_ne_nil _ _
  | block _ _ => cases h
  | extended _ _ _ => cases h
  | foreign _ _ => cases h

/-- Lines that are joined by line ends are read as they are. -/
theorem source_lines_join_with {lines : List (List Char)} (hne : lines ≠ [])
    (htext : ∀ line ∈ lines, isLineText line = true) :
    sourceLines (String.ofList (Text.joinWith ['\n'] lines)) = lines := by
  unfold sourceLines
  rw [String.toList_ofList, Text.unify_line_ends_eq_self]
  · exact Text.split_on_join_with hne fun line hmem => (is_line_text_iff.mp (htext line hmem)).1
  · intro hreturn
    rcases Text.mem_join_with hreturn with hsep | ⟨line, hmem, hc⟩
    · exact absurd hsep (by decide)
    · exact (is_line_text_iff.mp (htext line hmem)).2 hc

/-- The lines of a source are those that were written, unless there were none. -/
theorem source_lines_source {nodes : List Markup} (h : arePrintable nodes = true)
    (hne : nodes ≠ []) : sourceLines (source unit nodes) = linesOf unit 0 nodes := by
  have hlines : linesOf unit 0 nodes ≠ [] := by
    cases nodes with
    | nil => exact absurd rfl hne
    | cons node nodes =>
        simp only [arePrintable, Bool.and_eq_true] at h
        exact List.append_ne_nil_of_left_ne_nil (lines_ne_nil h.1 0) _
  exact source_lines_join_with hlines fun line => is_line_text_of_mem_lines_of nodes h

/-- At the end of the source the open levels are closed. -/
theorem closes_to_end : ClosesTo unit 0 [] [.endOfSource] := by
  intro depth layout _ hdepth number
  refine ⟨_, rfl, ?_⟩
  have hlength (n : Nat) : (levels unit n).length = n := by
    induction n with
    | zero => rfl
    | succ n ih => rw [levels, List.length_cons, ih]
  unfold Layout.finish
  rw [hdepth.1, shapes_append]
  unfold shapes
  rw [List.map_map]
  show List.map (fun _ => Lexeme.outdent none) (levels unit depth) ++ [.endOfSource] = _
  rw [List.map_const', hlength, Nat.sub_zero]

/-- Written markup is read as its lexemes and the end of the source. -/
theorem scan_source (hunit : 0 < unit) {nodes : List Markup} (h : arePrintable nodes = true) :
    ∃ tokens, scan (source unit nodes) = .ok tokens ∧
      shapes tokens = lexemesOf nodes ++ [.endOfSource] := by
  have hstart : AtDepth unit 0 Layout.start := ⟨rfl, by decide⟩
  unfold scan
  cases nodes with
  | nil => exact ⟨_, rfl, rfl⟩
  | cons node nodes =>
      have hlines := (starts_at_lines_of hunit _ h (List.cons_ne_nil _ _) closes_to_end).closes
      rw [source_lines_source h (List.cons_ne_nil _ _)]
      rw [List.append_nil] at hlines
      exact hlines.scans hstart 1

end ElementMarkup.Print
