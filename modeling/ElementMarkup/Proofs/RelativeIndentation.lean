import ElementMarkup.Proofs.MovedTrees
import ElementMarkup.Proofs.PlainLines
import ElementMarkup.Proofs.TextBlock

/-!
# Relative indentation

Only how lines are indented against each other matters. If the indentation of every line is written
with one character, and as many times as wide as before, the tokens of the source are the same, with
the widths of the levels multiplied and the content of each line further to the right. Main
statement: `of_source_reindent`. The two runs go side by side: the levels of the one layout are the
multiplied levels of the other (`Layout.scaled`), and a product compares as its factors do.
-/

namespace ElementMarkup

/-! ## Lines and their carriage returns -/

namespace Text

/-- The line without the carriage return at its end. -/
def dropReturn (line : List Char) : List Char :=
  if line.getLast? = some '\r' then line.dropLast else line

/-- The lines without the carriage returns that belong to line ends. There is none behind the last
line. -/
def dropReturns : List (List Char) → List (List Char)
  | [] => []
  | [last] => [last]
  | line :: next :: more => dropReturn line :: dropReturns (next :: more)

/-- A line in front of others loses its carriage return. -/
theorem drop_returns_cons {lines : List (List Char)} (h : lines ≠ []) (line : List Char) :
    dropReturns (line :: lines) = dropReturn line :: dropReturns lines := by
  obtain ⟨next, more, rfl⟩ := List.exists_cons_of_ne_nil h
  rfl

/-- Lines that are changed one by one lose their carriage returns before or after it. -/
theorem drop_returns_map {f : List Char → List Char}
    (h : ∀ line, dropReturn (f line) = f (dropReturn line)) (lines : List (List Char)) :
    dropReturns (lines.map f) = (dropReturns lines).map f := by
  induction lines with
  | nil => rfl
  | cons line lines ih =>
      cases lines with
      | nil => rfl
      | cons next more =>
          show dropReturn (f line) :: dropReturns ((next :: more).map f) =
            f (dropReturn line) :: (dropReturns (next :: more)).map f
          rw [h, ih]

/-- A carriage return at the end of a line is dropped. -/
theorem drop_return_append (line : List Char) : dropReturn (line ++ ['\r']) = line := by
  rw [dropReturn, if_pos (by simp), List.dropLast_concat]

/-- A character in front of a line that is not empty leaves its end as it is. -/
theorem drop_return_cons {line : List Char} {c : Char} (h : line = [] → c ≠ '\r') :
    dropReturn (c :: line) = c :: dropReturn line := by
  cases line with
  | nil => exact if_neg (by simpa using h rfl)
  | cons d line =>
      unfold dropReturn
      rw [List.getLast?_cons_cons, List.dropLast_cons_of_ne_nil (List.cons_ne_nil _ _)]
      split <;> rfl

/-- Lines are unified one by one. -/
theorem split_on_unify_line_ends (cs : List Char) :
    splitOn '\n' (unifyLineEnds cs) = dropReturns (splitOn '\n' cs) := by
  have hne (cs : List Char) : splitOn '\n' cs ≠ [] := by
    rw [split_on_eq]
    exact List.splitOn_ne_nil _ _
  have hfeed (cs : List Char) : splitOn '\n' ('\n' :: cs) = [] :: splitOn '\n' cs := by
    simp [splitOn]
  fun_induction unifyLineEnds cs with
  | case1 => rfl
  | case2 cs ih =>
      have hreturn : splitOn '\n' ('\r' :: '\n' :: cs) = ['\r'] :: splitOn '\n' cs := by
        simp [splitOn]
      rw [hreturn, hfeed, ih, drop_returns_cons (hne cs)]
      rfl
  | case3 c cs hnot ih =>
      by_cases hc : c = '\n'
      · subst hc
        rw [hfeed, hfeed, ih, drop_returns_cons (hne cs)]
        rfl
      · rw [split_on_cons_of_ne hc, split_on_cons_of_ne hc, ih]
        obtain ⟨first, more, hlines⟩ := List.exists_cons_of_ne_nil (hne cs)
        rw [hlines]
        cases more with
        | nil => rfl
        | cons next more =>
            have hfirst : first = [] → c ≠ '\r' := by
              rintro rfl rfl
              cases cs with
              | nil => cases hlines
              | cons d cs =>
                  by_cases hd : d = '\n'
                  · exact hnot cs rfl (hd ▸ rfl)
                  · rw [split_on_cons_of_ne hd] at hlines
                    obtain ⟨part, parts, hparts⟩ := List.exists_cons_of_ne_nil (hne cs)
                    rw [hparts] at hlines
                    cases hlines
            show (c :: dropReturn first) :: _ = dropReturn (c :: first) :: _
            rw [drop_return_cons hfirst]

end Text

/-! ## Lines and layouts -/

namespace Layout

variable {factor width number : Nat} {blank : Char} {line : List Char}

/-- The indentation of a line. -/
theorem take_indent_width (line : List Char) :
    line.take (indentWidth line) = line.takeWhile Line.isGap :=
  (List.prefix_iff_eq_take.mp (List.takeWhile_prefix _)).symm

/-- The content of a line. -/
theorem drop_indent_width (line : List Char) :
    line.drop (indentWidth line) = line.dropWhile Line.isGap := by
  have hwhole : line.take (indentWidth line) ++ line.drop (indentWidth line) =
      line.take (indentWidth line) ++ line.dropWhile Line.isGap := by
    rw [List.take_append_drop, take_indent_width, List.takeWhile_append_dropWhile]
  exact List.append_cancel_left hwhole

/-- The content of a line is not indented. -/
theorem indent_width_drop (line : List Char) : indentWidth (line.drop (indentWidth line)) = 0 := by
  refine TextBlock.indent_width_eq_zero ?_
  rw [drop_indent_width]
  cases hrest : line.dropWhile Line.isGap with
  | nil => rfl
  | cons c rest =>
      have hc := List.head_dropWhile_not Line.isGap (l := line) (by simp [hrest])
      simpa [hrest] using hc

/-- A line is blank exactly if its content is. -/
theorem all_blank_drop (line : List Char) :
    Text.allBlank (line.drop (indentWidth line)) = Text.allBlank line := by
  have hgap : (line.take (indentWidth line)).all Text.isBlank = true := by
    rw [take_indent_width, List.all_eq_true]
    intro c hc
    have hchar : c = ' ' ∨ c = '\t' := by simpa [Line.isGap] using List.mem_takeWhile_imp hc
    rcases hchar with rfl | rfl <;> decide
  conv_rhs => rw [← List.take_append_drop (indentWidth line) line]
  show _ = List.all _ _
  rw [List.all_append, hgap, Bool.true_and]
  rfl

/-- The line with its indentation written with the blank character, and `factor` times as wide. A
blank line has none. -/
def reindentLine (factor : Nat) (blank : Char) (line : List Char) : List Char :=
  if Text.allBlank line then line
  else List.replicate (factor * indentWidth line) blank ++ line.drop (indentWidth line)

section

variable (hblank : blank = ' ' ∨ blank = '\t')

include hblank

/-- The new indentation is `factor` times as wide. -/
theorem indent_width_reindent_line (hline : Text.allBlank line = false) (factor : Nat) :
    indentWidth (reindentLine factor blank line) = factor * indentWidth line := by
  rw [reindentLine, if_neg (by simp [hline]), TextBlock.indent_width_replicate_append hblank,
    indent_width_drop, Nat.add_zero]

/-- A line stays blank, and so does a line that is not. -/
theorem all_blank_reindent_line (factor : Nat) (line : List Char) :
    Text.allBlank (reindentLine factor blank line) = Text.allBlank line := by
  rw [reindentLine]
  split
  · rfl
  · rename_i hline
    have hcontent : Text.allBlank (line.drop (indentWidth line)) = false := by
      rw [all_blank_drop]
      simpa using hline
    rw [← TextBlock.indented_of_not_all_blank hcontent, TextBlock.all_blank_indented hblank,
      all_blank_drop]

omit hblank in
/-- A carriage return at the end of a line stays there. -/
theorem reindent_line_append_return (factor : Nat) (blank : Char) (line : List Char) :
    reindentLine factor blank (line ++ ['\r']) = reindentLine factor blank line ++ ['\r'] := by
  have hwidth : indentWidth (line ++ ['\r']) = indentWidth line := by
    unfold indentWidth
    rw [List.takeWhile_append]
    split
    · rename_i hall
      exact (congrArg List.length (List.append_nil line)).trans hall.symm
    · rfl
  have hle : indentWidth line ≤ line.length := (List.takeWhile_prefix _).length_le
  have hall : Text.allBlank (line ++ ['\r']) = Text.allBlank line :=
    (List.all_append ..).trans (Bool.and_true _)
  unfold reindentLine
  rw [hwidth, hall, List.drop_append_of_le_length hle]
  split
  · rfl
  · exact (List.append_assoc _ _ _).symm

/-- A line gets no other character than the one that indents it. -/
theorem mem_of_mem_reindent_line (hmem : '\n' ∈ reindentLine factor blank line) : '\n' ∈ line := by
  unfold reindentLine at hmem
  split at hmem
  · exact hmem
  · rcases List.mem_append.mp hmem with hindent | hcontent
    · have hchar := List.eq_of_mem_replicate hindent
      rcases hblank with rfl | rfl <;> cases hchar
    · exact List.mem_of_mem_drop hcontent

/-- A line without a carriage return at its end gets none. -/
theorem get_last?_reindent_line (hline : line.getLast? ≠ some '\r') (factor : Nat) :
    (reindentLine factor blank line).getLast? ≠ some '\r' := by
  unfold reindentLine
  split
  · exact hline
  · intro h
    rw [List.getLast?_append, Option.or_eq_some_iff] at h
    rcases h with hcontent | ⟨_, hindent⟩
    · rw [List.getLast?_drop] at hcontent
      split at hcontent
      · cases hcontent
      · exact hline hcontent
    · have hchar := List.eq_of_mem_replicate (List.mem_of_getLast? hindent)
      rcases hblank with rfl | rfl <;> cases hchar

end

/-- The layout with other levels and another character. -/
def scaled (factor : Nat) (blank : Char) (layout : Layout) : Layout :=
  ⟨layout.levels.map (factor * ·), layout.indentChar.bind fun _ => indentChar? blank⟩

/-- After an indentation its character is known. -/
theorem is_some_indent_char_accept {layout accepted : Layout} {c : Char} {gap : List Char}
    (hc : (indentChar? c).isSome = true) (h : layout.accept (c :: gap) = .ok accepted) :
    accepted.indentChar.isSome = true := by
  obtain ⟨char, hchar⟩ := Option.isSome_iff_exists.mp hc
  unfold accept at h
  rw [List.head?_cons, Option.bind_some, hchar] at h
  dsimp only at h
  split at h
  · cases h
  · split at h
    · cases h
      rfl
    · rename_i hexpected
      split at h
      · cases h
        rw [hexpected]
        rfl
      · cases h

/-- An indentation with one character is accepted if there was none before it or the same. -/
theorem accept_replicate {char : IndentChar} (hchar : indentChar? blank = some char)
    (hwidth : 0 < width) {layout : Layout} (h : ∀ expected ∈ layout.indentChar, expected = char) :
    layout.accept (List.replicate width blank) = .ok ⟨layout.levels, some char⟩ := by
  obtain ⟨width, rfl⟩ := Nat.exists_eq_succ_of_ne_zero hwidth.ne'
  have hany :
      (List.replicate (width + 1) blank).any (fun d => indentChar? d ≠ some char) = false := by
    rw [List.any_eq_false]
    intro d hd
    rw [List.eq_of_mem_replicate hd, hchar]
    simp
  have hhead : (List.replicate (width + 1) blank).head?.bind indentChar? = some char := hchar
  obtain ⟨levels, indentChar⟩ := layout
  unfold accept
  rw [hhead]
  dsimp only
  rw [if_neg (by rw [hany]; exact Bool.false_ne_true)]
  cases indentChar with
  | none => rfl
  | some expected =>
      cases h expected rfl
      exact if_pos rfl

/-- The new indentation is accepted where the old one was. -/
theorem accept_scaled (hblank : blank = ' ' ∨ blank = '\t') (hfactor : 0 < factor)
    {layout accepted : Layout}
    (h : layout.accept (line.take (indentWidth line)) = .ok accepted) :
    (layout.scaled factor blank).accept (List.replicate (factor * indentWidth line) blank) =
      .ok (accepted.scaled factor blank) := by
  have hlevels := Token.levels_accept h
  have hlength : (line.takeWhile Line.isGap).length = indentWidth line := rfl
  rw [take_indent_width] at h
  cases hgap : line.takeWhile Line.isGap with
  | nil =>
      rw [hgap] at h hlength
      cases h
      rw [← hlength]
      rfl
  | cons c gap =>
      rw [hgap] at h hlength
      have hc : c = ' ' ∨ c = '\t' := by
        have hmem : c ∈ line.takeWhile Line.isGap := hgap ▸ List.mem_cons_self
        simpa [Line.isGap] using List.mem_takeWhile_imp hmem
      obtain ⟨expected, hexpected⟩ := Option.isSome_iff_exists.mp
        (is_some_indent_char_accept (by rcases hc with rfl | rfl <;> rfl) h)
      have hchar : ∃ char, indentChar? blank = some char := by
        rcases hblank with rfl | rfl
        · exact ⟨.space, rfl⟩
        · exact ⟨.tab, rfl⟩
      obtain ⟨char, hchar⟩ := hchar
      have hwidth : 0 < factor * indentWidth line := by
        rw [← hlength]
        exact Nat.mul_pos hfactor (Nat.succ_pos _)
      rw [accept_replicate hchar hwidth, scaled, scaled, hlevels, hexpected, Option.bind_some,
        hchar]
      intro other hother
      obtain ⟨_, _, hother⟩ := Option.bind_eq_some_iff.mp hother
      exact Option.some.inj (hother.symm.trans hchar)

/-- Levels are closed as before. -/
theorem close_to_scaled (hfactor : 0 < factor) (place : Position → Position) (number width : Nat)
    (levels : List Nat) :
    closeTo number (factor * width) (levels.map (factor * ·)) =
      ((closeTo number width levels).1.map (Token.rescaled (factor * ·) place),
        (closeTo number width levels).2.map (factor * ·)) := by
  induction levels with
  | nil => rfl
  | cons level levels ih =>
      rw [List.map_cons, closeTo, closeTo, ih]
      simp only [Nat.mul_lt_mul_left hfactor]
      split
      · rfl
      · rfl

/-- The innermost of the new levels. -/
theorem headD_scaled (levels : List Nat) :
    (levels.map (factor * ·)).headD 0 = factor * levels.headD 0 := by
  cases levels <;> rfl

/-- A line changes the level as before. -/
theorem move_to_scaled (hfactor : 0 < factor) (place : Position → Position) {layout after : Layout}
    {changes : List Token} (h : layout.moveTo number width = .ok (changes, after)) :
    (layout.scaled factor blank).moveTo number (factor * width) =
      .ok (changes.map (Token.rescaled (factor * ·) place), after.scaled factor blank) := by
  unfold moveTo at h ⊢
  have hwidth : (layout.scaled factor blank).width = factor * layout.width :=
    headD_scaled layout.levels
  rw [hwidth]
  simp only [Nat.mul_lt_mul_left hfactor]
  split at h
  · rename_i hlt
    cases h
    rw [if_pos hlt]
    rfl
  · rename_i hlt
    rw [if_neg hlt]
    have hclose := close_to_scaled hfactor place number width layout.levels
    generalize closeTo number width layout.levels = closed at h hclose
    obtain ⟨tokens, levels⟩ := closed
    rw [scaled, hclose]
    dsimp only at h ⊢
    rw [headD_scaled]
    split at h
    · rename_i hhead
      cases h
      rw [if_pos (by rw [hhead])]
      rfl
    · cases h

/-- The source ends as before. -/
theorem finish_scaled (place : Position → Position) (layout : Layout) (number : Nat) :
    (layout.scaled factor blank).finish number =
      (layout.finish number).map (Token.rescaled (factor * ·) place) := by
  unfold finish scaled
  rw [List.map_append, List.map_map, List.map_map]
  rfl

end Layout

/-! ## Sources -/

namespace Token

open Layout (indentWidth reindentLine)

variable {factor number : Nat} {blank : Char} {place : Position → Position}
  {layout after : Layout} {line : List Char} {lines : List (List Char)}
  {changes content tokens : List Token}

/-- The source with the indentation of every line written with the blank character, and `factor`
times as wide. -/
def reindent (factor : Nat) (blank : Char) (source : String) : String :=
  String.ofList (Text.joinWith ['\n']
    ((Text.splitOn '\n' source.toList).map (reindentLine factor blank)))

/-- How much wider the indentation of a line gets. -/
def widening (factor : Nat) (line : List Char) : Int :=
  (factor * indentWidth line : Nat) - (indentWidth line : Nat)

/-- The place with the indentation of its line `factor` times as wide. -/
def widened (factor : Nat) (lines : List (List Char)) (position : Position) : Position :=
  ⟨position.line, position.column + widening factor (lines.getD (position.line.toNat - 1) [])⟩

/-- The places on the lines from the line `number` on are moved as far as their lines are
widened. -/
def Widens (factor : Nat) (place : Position → Position) (number : Nat) (lines : List (List Char)) :
    Prop :=
  ∀ index line, lines[index]? = some line → ∀ column,
    place ⟨(number + index : Nat), column⟩ =
      ⟨(number + index : Nat), column + widening factor line⟩

/-- The lines below are widened as well. -/
theorem Widens.tail (h : Widens factor place number (line :: lines)) :
    Widens factor place (number + 1) lines := by
  intro index other hother column
  have hbelow := h (index + 1) other hother column
  rw [← Nat.add_assoc, Nat.add_right_comm] at hbelow
  exact hbelow

/-- Every line is widened. -/
theorem widens_widened (factor : Nat) (lines : List (List Char)) :
    Widens factor (widened factor lines) 1 lines := by
  intro index line hline column
  have hindex : ((1 + index : Nat) : Int).toNat - 1 = index := by omega
  rw [widened, hindex, List.getD_eq_getElem?_getD, hline]
  rfl

/-- The first line is widened by a distance. -/
theorem Widens.head (h : Widens factor place number (line :: lines)) (hfactor : 0 < factor)
    (column : Int) :
    place ⟨number, column⟩ =
      ⟨number, column + (factor * indentWidth line - indentWidth line : Nat)⟩ := by
  have hle : indentWidth line ≤ factor * indentWidth line := Nat.le_mul_of_pos_left _ hfactor
  have hdistance : widening factor line = (factor * indentWidth line - indentWidth line : Nat) := by
    unfold widening
    omega
  rw [← hdistance]
  exact h 0 line rfl column

/-- What stands inside a line is moved. -/
theorem rescaled_of_is_inside {t : Token} (h : t.lexeme.isInside = true) (width : Nat → Nat)
    (place : Position → Position) : t.rescaled width place = ⟨t.lexeme, place t.position⟩ := by
  obtain ⟨lexeme, position⟩ := t
  cases lexeme with
  | indent _ => cases h
  | outdent _ => cases h
  | endOfSource => cases h
  | _ => rfl

/-- Moved tokens open a text block if the tokens do. -/
theorem opens_block_map (width : Nat → Nat) (place : Position → Position) (tokens : List Token) :
    opensBlock (tokens.map (Token.rescaled width place)) = opensBlock tokens := by
  unfold opensBlock
  rw [List.getLast?_map]
  cases tokens.getLast? with
  | none => rfl
  | some t =>
      obtain ⟨lexeme, position⟩ := t
      cases lexeme <;> rfl

section

variable (hblank : blank = ' ' ∨ blank = '\t') (hfactor : 0 < factor)

include hblank hfactor

/-- A line that is indented otherwise gives the moved tokens. -/
theorem PlainLine.reindent (h : PlainLine layout number line changes content after)
    (hline : Text.allBlank line = false)
    (hplace : Widens factor place number (line :: lines)) :
    PlainLine (layout.scaled factor blank) number (reindentLine factor blank line)
      (changes.map (Token.rescaled (factor * ·) place))
      (content.map (Token.rescaled (factor * ·) place)) (after.scaled factor blank) := by
  obtain ⟨⟨accepted, haccept, hmove⟩, hreads, hclosed⟩ := h
  have hwidth := Layout.indent_width_reindent_line hblank hline factor
  have heq : reindentLine factor blank line =
      List.replicate (factor * indentWidth line) blank ++ line.drop (indentWidth line) :=
    if_neg (by simp [hline])
  have hle : indentWidth line ≤ factor * indentWidth line := Nat.le_mul_of_pos_left _ hfactor
  have hcontent : content.map (Token.rescaled (factor * ·) place) =
      content.map (Token.move number (factor * indentWidth line - indentWidth line)) := by
    refine List.map_congr_left fun t ht => ?_
    have hinside := (is_content_tokens hreads).is_inside _ (List.mem_map_of_mem ht)
    have hnumber := Line.line_of_mem_tokens hreads ht
    obtain ⟨lexeme, ⟨other, column⟩⟩ := t
    obtain rfl : other = number := hnumber
    rw [rescaled_of_is_inside hinside]
    exact congrArg (Token.mk lexeme) (hplace.head hfactor column)
  refine ⟨⟨accepted.scaled factor blank, ?_, ?_⟩, ?_, ?_⟩
  · rw [hwidth, heq, List.take_left' List.length_replicate]
    exact Layout.accept_scaled hblank hfactor haccept
  · rw [hwidth]
    exact Layout.move_to_scaled hfactor place hmove
  · have hread := Line.tokens_move_of_ok hreads number
      (factor * indentWidth line - indentWidth line)
    rw [Nat.add_sub_cancel' hle] at hread
    rw [hwidth, heq, List.drop_left' List.length_replicate, hread, hcontent]
  · rw [opens_block_map, hclosed]

/-- Lines that are indented otherwise give the moved tokens. -/
theorem Plain.reindent (h : Plain layout number lines tokens)
    (hplace : Widens factor place number lines) :
    Plain (layout.scaled factor blank) number (lines.map (reindentLine factor blank))
      (tokens.map (Token.rescaled (factor * ·) place)) := by
  induction h with
  | finish layout number =>
      rw [← Layout.finish_scaled]
      exact .finish _ number
  | blank hline _ ih =>
      exact .blank ((Layout.all_blank_reindent_line hblank factor _).trans hline) (ih hplace.tail)
  | @line layout after number line lines changes content tokens hline hplain _ ih =>
      have hend : lineEnd number (reindentLine factor blank line) =
          (lineEnd number line).rescaled (factor * ·) place := by
        have hle : indentWidth line ≤ line.length := (List.takeWhile_prefix _).length_le
        have hwider : indentWidth line ≤ factor * indentWidth line :=
          Nat.le_mul_of_pos_left _ hfactor
        have hlength : (reindentLine factor blank line).length =
            line.length + (factor * indentWidth line - indentWidth line) := by
          rw [reindentLine, if_neg (by simp [hline]), List.length_append, List.length_replicate,
            List.length_drop]
          omega
        refine congrArg (Token.mk .newline) (Eq.trans ?_ (hplace.head hfactor line.length).symm)
        rw [hlength]
        rfl
      rw [List.map_append, List.map_append, List.map_append, List.map_singleton, ← hend]
      exact .line ((Layout.all_blank_reindent_line hblank factor _).trans hline)
        (hplain.reindent hblank hfactor hline hplace) (ih hplace.tail)

omit hfactor in
/-- The lines of a source are indented one by one. -/
theorem source_lines_reindent (factor : Nat) (source : String) :
    sourceLines (reindent factor blank source) =
      (sourceLines source).map (reindentLine factor blank) := by
  have hreturn (line : List Char) : Text.dropReturn (reindentLine factor blank line) =
      reindentLine factor blank (Text.dropReturn line) := by
    by_cases hlast : line.getLast? = some '\r'
    · obtain ⟨body, rfl⟩ := List.getLast?_eq_some_iff.mp hlast
      rw [Layout.reindent_line_append_return, Text.drop_return_append, Text.drop_return_append]
    · rw [Text.dropReturn, Text.dropReturn, if_neg hlast,
        if_neg (Layout.get_last?_reindent_line hblank hlast factor)]
  have hfeed : ∀ line ∈ (Text.splitOn '\n' source.toList).map (reindentLine factor blank),
      '\n' ∉ line := by
    intro line hline hmem
    obtain ⟨other, hother, rfl⟩ := List.mem_map.mp hline
    exact Text.not_mem_of_mem_split_on hother (Layout.mem_of_mem_reindent_line hblank hmem)
  have hne : (Text.splitOn '\n' source.toList).map (reindentLine factor blank) ≠ [] := by
    rw [Ne, List.map_eq_nil_iff, Text.split_on_eq]
    exact List.splitOn_ne_nil _ _
  rw [sourceLines, sourceLines, Text.split_on_unify_line_ends, Text.split_on_unify_line_ends,
    reindent, String.toList_ofList, Text.split_on_join_with hne hfeed,
    Text.drop_returns_map hreturn]

end

/-- Only relative indentation matters. If a source has tokens, and no dot among them, and the
indentation of every line that is not blank is written with spaces or with tabs, and `factor` times
as wide, then the new source has the same tokens: the widths of the levels are multiplied, what
stands in a line is moved as far as its indentation is widened, and nothing else changes. However
other templates are loaded, the tree of the tokens is the same with its nodes moved as well, so that
it is the same up to places. Or there is no tree, for the same reason on the same line. -/
theorem of_source_reindent {source : String} {name : Option String}
    (h : ofSource source name = .ok tokens) (hdot : ∀ t ∈ tokens, t.lexeme ≠ .dot)
    (hfactor : 1 ≤ factor) (hblank : blank = ' ' ∨ blank = '\t') :
    let place := widened factor (sourceLines source)
    let others := tokens.map (Token.rescaled (factor * ·) place)
    ofSource (reindent factor blank source) name = .ok others ∧
    (∀ load, Attempt.Mirrors (Markup.moved place)
      (Parser.parse ⟨name, some source, load⟩ tokens)
      (Parser.parse ⟨name, some (reindent factor blank source), load⟩ others)) ∧
    ∀ tree : Markup, Print.unplaced (tree.moved place) = Print.unplaced tree := by
  intro place others
  refine ⟨?_, ?_, Markup.unplaced_moved place⟩
  · have hplain := (plain_of_scan_lines (Parser.scan_of_of_source h) hdot).reindent hblank hfactor
      (widens_widened factor (sourceLines source))
    have hscan := hplain.scan_lines_eq
    rw [← source_lines_reindent hblank] at hscan
    rw [ofSource, scan]
    show Except.mapError _ (scanLines (Layout.start.scaled factor blank) 1 0 _) = _
    rw [hscan]
    rfl
  · intro load
    exact @Parser.mirrors_parse ⟨name, some source, load⟩ (some (reindent factor blank source)) _
      place (fun _ => rfl) tokens

/-- Tabs become twice as many spaces, across a blank line and two levels that end at once. -/
theorem of_source_reindent_tabs :
    ofSource "ul\n\tli a\r\n \n\t\t\tb\np" none = .ok [⟨.tagName "ul", ⟨1, 0⟩⟩,
      ⟨.newline, ⟨1, 2⟩⟩, ⟨.indent (some 1), ⟨2, 0⟩⟩, ⟨.tagName "li", ⟨2, 1⟩⟩, ⟨.text "a", ⟨2, 4⟩⟩,
      ⟨.newline, ⟨2, 5⟩⟩, ⟨.indent (some 3), ⟨4, 0⟩⟩, ⟨.tagName "b", ⟨4, 3⟩⟩, ⟨.newline, ⟨4, 4⟩⟩,
      ⟨.outdent (some 0), ⟨5, 0⟩⟩, ⟨.outdent (some 0), ⟨5, 0⟩⟩, ⟨.tagName "p", ⟨5, 0⟩⟩,
      ⟨.newline, ⟨5, 1⟩⟩, ⟨.endOfSource, ⟨5, 0⟩⟩] ∧
    ofSource "ul\n  li a\r\n \n      b\np" none = .ok [⟨.tagName "ul", ⟨1, 0⟩⟩,
      ⟨.newline, ⟨1, 2⟩⟩, ⟨.indent (some 2), ⟨2, 0⟩⟩, ⟨.tagName "li", ⟨2, 2⟩⟩, ⟨.text "a", ⟨2, 5⟩⟩,
      ⟨.newline, ⟨2, 6⟩⟩, ⟨.indent (some 6), ⟨4, 0⟩⟩, ⟨.tagName "b", ⟨4, 6⟩⟩, ⟨.newline, ⟨4, 7⟩⟩,
      ⟨.outdent (some 0), ⟨5, 0⟩⟩, ⟨.outdent (some 0), ⟨5, 0⟩⟩, ⟨.tagName "p", ⟨5, 0⟩⟩,
      ⟨.newline, ⟨5, 1⟩⟩, ⟨.endOfSource, ⟨5, 0⟩⟩] := by
  have htokens : ofSource "ul\n\tli a\r\n \n\t\t\tb\np" none = .ok [⟨.tagName "ul", ⟨1, 0⟩⟩,
      ⟨.newline, ⟨1, 2⟩⟩, ⟨.indent (some 1), ⟨2, 0⟩⟩, ⟨.tagName "li", ⟨2, 1⟩⟩, ⟨.text "a", ⟨2, 4⟩⟩,
      ⟨.newline, ⟨2, 5⟩⟩, ⟨.indent (some 3), ⟨4, 0⟩⟩, ⟨.tagName "b", ⟨4, 3⟩⟩, ⟨.newline, ⟨4, 4⟩⟩,
      ⟨.outdent (some 0), ⟨5, 0⟩⟩, ⟨.outdent (some 0), ⟨5, 0⟩⟩, ⟨.tagName "p", ⟨5, 0⟩⟩,
      ⟨.newline, ⟨5, 1⟩⟩, ⟨.endOfSource, ⟨5, 0⟩⟩] := by decide +kernel
  have hsource : reindent 2 ' ' "ul\n\tli a\r\n \n\t\t\tb\np" =
      "ul\n  li a\r\n \n      b\np" := by decide +kernel
  obtain ⟨hothers, -⟩ := @of_source_reindent 2 ' ' _ _ none htokens (by decide +kernel)
    (by decide) (.inl rfl)
  rw [hsource] at hothers
  exact ⟨htokens, hothers.trans (congrArg Except.ok (by decide +kernel))⟩

end Token

end ElementMarkup
