import ElementMarkup.Proofs.LineEnds
import ElementMarkup.Proofs.Positions

/-!
# The quoted line

A problem with a line of markup is shown with that line. The line is counted as markup is read, at
line feeds, but it is looked up among the lines of quoted source, which are cut at more characters.
`pieces` says what becomes of one line of markup there, and `displayLines_joinWith` that quoted
source is made of the pieces of all lines in order. Main statement: `of_source_quoted_line`, which
line is shown for a problem and when it is the line at fault.
-/

namespace ElementMarkup

namespace Text

/-! ## Lines of quoted source -/

/-- The lines of quoted source that a line of markup with its line end is cut into. -/
def pieces (line : List Char) : List (List Char) :=
  displayLines (line ++ ['\n'])

/-- What stands before the first line break. -/
def firstPiece (cs : List Char) : List Char :=
  cs.takeWhile fun c => !isLineBreak c

/-- A line without line breaks, a carriage return at its end apart: that one and the line feed
after it are one line end of quoted source. -/
def isWhole : List Char → Bool
  | [] => true
  | ['\r'] => true
  | c :: cs => !isLineBreak c && isWhole cs

/-- How a character is read that is not a carriage return with a line feed behind it. -/
theorem display_lines_from_cons {c : Char} {cs : List Char}
    (h : ¬ (c = '\r' ∧ cs.head? = some '\n')) (start : List Char) :
    displayLinesFrom start (c :: cs) =
      if isLineBreak c then start.reverse :: displayLinesFrom [] cs
      else displayLinesFrom (c :: start) cs := by
  rw [displayLinesFrom]
  rintro tail rfl rfl
  exact h ⟨rfl, rfl⟩

/-- Source up to a line feed and source after it are quoted separately. -/
theorem display_lines_from_append (start line rest : List Char) :
    displayLinesFrom start (line ++ '\n' :: rest) =
      displayLinesFrom start (line ++ ['\n']) ++ displayLines rest := by
  fun_induction displayLinesFrom start line with
  | case1 start hempty => simp [displayLinesFrom, displayLines, isLineBreak, lineBreaks]
  | case2 start hne => simp [displayLinesFrom, displayLines, isLineBreak, lineBreaks]
  | case3 start cs ih => simp [displayLinesFrom, ih]
  | case4 start c cs hpair hbreak ih =>
      by_cases hreturn : c = '\r' ∧ cs = []
      · -- A carriage return at the very end takes the line feed behind it along.
        obtain ⟨rfl, rfl⟩ := hreturn
        simp [displayLinesFrom, displayLines]
      · have hhead (tail : List Char) : ¬ (c = '\r' ∧ (cs ++ '\n' :: tail).head? = some '\n') := by
          cases cs <;> simp_all
        rw [List.cons_append, List.cons_append, display_lines_from_cons (hhead rest),
          display_lines_from_cons (hhead []), if_pos hbreak, if_pos hbreak, ih, List.cons_append]
  | case5 start c cs hpair hbreak ih =>
      have hhead (tail : List Char) : ¬ (c = '\r' ∧ (cs ++ '\n' :: tail).head? = some '\n') := by
        rintro ⟨rfl, -⟩
        exact hbreak (by decide)
      rw [List.cons_append, List.cons_append, display_lines_from_cons (hhead rest),
        display_lines_from_cons (hhead []), if_neg hbreak, if_neg hbreak, ih]

/-- The first line of quoted source goes up to the first line break. -/
theorem exists_display_lines_from_eq (start : List Char) {cs : List Char} (h : cs ≠ []) :
    ∃ rest, displayLinesFrom start cs = (start.reverse ++ firstPiece cs) :: rest := by
  fun_induction displayLinesFrom start cs with
  | case1 start hempty => exact absurd rfl h
  | case2 start hne => exact absurd rfl h
  | case3 start cs ih =>
      have hfirst : firstPiece ('\r' :: '\n' :: cs) = [] := rfl
      exact ⟨displayLinesFrom [] cs, by rw [hfirst, List.append_nil]⟩
  | case4 start c cs hpair hbreak ih =>
      have hfirst : firstPiece (c :: cs) = [] := by simp [firstPiece, hbreak]
      exact ⟨displayLinesFrom [] cs, by rw [hfirst, List.append_nil]⟩
  | case5 start c cs hpair hbreak ih =>
      have hfirst : firstPiece (c :: cs) = c :: firstPiece cs := by simp [firstPiece, hbreak]
      cases cs with
      | nil => exact ⟨[], by simp [displayLinesFrom, firstPiece, hbreak]⟩
      | cons d cs =>
          obtain ⟨rest, hrest⟩ := ih (List.cons_ne_nil d cs)
          exact ⟨rest, by rw [hrest, hfirst, List.reverse_cons, List.append_assoc]; rfl⟩

/-- A line feed behind a line stays out of its first piece. -/
theorem first_piece_append_newline (line rest : List Char) :
    firstPiece (line ++ '\n' :: rest) = firstPiece line := by
  induction line with
  | nil => rfl
  | cons c line ih =>
      cases hbreak : isLineBreak c with
      | true => simp [firstPiece, hbreak]
      | false => simpa [firstPiece, hbreak] using ih

/-- A line is cut into its first piece and perhaps more. -/
theorem exists_pieces_eq (line : List Char) : ∃ rest, pieces line = firstPiece line :: rest := by
  have hne : line ++ ['\n'] ≠ [] := by simp
  obtain ⟨rest, hrest⟩ := exists_display_lines_from_eq [] hne
  exact ⟨rest, by rw [pieces, displayLines, hrest, first_piece_append_newline]; rfl⟩

/-- Exactly the lines without inner line breaks stay in one piece. -/
theorem length_display_lines_from_eq_one_iff (start line : List Char) :
    (displayLinesFrom start (line ++ ['\n'])).length = 1 ↔ isWhole line = true := by
  have hmore (cs : List Char) : displayLinesFrom [] (cs ++ ['\n']) ≠ [] := by
    obtain ⟨rest, hrest⟩ := exists_pieces_eq cs
    rw [show displayLinesFrom [] (cs ++ ['\n']) = _ from hrest]
    exact List.cons_ne_nil _ _
  fun_induction isWhole line generalizing start with
  | case1 => simp [displayLinesFrom, isLineBreak, lineBreaks]
  | case2 => simp [displayLinesFrom]
  | case3 c cs hlone ih =>
      by_cases hpair : c = '\r' ∧ (cs ++ ['\n']).head? = some '\n'
      · obtain ⟨rfl, hhead⟩ := hpair
        cases cs with
        | nil => exact absurd rfl (hlone rfl)
        | cons d cs =>
            obtain rfl : d = '\n' := by simpa using hhead
            simp [displayLinesFrom, isLineBreak, lineBreaks, hmore cs]
      · rw [List.cons_append, display_lines_from_cons hpair]
        cases hbreak : isLineBreak c with
        | true => simp [hmore cs]
        | false => simpa using ih (c :: start)

/-- Source starts with the pieces of its lines; of a line that is not empty, the first piece
follows. -/
theorem exists_display_lines_join_with (above : List (List Char)) {line : List Char}
    (h : line ≠ []) (below : List (List Char)) :
    ∃ rest, displayLines (joinWith ['\n'] (above ++ line :: below)) =
      above.flatMap pieces ++ firstPiece line :: rest := by
  induction above with
  | nil =>
      cases below with
      | nil =>
          obtain ⟨rest, hrest⟩ := exists_display_lines_from_eq [] h
          exact ⟨rest, by simpa [displayLines, joinWith] using hrest⟩
      | cons next below =>
          have hne : line ++ '\n' :: joinWith ['\n'] (next :: below) ≠ [] := by simp
          obtain ⟨rest, hrest⟩ := exists_display_lines_from_eq [] hne
          rw [first_piece_append_newline] at hrest
          refine ⟨rest, ?_⟩
          rw [List.nil_append, join_with_cons (List.cons_ne_nil next below)]
          exact hrest
  | cons first above ih =>
      obtain ⟨rest, hrest⟩ := ih
      refine ⟨rest, ?_⟩
      rw [List.cons_append, join_with_cons (by simp), displayLines, display_lines_from_append,
        hrest, List.flatMap_cons, List.append_assoc]
      rfl

/-- Lines have at least as many pieces as there are lines, and more if one of them is cut. -/
theorem length_flat_map_pieces (lines : List (List Char)) :
    lines.length ≤ (lines.flatMap pieces).length ∧
      ((lines.flatMap pieces).length = lines.length ↔ ∀ line ∈ lines, isWhole line = true) := by
  induction lines with
  | nil => simp
  | cons line lines ih =>
      obtain ⟨rest, hrest⟩ := exists_pieces_eq line
      have hpos : 1 ≤ (pieces line).length := by simp [hrest]
      have hone := length_display_lines_from_eq_one_iff [] line
      rw [show displayLinesFrom [] (line ++ ['\n']) = pieces line from rfl] at hone
      simp only [List.flatMap_cons, List.length_append, List.length_cons, List.forall_mem_cons]
      rw [← ih.2, ← hone]
      omega

/-- A line is its own first piece if it has no line breaks. -/
theorem first_piece_eq_self_iff {line : List Char} :
    firstPiece line = line ↔ ∀ c ∈ line, isLineBreak c = false := by
  rw [firstPiece, List.takeWhile_eq_self_iff]
  simp

end Text

/-! ## Messages and reports -/

namespace SyntaxFault

/-- The message shows the text as the line with the given number. -/
def Quotes (fault : SyntaxFault) (number : Nat) (shown : List Char) : Prop :=
  ∃ column : Nat, fault.message =
    "Syntax Error: " ++ fault.problem.message ++ "\n  --> " ++ fault.location ++ "\n   |\n" ++
      Terminal.paddedNumber number ++ " | " ++ String.ofList shown ++
      "\n   | " ++ Snippet.blanks column ++ "^"

/-- A line of a report that is not the one at fault. -/
def plainLine (line : Int × String) : String :=
  " " ++ Terminal.paddedNumber line.1 ++ " | " ++ line.2

/-- Lines of source in a frame, one of them marked with an angle bracket, and a caret below. -/
def framedLines (before : List (Int × String)) (number : Nat) (shown : List Char)
    (after : List (Int × String)) (column : Int) : List String :=
  ["   |"] ++ before.map plainLine ++
    [">" ++ Terminal.paddedNumber number ++ " | " ++ String.ofList shown] ++
    after.map plainLine ++ ["   |" ++ " " ++ (Snippet.blanks column ++ "^"), "   |"]

/-- The report without colours marks one line of source only, the one with the given number, and
shows the text as that line. -/
def Marks (fault : SyntaxFault) (stage : Stage) (number : Nat) (shown : List Char) : Prop :=
  ∃ (column : Nat) (before after : List (Int × String)) (advice : List String),
    (∀ line ∈ before ++ after, line.1 ≠ number) ∧
    (TemplateFault.badSyntax stage fault).report false =
      Text.joinStrings "\n"
        (["PT-PAR-001" ++ ": " ++ fault.problem.message, "  --> " ++ fault.location] ++
          framedLines before number shown after column ++ advice)

variable {source : String} {n : Nat} {shown : List Char}

/-- The texts with their numbers, counted from one. -/
theorem get_elem?_numbered {texts : List String} {i : Nat} {line : Int × String} :
    (((List.range texts.length).map fun (i : Nat) => (i : Int) + 1).zip texts)[i]? = some line ↔
      line.1 = ((i + 1 : Nat) : Int) ∧ texts[i]? = some line.2 := by
  rw [List.getElem?_zip_eq_some, List.getElem?_map, Option.map_eq_some_iff]
  constructor
  · rintro ⟨⟨j, hj, hnumber⟩, htext⟩
    obtain ⟨-, rfl⟩ : i < texts.length ∧ i = j := by
      simpa [List.getElem?_eq_some_iff] using hj
    exact ⟨by omega, htext⟩
  · rintro ⟨hnumber, htext⟩
    obtain ⟨hi, -⟩ := List.getElem?_eq_some_iff.mp htext
    exact ⟨⟨i, List.getElem?_range hi, by omega⟩, htext⟩

/-- The lines around a line of source are numbered, and only that one has its number. -/
theorem exists_lines_of_source (hshown : (Text.displayLines source.toList)[n]? = some shown)
    (column : Option Int) :
    ∃ before after, (∀ line ∈ before ++ after, line.1 ≠ ((n + 1 : Nat) : Int)) ∧
      (Snippet.ofSource source (n + 1 : Nat) 2 column).lines =
        before ++ (((n + 1 : Nat) : Int), String.ofList shown) :: after := by
  obtain ⟨hn, -⟩ := List.getElem?_eq_some_iff.mp hshown
  unfold Snippet.ofSource
  set all := (Text.displayLines source.toList).map String.ofList with hall
  set start := (max 0 (((n + 1 : Nat) : Int) - 1 - 2)).toNat with hstart
  set stop := (min (all.length : Int) (((n + 1 : Nat) : Int) + 2)).toNat with hstop
  have hlength : all.length = (Text.displayLines source.toList).length := by simp [hall]
  have hbounds : start ≤ n ∧ n < stop := by omega
  have htext : all[n]? = some (String.ofList shown) := by simp [hall, hshown]
  set lines := ((((List.range all.length).map fun (i : Nat) => (i : Int) + 1).zip all).take
    stop).drop start with hlines
  have hnumber {i : Nat} {line : Int × String} (h : lines[i]? = some line) :
      line.1 = ((start + i + 1 : Nat) : Int) := by
    rw [hlines, List.getElem?_drop, List.getElem?_take, Option.ite_none_right_eq_some] at h
    exact (get_elem?_numbered.mp h.2).1
  have hat : lines[n - start]? = some (((n + 1 : Nat) : Int), String.ofList shown) := by
    rw [hlines, List.getElem?_drop, Nat.add_sub_cancel' hbounds.1,
      List.getElem?_take_of_lt hbounds.2]
    exact get_elem?_numbered.mpr ⟨rfl, htext⟩
  obtain ⟨hk, hline⟩ := List.getElem?_eq_some_iff.mp hat
  refine ⟨lines.take (n - start), lines.drop (n - start + 1), ?_, ?_⟩
  · intro line hmem
    rcases List.mem_append.mp hmem with hmem | hmem
    · obtain ⟨i, hi⟩ := List.mem_iff_getElem?.mp hmem
      rw [List.getElem?_take, Option.ite_none_right_eq_some] at hi
      have := hnumber hi.2
      omega
    · obtain ⟨i, hi⟩ := List.mem_iff_getElem?.mp hmem
      rw [List.getElem?_drop] at hi
      have := hnumber hi
      omega
  · rw [← hline, ← List.drop_eq_getElem_cons hk, List.take_append_drop]

/-- The lines of source around a line, that one being marked, and the caret below them. -/
theorem exists_format_of_source (hshown : (Text.displayLines source.toList)[n]? = some shown)
    (column : Int) :
    ∃ before after : List (Int × String),
      (∀ line ∈ before ++ after, line.1 ≠ ((n + 1 : Nat) : Int)) ∧
      (Snippet.ofSource source (n + 1 : Nat) 2 (some column)).format false =
        Text.joinStrings "\n" (framedLines before (n + 1) shown after column) := by
  obtain ⟨before, after, hnumbers, hlines⟩ := exists_lines_of_source hshown (some column)
  refine ⟨before, after, hnumbers, ?_⟩
  have hother {part : List (Int × String)} (hpart : ∀ line ∈ part, line ∈ before ++ after) :
      (part.map fun line =>
        Terminal.sourceLine false line.1 line.2 (line.1 == ((n + 1 : Nat) : Int))) =
        part.map plainLine := by
    refine List.map_congr_left fun line hmem => ?_
    have hnumber : (line.1 == ((n + 1 : Nat) : Int)) = false :=
      beq_eq_false_iff_ne.mpr (hnumbers line (hpart line hmem))
    rw [hnumber]
    rfl
  have hmap : ((Snippet.ofSource source (n + 1 : Nat) 2 (some column)).lines.map fun line =>
      Terminal.sourceLine false line.1 line.2 (line.1 == ((n + 1 : Nat) : Int))) =
      before.map plainLine ++
        [">" ++ Terminal.paddedNumber (n + 1 : Nat) ++ " | " ++ String.ofList shown] ++
        after.map plainLine := by
    rw [hlines, List.map_append, List.map_cons, hother fun _ h => List.mem_append_left _ h,
      hother fun _ h => List.mem_append_right _ h, beq_self_eq_true, List.append_assoc]
    rfl
  calc (Snippet.ofSource source (n + 1 : Nat) 2 (some column)).format false
      = Text.joinStrings "\n" ("   |" :: ((Snippet.ofSource source (n + 1 : Nat) 2
          (some column)).lines.map fun line =>
            Terminal.sourceLine false line.1 line.2 (line.1 == ((n + 1 : Nat) : Int))) ++
          ["   |" ++ " " ++ (Snippet.blanks column ++ "^")] ++ ["   |"]) := rfl
    _ = Text.joinStrings "\n" (framedLines before (n + 1) shown after column) := by
        rw [hmap]
        simp only [framedLines, List.append_assoc, List.cons_append, List.nil_append]

/-- Joined strings may stand among others that are joined the same way. -/
theorem join_strings_append_cons {separator : String} {first middle : List String}
    (hfirst : first ≠ []) (hmiddle : middle ≠ []) (last : List String) :
    Text.joinStrings separator (first ++ Text.joinStrings separator middle :: last) =
      Text.joinStrings separator (first ++ middle ++ last) := by
  simp only [Text.joinStrings]
  rw [List.append_assoc, String.intercalate_append_of_ne_nil hfirst (List.cons_ne_nil _ _),
    String.intercalate_append_of_ne_nil hfirst (by simp [hmiddle])]
  cases last with
  | nil => simp
  | cons next last =>
      rw [String.intercalate_cons_cons,
        String.intercalate_append_of_ne_nil hmiddle (List.cons_ne_nil _ _)]

/-- The source of a fault on one of its lines is shown. -/
theorem shown_source?_eq (problem : Problem) (column : Option Int) (name : Option String)
    (hne : source ≠ "") :
    shownSource? ⟨problem, some ((n + 1 : Nat) : Int), column, name, some source⟩ =
      some (source, ((n + 1 : Nat) : Int)) := by
  have hline : ¬ ((n + 1 : Nat) : Int) = 0 := by omega
  simp only [shownSource?, hne, hline, or_self, if_false]

/-- The message shows the line of quoted source with the number of the fault. -/
theorem quotes_of_get_elem? (hshown : (Text.displayLines source.toList)[n]? = some shown)
    (hne : source ≠ "") (problem : Problem) (column : Nat) (name : Option String) :
    Quotes ⟨problem, some ((n + 1 : Nat) : Int), some (column : Int), name, some source⟩
      (n + 1) shown := by
  refine ⟨column, ?_⟩
  have hpos : ¬ ((n + 1 : Nat) : Int) < 1 := by omega
  unfold message quotedLine
  rw [shown_source?_eq problem (some (column : Int)) name hne]
  simp only [if_neg hpos, Int.toNat_natCast, Nat.add_sub_cancel, hshown, String.append_assoc]

/-- The report marks the line of quoted source with the number of the fault. -/
theorem marks_of_get_elem? (hshown : (Text.displayLines source.toList)[n]? = some shown)
    (hne : source ≠ "") (problem : Problem) (column : Nat) (name : Option String)
    (stage : Stage) :
    Marks ⟨problem, some ((n + 1 : Nat) : Int), some (column : Int), name, some source⟩ stage
      (n + 1) shown := by
  obtain ⟨before, after, hnumbers, hformat⟩ := exists_format_of_source hshown column
  refine ⟨column, before, after,
    TemplateFault.adviceLines false problem.suggestion?, hnumbers, ?_⟩
  have hframe : framedLines before (n + 1) shown after column ≠ [] := by simp [framedLines]
  simp only [TemplateFault.report, TemplateFault.placeLines, shown_source?_eq _ _ _ hne, hformat]
  exact join_strings_append_cons (List.cons_ne_nil _ [_]) hframe _

end SyntaxFault

/-! ## The line at fault -/

namespace Token

/-- Which line is shown for a problem with a source: of all the pieces of the lines above the line
at fault and the first piece of that line, the one in its place. If no line above is cut, that is
the line at fault up to its first line break. If one is cut, a piece of a line above is shown. -/
theorem of_source_quoted_line {source : String} {name : Option String} {stage : Stage}
    {fault : SyntaxFault} (h : ofSource source name = .error (.template (.badSyntax stage fault))) :
    ∃ (above : List (List Char)) (line : List Char) (below : List (List Char)) (shown : List Char),
      sourceLines source = above ++ line :: below ∧
      fault.line = some ((above.length + 1 : Nat) : Int) ∧
      fault.Quotes (above.length + 1) shown ∧
      fault.Marks stage (above.length + 1) shown ∧
      (above.flatMap Text.pieces ++ [Text.firstPiece line])[above.length]? = some shown ∧
      ((∀ l ∈ above, Text.isWhole l = true) →
        (shown = line ↔ ∀ c ∈ line, Text.isLineBreak c = false)) ∧
      ((∃ l ∈ above, Text.isWhole l = false) → ∃ l ∈ above, shown ∈ Text.pieces l) := by
  obtain ⟨number, column, problem, hscan, rfl⟩ := malformed_of_of_source h
  obtain ⟨line, hpos, hline, hblank, -⟩ := on_line_of_scan hscan
  obtain ⟨above, below, hlines, hlength⟩ :
      ∃ above below, sourceLines source = above ++ line :: below ∧ above.length + 1 = number := by
    obtain ⟨hlt, hget⟩ := List.getElem?_eq_some_iff.mp hline
    refine ⟨(sourceLines source).take (number - 1), (sourceLines source).drop (number - 1 + 1),
      ?_, ?_⟩
    · rw [← hget, ← List.drop_eq_getElem_cons hlt, List.take_append_drop]
    · rw [List.length_take_of_le (le_of_lt hlt)]
      exact Nat.sub_add_cancel hpos
  subst hlength
  have hne : line ≠ [] := by
    rintro rfl
    cases hblank
  have hjoined :
      Text.unifyLineEnds source.toList = Text.joinWith ['\n'] (above ++ line :: below) := by
    rw [← hlines, sourceLines, Text.join_with_split_on]
  obtain ⟨rest, hdisplay⟩ := Text.exists_display_lines_join_with above hne below
  have hcount := Text.length_flat_map_pieces above
  set before := above.flatMap Text.pieces with hbefore
  obtain ⟨shown, hshown⟩ :
      ∃ shown, (before ++ [Text.firstPiece line])[above.length]? = some shown := by
    refine Option.isSome_iff_exists.mp ?_
    simp
    omega
  have hquoted : (Text.displayLines (String.ofList (Text.unifyLineEnds source.toList)).toList)[
      above.length]? = some shown := by
    rw [String.toList_ofList, hjoined, hdisplay, List.append_cons,
      List.getElem?_append_left (List.getElem?_eq_some_iff.mp hshown).1, hshown]
  have hsource : String.ofList (Text.unifyLineEnds source.toList) ≠ "" := by
    intro hempty
    rw [hempty] at hquoted
    cases hquoted
  refine ⟨above, line, below, shown, hlines, rfl,
    SyntaxFault.quotes_of_get_elem? hquoted hsource problem column name,
    SyntaxFault.marks_of_get_elem? hquoted hsource problem column name stage, hshown, ?_, ?_⟩
  · intro hwhole
    have heq : above.length = before.length := (hcount.2.mpr hwhole).symm
    rw [heq, List.getElem?_concat_length] at hshown
    obtain rfl : Text.firstPiece line = shown := Option.some.inj hshown
    exact Text.first_piece_eq_self_iff
  · rintro ⟨l, hmem, hcut⟩
    have hlt : above.length < before.length := by
      refine lt_of_le_of_ne hcount.1 fun heq => ?_
      rw [hcount.2.mp heq.symm l hmem] at hcut
      cases hcut
    rw [List.getElem?_append_left hlt] at hshown
    exact List.mem_flatMap.mp (List.mem_of_getElem? hshown)

/-- A carriage return before the end of a line above does not move the line that is shown. -/
theorem of_source_quoted_line_return :
    ∃ fault, ofSource "| one\r\r\n!" none = .error (.template (.badSyntax .lexing fault)) ∧
      fault.Quotes 2 ['!'] ∧ fault.Marks .lexing 2 ['!'] := by
  have hfault : ofSource "| one\r\r\n!" none = .error (.template (.badSyntax .lexing
      ⟨.unexpectedText "!", some 2, some 0, none, some "| one\r\n!"⟩)) := by decide +kernel
  refine ⟨_, hfault, ?_⟩
  obtain ⟨above, line, below, shown, hlines, hline, hquotes, hmarks, hshown, -, -⟩ :=
    of_source_quoted_line hfault
  have hlength : above.length = 1 := by
    have := Option.some.inj hline
    omega
  have hsource : sourceLines "| one\r\r\n!" = ["| one\r".toList, ['!']] := by decide +kernel
  obtain ⟨first, rfl⟩ := List.length_eq_one_iff.mp hlength
  cases hsource.symm.trans hlines
  cases hshown
  exact ⟨hquotes, hmarks⟩

/-- A carriage return inside a line above does: the second line of the source is at fault, and the
second half of the first one is shown. -/
theorem of_source_quoted_line_moved :
    ∃ fault, ofSource "| one\rtwo\n!" none = .error (.template (.badSyntax .lexing fault)) ∧
      fault.line = some 2 ∧ (sourceLines "| one\rtwo\n!")[1]? = some ['!'] ∧
      fault.message =
        "Syntax Error: Unexpected text '!'\n  --> <template>:2:0\n   |\n  2 | two\n   | ^" ∧
      (TemplateFault.badSyntax .lexing fault).report false =
        "PT-PAR-001: Unexpected text '!'\n  --> <template>:2:0\n   |\n   1 | | one\n" ++
          ">  2 | two\n   3 | !\n   | ^\n   |\n  Hint: Start plain text lines with '| '" := by
  refine ⟨⟨.unexpectedText "!", some 2, some 0, none, some "| one\rtwo\n!"⟩, ?_⟩
  decide +kernel

end Token

end ElementMarkup
