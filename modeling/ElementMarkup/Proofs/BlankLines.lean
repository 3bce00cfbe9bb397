import ElementMarkup.Proofs.LineEnds
import ElementMarkup.Proofs.PlainLines

/-!
# Blank lines

A blank line says nothing wherever it stands, as long as no text block takes it in. Main statement:
`of_source_with_line`. A blank line that is put into a source, of whatever blanks it consists,
leaves all tokens as they are and only moves down those below it and those that close the source. It
does not touch the layout, since it is passed over before its indentation is looked at.
-/

namespace ElementMarkup.Token

variable {layout : Layout} {number place : Nat} {line : List Char} {above below : List (List Char)}
  {tokens : List Token} {source : String}

/-- The lines with one more behind the first `place` of them. -/
def insertLine (place : Nat) (line : List Char) (lines : List (List Char)) : List (List Char) :=
  lines.take place ++ line :: lines.drop place

/-- The source with one more line behind the first `place` lines. -/
def withLine (place : Nat) (line : List Char) (source : String) : String :=
  String.ofList (Text.joinWith ['\n'] (insertLine place line (Text.splitOn '\n' source.toList)))

/-- The token after a line has been put in behind the first `place` lines: it moves down if it
stands below them or closes the source. -/
def pushDown (place : Nat) (t : Token) : Token :=
  if (place : Int) < t.position.line ∨ t.isClosing = true then t.moveDown 1 else t

/-- A line that is put in is a line of the source. -/
theorem source_lines_with_line (hsource : '\r' ∉ source.toList) (hreturn : '\r' ∉ line)
    (hfeed : '\n' ∉ line) (place : Nat) :
    sourceLines (withLine place line source) = insertLine place line (sourceLines source) := by
  let lines := Text.splitOn '\n' source.toList
  have hmem {other : List Char} (h : other ∈ insertLine place line lines) :
      other = line ∨ other ∈ lines := by
    rcases List.mem_append.mp h with h | h
    · exact .inr (List.mem_of_mem_take h)
    · rcases List.mem_cons.mp h with h | h
      · exact .inl h
      · exact .inr (List.mem_of_mem_drop h)
  have hfeeds : ∀ other ∈ insertLine place line lines, '\n' ∉ other := by
    intro other hother
    rcases hmem hother with rfl | hother
    · exact hfeed
    · exact Text.not_mem_of_mem_split_on hother
  have hreturns : '\r' ∉ Text.joinWith ['\n'] (insertLine place line lines) := by
    intro h
    rcases Text.mem_join_with h with h | ⟨other, hother, hc⟩
    · cases h
    · rcases hmem hother with heq | hother
      · exact hreturn (heq ▸ hc)
      · exact hsource (Text.mem_of_mem_split_on hother hc)
  have hne : insertLine place line lines ≠ [] := by simp [insertLine]
  rw [sourceLines, sourceLines, withLine, String.toList_ofList,
    Text.unify_line_ends_eq_self hreturns, Text.unify_line_ends_eq_self hsource,
    Text.split_on_join_with hne hfeeds]

/-- The tokens of a line above stay where they are. -/
theorem PlainLine.map_push_down {after : Layout} {changes content : List Token}
    (h : PlainLine layout number line changes content after) (hplace : number ≤ place) :
    (changes ++ content ++ [lineEnd number line]).map (pushDown place) =
      changes ++ content ++ [lineEnd number line] := by
  refine (List.map_congr_left fun t ht => ?_).trans (List.map_id _)
  obtain ⟨hline, hclosing⟩ := h.line_of_mem ht
  have hnot : ¬ ((place : Int) < t.position.line ∨ t.isClosing = true) := by
    rw [hline, hclosing, not_or]
    exact ⟨by omega, Bool.false_ne_true⟩
  exact if_neg hnot

/-- The tokens below all move down. -/
theorem Plain.map_push_down {lines : List (List Char)} (h : Plain layout number lines tokens)
    (hplace : place < number) : tokens.map (pushDown place) = tokens.map (moveDown 1) := by
  refine List.map_congr_left fun t ht => if_pos ?_
  refine (h.le_line_of_mem ht).imp_left fun hle => ?_
  omega

/-- A blank line between others is passed over. -/
theorem Plain.scan_lines_insert (h : Plain layout number (above ++ below) tokens)
    (hnumber : 0 < number) (hblank : Text.allBlank line = true)
    (hplace : place + 1 = number + above.length) :
    scanLines layout number 0 (above ++ line :: below) = .ok (tokens.map (pushDown place)) := by
  induction above generalizing layout number tokens with
  | nil =>
      rw [List.length_nil, Nat.add_zero] at hplace
      rw [List.nil_append] at h ⊢
      rw [scanLines, if_pos hblank, scan_lines_add 1 layout hnumber, h.scan_lines_eq,
        h.map_push_down (by omega)]
      rfl
  | cons first above ih =>
      rw [List.length_cons] at hplace
      rw [List.cons_append] at h ⊢
      cases h with
      | blank hfirst h =>
          rw [scanLines, if_pos hfirst]
          exact ih h (by omega) (by omega)
      | line hfirst hline h =>
          rw [scanLines, if_neg (by simp [hfirst]), hline.scan_line_eq]
          show (scanLines _ (number + 1) 0 _ >>= fun more => _) = _
          rw [ih h (by omega) (by omega), List.map_append, hline.map_push_down (by omega)]
          rfl

/-- Blank lines do not matter outside text blocks. If a source without carriage returns has tokens,
and no dot among them, then a blank line at any place between its lines, in front of the first or
behind the last of them, leaves the tokens as they are: the same lexemes in the same columns. The
lines of those below it, and of those that close the source, grow by one. -/
theorem of_source_with_line {name : Option String} (hsource : '\r' ∉ source.toList)
    (h : ofSource source name = .ok tokens) (hdot : ∀ t ∈ tokens, t.lexeme ≠ .dot)
    (hblank : Text.allBlank line = true) (hreturn : '\r' ∉ line) (hfeed : '\n' ∉ line)
    (hplace : place ≤ (sourceLines source).length) :
    ofSource (withLine place line source) name = .ok (tokens.map (pushDown place)) := by
  have hplain := plain_of_scan_lines (Parser.scan_of_of_source h) hdot
  rw [← List.take_append_drop place (sourceLines source)] at hplain
  have hlength : place + 1 = 1 + ((sourceLines source).take place).length := by
    rw [List.length_take]
    omega
  have hscan := hplain.scan_lines_insert Nat.one_pos hblank hlength
  rw [ofSource, scan, source_lines_with_line hsource hreturn hfeed, insertLine, hscan]
  rfl

/-- A line of a tab and an ideographic space between two lines that are indented with spaces. -/
theorem of_source_with_line_between :
    ofSource "ul\n  li a\n  br" none = .ok [⟨.tagName "ul", ⟨1, 0⟩⟩, ⟨.newline, ⟨1, 2⟩⟩,
      ⟨.indent (some 2), ⟨2, 0⟩⟩, ⟨.tagName "li", ⟨2, 2⟩⟩, ⟨.text "a", ⟨2, 5⟩⟩,
      ⟨.newline, ⟨2, 6⟩⟩, ⟨.tagName "br", ⟨3, 2⟩⟩, ⟨.newline, ⟨3, 4⟩⟩, ⟨.outdent none, ⟨3, 0⟩⟩,
      ⟨.endOfSource, ⟨3, 0⟩⟩] ∧
    ofSource "ul\n  li a\n\t\u3000\n  br" none = .ok [⟨.tagName "ul", ⟨1, 0⟩⟩,
      ⟨.newline, ⟨1, 2⟩⟩, ⟨.indent (some 2), ⟨2, 0⟩⟩, ⟨.tagName "li", ⟨2, 2⟩⟩,
      ⟨.text "a", ⟨2, 5⟩⟩, ⟨.newline, ⟨2, 6⟩⟩, ⟨.tagName "br", ⟨4, 2⟩⟩, ⟨.newline, ⟨4, 4⟩⟩,
      ⟨.outdent none, ⟨4, 0⟩⟩, ⟨.endOfSource, ⟨4, 0⟩⟩] := by
  have htokens : ofSource "ul\n  li a\n  br" none = .ok [⟨.tagName "ul", ⟨1, 0⟩⟩,
      ⟨.newline, ⟨1, 2⟩⟩, ⟨.indent (some 2), ⟨2, 0⟩⟩, ⟨.tagName "li", ⟨2, 2⟩⟩,
      ⟨.text "a", ⟨2, 5⟩⟩, ⟨.newline, ⟨2, 6⟩⟩, ⟨.tagName "br", ⟨3, 2⟩⟩, ⟨.newline, ⟨3, 4⟩⟩,
      ⟨.outdent none, ⟨3, 0⟩⟩, ⟨.endOfSource, ⟨3, 0⟩⟩] := by decide +kernel
  have hsource : withLine 2 ['\t', '\u3000'] "ul\n  li a\n  br" =
      "ul\n  li a\n\t\u3000\n  br" := by decide +kernel
  have hinserted := @of_source_with_line 2 ['\t', '\u3000'] _ _ _ (by decide +kernel) htokens
    (by decide +kernel) (by decide +kernel) (by decide +kernel) (by decide +kernel)
    (by decide +kernel)
  rw [hsource] at hinserted
  exact ⟨htokens, hinserted⟩

end ElementMarkup.Token
