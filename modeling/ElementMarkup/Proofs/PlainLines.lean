import ElementMarkup.Proofs.LineNumbers
import ElementMarkup.Proofs.Positions

/-!
# Sources without text blocks

Where no line opens a text block, every line is read on its own: only the layout goes from line to
line. `Plain` says so as a relation between lines and their tokens, with one case for a blank line
and one for any other. Main statements: `plain_of_scan_lines` and `Plain.scan_lines_eq`, the
relation holds exactly of what is read of such lines.
-/

namespace ElementMarkup.Token

variable {layout after : Layout} {number : Nat} {line : List Char} {lines : List (List Char)}
  {changes content tokens : List Token} {t : Token}

/-- What a line that is not blank and opens no text block gives: the tokens for its change of
indentation, those of its content, and the layout after it. -/
structure PlainLine (layout : Layout) (number : Nat) (line : List Char)
    (changes content : List Token) (after : Layout) : Prop where
  moves : ∃ accepted, layout.accept (line.take (Layout.indentWidth line)) = .ok accepted ∧
    accepted.moveTo number (Layout.indentWidth line) = .ok (changes, after)
  reads : Line.tokens number (Layout.indentWidth line)
    (line.drop (Layout.indentWidth line)) = .ok content
  isClosed : opensBlock content = false

/-- The end of a line. -/
def lineEnd (number : Nat) (line : List Char) : Token :=
  ⟨.newline, ⟨number, line.length⟩⟩

/-- The lines from the line `number` on, none of which opens a text block, give the tokens. -/
inductive Plain : Layout → Nat → List (List Char) → List Token → Prop where
  | finish (layout : Layout) (number : Nat) : Plain layout number [] (layout.finish (number - 1))
  | blank {layout : Layout} {number : Nat} {line : List Char} {lines : List (List Char)}
      {tokens : List Token} :
      Text.allBlank line = true → Plain layout (number + 1) lines tokens →
      Plain layout number (line :: lines) tokens
  | line {layout after : Layout} {number : Nat} {line : List Char} {lines : List (List Char)}
      {changes content tokens : List Token} :
      Text.allBlank line = false → PlainLine layout number line changes content after →
      Plain after (number + 1) lines tokens →
      Plain layout number (line :: lines) (changes ++ content ++ [lineEnd number line] ++ tokens)

/-- A line that opens no text block is read on its own. -/
theorem PlainLine.scan_line_eq (h : PlainLine layout number line changes content after)
    (below : List (List Char)) :
    scanLine layout number line below =
      .ok (changes ++ content ++ [lineEnd number line], after, 0) := by
  obtain ⟨⟨accepted, haccept, hmove⟩, hcontent, hclosed⟩ := h
  unfold scanLine
  dsimp only
  rw [haccept]
  show (accepted.moveTo number (Layout.indentWidth line) >>= fun r => _) = _
  rw [hmove]
  show (Line.tokens number (Layout.indentWidth line) (line.drop (Layout.indentWidth line)) >>=
    fun content => _) = _
  rw [hcontent]
  show (if opensBlock content then _ else _) = _
  rw [hclosed]
  rfl

/-- A line without a dot opens no text block. -/
theorem plain_line_of_scan_line {below : List (List Char)} {passed : Nat}
    (h : scanLine layout number line below = .ok (tokens, after, passed))
    (hdot : ∀ t ∈ tokens, t.lexeme ≠ .dot) :
    ∃ changes content, PlainLine layout number line changes content after ∧
      tokens = changes ++ content ++ [lineEnd number line] ∧ passed = 0 := by
  unfold scanLine at h
  dsimp only at h
  obtain ⟨accepted, haccept, h⟩ := Attempt.bind_eq_ok.mp h
  obtain ⟨⟨changes, moved⟩, hmove, h⟩ := Attempt.bind_eq_ok.mp h
  obtain ⟨content, hcontent, h⟩ := Attempt.bind_eq_ok.mp h
  split at h
  · rename_i hopens
    obtain ⟨t, hlast, ht⟩ := (Option.any_eq_true _ _).mp hopens
    cases h
    have hmem : t ∈ content := List.mem_of_getLast? hlast
    exact absurd (beq_iff_eq.mp ht) (hdot t (by simp [hmem]))
  · rename_i hclosed
    cases h
    exact ⟨changes, content, ⟨⟨accepted, haccept, hmove⟩, hcontent, by simpa using hclosed⟩, rfl,
      rfl⟩

/-- What lines without text blocks give is what is read of them. -/
theorem Plain.scan_lines_eq (h : Plain layout number lines tokens) :
    scanLines layout number 0 lines = .ok tokens := by
  induction h with
  | finish layout number => rfl
  | blank hblank _ ih => rw [scanLines, if_pos hblank, ih]
  | line hblank hline _ ih =>
      rw [scanLines, if_neg (by simp [hblank]), hline.scan_line_eq]
      show (scanLines _ _ 0 _ >>= fun more => _) = _
      rw [ih]
      rfl

/-- Tokens without a dot come from lines without text blocks. -/
theorem plain_of_scan_lines (h : scanLines layout number 0 lines = .ok tokens)
    (hdot : ∀ t ∈ tokens, t.lexeme ≠ .dot) : Plain layout number lines tokens := by
  induction lines generalizing layout number tokens with
  | nil =>
      cases h
      exact .finish layout number
  | cons line lines ih =>
      rw [scanLines] at h
      split at h
      · rename_i hblank
        exact .blank hblank (ih h hdot)
      · rename_i hblank
        split at h
        · cases h
        · rename_i hline
          obtain ⟨more, hmore, hend⟩ := Attempt.bind_eq_ok.mp h
          cases hend
          obtain ⟨hfirst, hrest⟩ := List.forall_mem_append.mp hdot
          obtain ⟨changes, content, hplain, rfl, rfl⟩ := plain_line_of_scan_line hline hfirst
          exact .line (by simpa using hblank) hplain (ih hmore hrest)

/-! ## Where the tokens stand -/

/-- A change of indentation is a token of its line with a width. -/
theorem PlainLine.eq_of_mem_changes (h : PlainLine layout number line changes content after)
    (ht : t ∈ changes) :
    t.position = ⟨number, 0⟩ ∧ (t.lexeme = .indent (some (Layout.indentWidth line)) ∨
      t.lexeme = .outdent (some (Layout.indentWidth line))) := by
  obtain ⟨accepted, _, hmove⟩ := h.moves
  have hwithin := accepted.within_move_to number (Nat.le_refl (Layout.indentWidth line))
  rw [hmove] at hwithin
  exact hwithin t ht

/-- The token stands after the last line: the source ends, or a level does without a width. -/
def isClosing (t : Token) : Bool :=
  t.lexeme == .outdent none || t.lexeme == .endOfSource

/-- The tokens of a line stand on it, and none of them closes the source. -/
theorem PlainLine.line_of_mem (h : PlainLine layout number line changes content after)
    (ht : t ∈ changes ++ content ++ [lineEnd number line]) :
    t.position.line = number ∧ t.isClosing = false := by
  rcases List.mem_append.mp ht with ht | ht
  · rcases List.mem_append.mp ht with ht | ht
    · obtain ⟨hposition, hlexeme⟩ := h.eq_of_mem_changes ht
      refine ⟨congrArg Position.line hposition, ?_⟩
      rcases hlexeme with hlexeme | hlexeme <;> simp [isClosing, hlexeme]
    · refine ⟨Line.line_of_mem_tokens h.reads ht, ?_⟩
      have hinside := (is_content_tokens h.reads).is_inside _ (List.mem_map_of_mem ht)
      unfold isClosing
      generalize t.lexeme = l at hinside
      cases l <;> simp_all [Lexeme.isInside]
  · rw [List.mem_singleton.mp ht]
    exact ⟨rfl, rfl⟩

/-- The tokens after the last line. -/
theorem is_closing_of_mem_finish (ht : t ∈ layout.finish number) : t.isClosing = true := by
  rcases List.mem_append.mp ht with ht | ht
  · obtain ⟨_, _, rfl⟩ := List.mem_map.mp ht
    rfl
  · rw [List.mem_singleton.mp ht]
    rfl

/-- The tokens of lines stand on them, or behind the last of them. -/
theorem Plain.le_line_of_mem (h : Plain layout number lines tokens) (ht : t ∈ tokens) :
    (number : Int) ≤ t.position.line ∨ t.isClosing = true := by
  induction h with
  | finish layout number => exact .inr (is_closing_of_mem_finish ht)
  | blank _ _ ih =>
      refine (ih ht).imp_left fun hle => ?_
      omega
  | @line layout after number line lines changes content more _ hline _ ih =>
      rcases List.mem_append.mp ht with ht | ht
      · exact .inl (hline.line_of_mem ht).1.ge
      · refine (ih ht).imp_left fun hle => ?_
        omega

end ElementMarkup.Token
