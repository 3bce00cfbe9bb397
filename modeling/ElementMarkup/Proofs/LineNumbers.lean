import ElementMarkup.Proofs.LineMoves

/-!
# Line numbers

What lines say does not depend on the number that the first of them has. The readers hand the number
on only to the places of tokens and flaws. Main statement: `scan_lines_add`, the same lines further
down give the same tokens further down, or have the same flaw there.
-/

namespace ElementMarkup

/-- The token on a line further down. -/
def Token.moveDown (distance : Nat) (t : Token) : Token :=
  ⟨t.lexeme, ⟨t.position.line + distance, t.position.column⟩⟩

/-- The flaw on a line further down. -/
def Token.LineFlaw.moveDown (distance : Nat) (f : LineFlaw) : LineFlaw :=
  ⟨f.line + distance, f.flaw⟩

/-! ## The content of a line -/

/-- The content of a line further down. -/
theorem Line.tokens_add (line distance column : Nat) (cs : List Char) :
    tokens (line + distance) column cs =
      (tokens line column cs).map (List.map (Token.moveDown distance)) := by
  have hmove := tokens_move line (line + distance) column 0 cs
  cases htokens : tokens line column cs with
  | error flaw =>
      rw [htokens] at hmove
      cases flaw <;> exact hmove
  | ok ts =>
      rw [htokens] at hmove
      refine hmove.trans (congrArg Except.ok (List.map_congr_left fun t ht => ?_))
      rw [Token.move, Token.moveDown, line_of_mem_tokens htokens ht]
      simp

/-! ## Layout and text blocks -/

namespace Layout

open Token

variable (line distance width : Nat)

/-- The ends of levels further down. -/
theorem close_to_add (levels : List Nat) :
    closeTo (line + distance) width levels =
      Prod.map (List.map (moveDown distance)) id (closeTo line width levels) := by
  induction levels with
  | nil => rfl
  | cons level levels ih =>
      rw [closeTo, closeTo, ih]
      split
      · rfl
      · rfl

/-- A change of indentation further down. -/
theorem move_to_add (layout : Layout) :
    layout.moveTo (line + distance) width =
      (layout.moveTo line width).map (Prod.map (List.map (moveDown distance)) id) := by
  unfold moveTo
  rw [close_to_add]
  split
  · rfl
  · dsimp only [Prod.map, id]
    split
    · rfl
    · rfl

/-- The end of a source further down. -/
theorem finish_add (layout : Layout) :
    layout.finish (line + distance) = (layout.finish line).map (moveDown distance) := by
  rw [finish, finish, List.map_append, List.map_map]
  rfl

end Layout

namespace Token

variable (distance : Nat)

/-- A text block further down. -/
theorem text_block_add (line parent : Nat) (lines : List (List Char)) :
    TextBlock.tokens (line + distance) parent lines =
      (TextBlock.tokens line parent lines).map (moveDown distance) := by
  unfold TextBlock.tokens
  dsimp only
  split
  · rfl
  · have hline : ((line + distance : Nat) : Int) + 1 = (line : Int) + 1 + distance := by omega
    rw [List.map_singleton, moveDown, hline]

/-- Tokens open a text block wherever they stand. -/
theorem opens_block_map_move_down (tokens : List Token) :
    opensBlock (tokens.map (moveDown distance)) = opensBlock tokens := by
  rw [opensBlock, List.getLast?_map, Option.any_map]
  rfl

/-! ## Lines -/

/-- A line further down. -/
theorem scan_line_add (layout : Layout) (number : Nat) (line : List Char)
    (below : List (List Char)) :
    scanLine layout (number + distance) line below =
      (scanLine layout number line below).map (Prod.map (List.map (moveDown distance)) id) := by
  unfold scanLine
  dsimp only
  cases layout.accept (line.take (Layout.indentWidth line)) with
  | error flaw => rfl
  | ok layout =>
      show (do
        let r ← layout.moveTo (number + distance) (Layout.indentWidth line)
        _) = Except.map _ (do
          let r ← layout.moveTo number (Layout.indentWidth line)
          _)
      rw [Layout.move_to_add]
      cases layout.moveTo number (Layout.indentWidth line) with
      | error flaw => rfl
      | ok r =>
          show (do
            let content ← Line.tokens (number + distance) _ _
            _) = Except.map _ (do
              let content ← Line.tokens number _ _
              _)
          rw [Line.tokens_add]
          cases Line.tokens number (Layout.indentWidth line)
              (line.drop (Layout.indentWidth line)) with
          | error flaw => rfl
          | ok content =>
              show (if opensBlock (content.map (moveDown distance)) then _ else _) =
                Except.map _ (if opensBlock content then _ else _)
              rw [opens_block_map_move_down]
              split
              · rw [text_block_add]
                refine congrArg (fun tokens => Except.ok (tokens, _)) ?_
                simp only [List.map_append]
                rfl
              · refine congrArg (fun tokens => Except.ok (tokens, _)) ?_
                simp only [List.map_append]
                rfl

/-- Lines further down. Lines count from one, since a source ends on the line above the one that
would come next. -/
theorem scan_lines_add (layout : Layout) {number : Nat} (hnumber : 0 < number) (passed : Nat)
    (lines : List (List Char)) :
    scanLines layout (number + distance) passed lines =
      ((scanLines layout number passed lines).map (List.map (moveDown distance))).mapError
        (LineFlaw.moveDown distance) := by
  induction lines generalizing layout number passed with
  | nil =>
      rw [scanLines, scanLines, show number + distance - 1 = number - 1 + distance by omega,
        Layout.finish_add]
      rfl
  | cons line below ih =>
      have hnext : number + distance + 1 = number + 1 + distance := by omega
      cases passed with
      | succ passed =>
          rw [scanLines, scanLines, hnext]
          exact ih layout (Nat.succ_pos number) passed
      | zero =>
          rw [scanLines, scanLines, hnext]
          split
          · exact ih layout (Nat.succ_pos number) 0
          · rw [scan_line_add]
            cases scanLine layout number line below with
            | error flaw => rfl
            | ok r =>
                obtain ⟨tokens, layout, passed⟩ := r
                show (do
                  let more ← scanLines layout (number + 1 + distance) passed below
                  return tokens.map (moveDown distance) ++ more) = _
                rw [ih layout (Nat.succ_pos number) passed]
                show _ = Except.mapError _ (Except.map _ (do
                  let more ← scanLines layout (number + 1) passed below
                  return tokens ++ more))
                cases scanLines layout (number + 1) passed below with
                | error flaw => rfl
                | ok more => exact congrArg Except.ok List.map_append.symm

end Token

end ElementMarkup
