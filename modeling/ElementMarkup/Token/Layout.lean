import ElementMarkup.Token.Line

/-!
# Layout

Lines are nested by indentation. A line that is indented deeper than the one above opens a level;
a line that is indented less closes levels down to one of the same width. One template indents
either with spaces or with tabs.
-/

namespace ElementMarkup

/-- The levels that are open, with the innermost first, and the character that indents. -/
structure Layout where
  levels : List Nat
  indentChar : Option IndentChar
  deriving DecidableEq, Repr

namespace Layout

/-- The layout before the first line. -/
def start : Layout :=
  ⟨[], none⟩

/-- The width of the innermost level. -/
def width (layout : Layout) : Nat :=
  layout.levels.headD 0

/-- The number of spaces and tabs that a line starts with. -/
def indentWidth (line : List Char) : Nat :=
  (line.takeWhile Line.isGap).length

/-- The indentation character that a character is, if it is one. -/
def indentChar? (c : Char) : Option IndentChar :=
  if c = ' ' then some .space else if c = '\t' then some .tab else none

/-- The layout after the indentation of a line has been checked to hold one character only, and
the same one as before. -/
def accept (layout : Layout) (gap : List Char) : Except Flaw Layout :=
  match gap.head?.bind indentChar? with
  | none => .ok layout
  | some c =>
    if gap.any fun d => indentChar? d ≠ some c then .error (.malformed .mixedIndentation 0)
    else
      match layout.indentChar with
      | none => .ok { layout with indentChar := some c }
      | some expected =>
        if c = expected then .ok layout
        else .error (.malformed (.otherIndentation expected) 0)

/-- The levels that are wider than the given width are closed, each with a token. -/
def closeTo (line width : Nat) : List Nat → List Token × List Nat
  | [] => ([], [])
  | level :: levels =>
    if width < level then
      let (tokens, rest) := closeTo line width levels
      (⟨.outdent (some width), ⟨line, 0⟩⟩ :: tokens, rest)
    else ([], level :: levels)

/-- The tokens for a line of the given width, and the layout after them. -/
def moveTo (layout : Layout) (line width : Nat) : Except Flaw (List Token × Layout) :=
  if layout.width < width then
    .ok ([⟨.indent (some width), ⟨line, 0⟩⟩], { layout with levels := width :: layout.levels })
  else
    let (tokens, levels) := closeTo line width layout.levels
    if levels.headD 0 = width then .ok (tokens, { layout with levels })
    else .error (.malformed .misalignedDedent width)

/-- The tokens after the last line: the open levels are closed and the source ends. -/
def finish (layout : Layout) (line : Nat) : List Token :=
  layout.levels.map (fun _ => ⟨.outdent none, ⟨line, 0⟩⟩) ++ [⟨.endOfSource, ⟨line, 0⟩⟩]

end Layout

end ElementMarkup
