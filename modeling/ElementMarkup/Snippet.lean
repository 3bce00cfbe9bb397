import ElementMarkup.Terminal

/-!
# Source snippets

A report shows the lines of source around an error, with a caret below the column at fault.
-/

namespace ElementMarkup

/-- Numbered lines of source around a line at fault. -/
structure Snippet where
  lines : List (Int × String)
  errorLine : Int
  column : Option Int := none
  deriving DecidableEq, Repr

namespace Snippet

/-- The lines from `context` lines before the line at fault to `context` lines after it, as far as
the source has them. -/
def ofSource (source : String) (errorLine : Int) (context : Int) (column : Option Int) : Snippet :=
  let all := (Text.displayLines source.toList).map String.ofList
  let start := (max 0 (errorLine - 1 - context)).toNat
  let stop := (min (all.length : Int) (errorLine + context)).toNat
  let numbered := ((List.range all.length).map fun (i : Nat) => (i : Int) + 1).zip all
  ⟨(numbered.take stop).drop start, errorLine, column⟩

/-- As many blanks as a column counts; none for a negative one. -/
def blanks (column : Int) : String :=
  String.ofList (List.replicate column.toNat ' ')

/-- The lines with their numbers, framed, and the caret below them. -/
def format (colors : Bool) (s : Snippet) : String :=
  let bar := Terminal.dimmed colors "   |"
  let lines := s.lines.map fun (number, content) =>
    Terminal.sourceLine colors number content (number == s.errorLine)
  let caret :=
    match s.column with
    | some column => [bar ++ " " ++ Terminal.errorLine colors (blanks column ++ "^")]
    | none => []
  Text.joinStrings "\n" (bar :: lines ++ caret ++ [bar])

end Snippet

end ElementMarkup
