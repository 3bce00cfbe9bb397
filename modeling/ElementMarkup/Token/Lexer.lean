import ElementMarkup.Text.Lines
import ElementMarkup.Token.TextBlock

/-!
# The tokens of a source

A source is read line by line. Blank lines say nothing. Every other line gives the tokens for its
change of indentation, those of its content, the text block below it if it opens one, and an end of
line.
-/

namespace ElementMarkup.Token

/-- What is wrong with a source, and on which line. -/
structure LineFlaw where
  line : Nat
  flaw : Flaw
  deriving DecidableEq, Repr

/-- The tokens end with the dot that opens a text block. -/
def opensBlock (tokens : List Token) : Bool :=
  tokens.getLast?.any fun t => t.lexeme == .dot

/-- The tokens of one line that is not blank, given the lines below it: the tokens, the layout after
it, and the number of lines below that belong to its text block. -/
def scanLine (layout : Layout) (number : Nat) (line : List Char) (below : List (List Char)) :
    Except Flaw (List Token × Layout × Nat) := do
  let width := Layout.indentWidth line
  let layout ← layout.accept (line.take width)
  let (indentation, layout) ← layout.moveTo number width
  let content ← Line.tokens number width (line.drop width)
  let ending : Token := ⟨.newline, ⟨number, line.length⟩⟩
  if opensBlock content then
    return (indentation ++ content ++ TextBlock.tokens number width below ++ [ending], layout,
      (TextBlock.blockLines width below).length)
  else return (indentation ++ content ++ [ending], layout, 0)

/-- The tokens of the lines from line `number` on, the first `passed` of which belong to a text
block that has been read already. -/
def scanLines (layout : Layout) (number passed : Nat) :
    List (List Char) → Except LineFlaw (List Token)
  | [] => .ok (layout.finish (number - 1))
  | line :: below =>
    match passed with
    | passed + 1 => scanLines layout (number + 1) passed below
    | 0 =>
      if Text.allBlank line then scanLines layout (number + 1) 0 below
      else
        match scanLine layout number line below with
        | .error flaw => .error ⟨number, flaw⟩
        | .ok (tokens, layout, passed) => do
          let more ← scanLines layout (number + 1) passed below
          return tokens ++ more

/-- The lines of a source. -/
def sourceLines (source : String) : List (List Char) :=
  Text.splitOn '\n' (Text.unifyLineEnds source.toList)

/-- The tokens of a source, or what is wrong with it. -/
def scan (source : String) : Except LineFlaw (List Token) :=
  scanLines .start 1 0 (sourceLines source)

/-- The fault for what is wrong with the source of a named template. -/
def LineFlaw.fault (name : Option String) (source : String) (f : LineFlaw) : Fault :=
  match f.flaw with
  | .malformed problem column =>
    .template (.badSyntax .lexing
      { problem, line := some f.line, column := some column, name,
        source := some (String.ofList (Text.unifyLineEnds source.toList)) })
  | .integerTooLong digits => .integerTooLong digits

/-- The tokens of the source of a named template. -/
def ofSource (source : String) (name : Option String) : Except Fault (List Token) :=
  (scan source).mapError (LineFlaw.fault name source)

end ElementMarkup.Token
