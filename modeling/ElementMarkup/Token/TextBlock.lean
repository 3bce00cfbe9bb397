import ElementMarkup.Token.Layout

/-!
# Text blocks

A tag that ends with a dot takes the lines below it as they are, as long as they are blank or
indented deeper than the tag. The text is moved to the left by the indentation of its first line.
-/

namespace ElementMarkup.TextBlock

/-- The texts of the lines that belong to the block of a tag indented by `parent`, where `base` is
the indentation of the block's first line once it is known. -/
def linesFrom (parent : Nat) (base : Option Nat) : List (List Char) → List (List Char)
  | [] => []
  | line :: rest =>
    if Text.allBlank line then [] :: linesFrom parent base rest
    else
      let width := Layout.indentWidth line
      if width ≤ parent then []
      else
        let base := base.getD width
        line.drop (min base width) :: linesFrom parent (some base) rest

/-- The texts of the lines that belong to the block. -/
def blockLines (parent : Nat) (lines : List (List Char)) : List (List Char) :=
  linesFrom parent none lines

/-- The lines without the empty ones at the end. -/
def dropTrailingEmpty (lines : List (List Char)) : List (List Char) :=
  (lines.reverse.dropWhile List.isEmpty).reverse

/-- The indentation of the first line that is not blank. -/
def baseWidth (lines : List (List Char)) : Nat :=
  match lines.find? (fun line => !Text.allBlank line) with
  | some line => Layout.indentWidth line
  | none => 0

/-- The text token of a block whose tag stands on the given line, if the block holds any text. -/
def tokens (line parent : Nat) (lines : List (List Char)) : List Token :=
  let content := dropTrailingEmpty (blockLines parent lines)
  if content.isEmpty then []
  else
    [⟨.text (String.ofList (Text.joinWith ['\n'] content)), ⟨line + 1, baseWidth lines⟩⟩]

end ElementMarkup.TextBlock
