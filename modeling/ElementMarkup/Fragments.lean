import ElementMarkup.Event
import ElementMarkup.Placeholder

/-!
# Fragments

A host template arrives as literal fragments with interpolations between them. They are joined
into one markup text with a placeholder for each interpolation. The text is then moved to the left
by the indentation of its first line that is not empty, so that a template may stand at any
indentation in the host program.
-/

namespace ElementMarkup.Fragments

/-- The fragments joined, the one at place `i` followed by placeholder `i` if there are more than
`i` interpolations; the first fragment has place `index`. -/
def joinFrom (index count : Nat) : List String → List Char
  | [] => []
  | fragment :: fragments =>
    fragment.toList ++ (if index < count then Placeholder.token index else []) ++
      joinFrom (index + 1) count fragments

/-- The fragments joined, with placeholders for `count` interpolations. -/
def join (fragments : List String) (count : Nat) : List Char :=
  joinFrom 0 count fragments

/-- The number of tabs, or of spaces, that a line starts with. -/
def leadingRun : List Char → Nat
  | [] => 0
  | c :: cs => if c = '\t' ∨ c = ' ' then (cs.takeWhile (· == c)).length + 1 else 0

/-- The text with the indentation of its first non-empty line removed from the front of every
line, whatever the other lines start with. -/
def deindent (cs : List Char) : List Char :=
  let lines := Text.splitOn '\n' cs
  match lines.find? (fun line => !line.isEmpty) with
  | none => cs
  | some first =>
    if leadingRun first = 0 then cs
    else Text.joinWith ['\n'] (lines.map (List.drop (leadingRun first)))

/-- The markup text for fragments with `count` interpolations. There has to be a fragment, and
there should be one fragment more than interpolations. -/
def encode (fragments : List String) (count : Nat) : Logged String := do
  if fragments.isEmpty then
    throw (.template .noFragments)
  if fragments.length ≠ count + 1 then
    report (.fragmentMismatch fragments.length count)
  return String.ofList (deindent (join fragments count))

end ElementMarkup.Fragments
