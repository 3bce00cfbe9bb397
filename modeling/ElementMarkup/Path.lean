import ElementMarkup.Text.Lines

/-!
# File paths

A path to a file or a directory: the slashes of its root, if it has one, and its parts. Empty parts
and single dots are left out; two dots are kept.
-/

namespace ElementMarkup

/-- A path, absolute if it has root slashes. -/
structure Path where
  rootSlashes : Nat
  parts : List String
  deriving DecidableEq, Repr

namespace Path

/-- The path that a string stands for. -/
def ofString (s : String) : Path :=
  let slashes := (s.toList.takeWhile (· == '/')).length
  let parts := (Text.splitOn '/' s.toList).filter fun part => part ≠ [] ∧ part ≠ ['.']
  ⟨if slashes = 2 then 2 else min slashes 1, parts.map String.ofList⟩

/-- The path starts at the root. -/
def isAbsolute (p : Path) : Bool :=
  p.rootSlashes != 0

/-- A null character stands in the path, which no file can have in its name. -/
def hasNull (p : Path) : Bool :=
  p.parts.any fun part => part.toList.contains '\x00'

/-- The text of a path. -/
def text (p : Path) : String :=
  let s := String.ofList (List.replicate p.rootSlashes '/') ++ Text.joinStrings "/" p.parts
  if s = "" then "." else s

/-- The path of something below a path. -/
def append (p : Path) (parts : List String) : Path :=
  { p with parts := p.parts ++ parts }

/-- The extension of a file name: what follows from its last dot on, unless the dot is its first or
its last character. -/
def suffix (name : String) : String :=
  let cs := name.toList
  let afterDot := (cs.reverse.takeWhile (· != '.')).reverse
  let stem := cs.take (cs.length - afterDot.length - 1)
  if cs.contains '.' && !stem.isEmpty && !afterDot.isEmpty then String.ofList ('.' :: afterDot)
  else ""

end Path

end ElementMarkup
