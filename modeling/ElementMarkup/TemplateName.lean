import ElementMarkup.Text.Lines

/-!
# Template names

Templates are named by paths with slashes. A path in an include or extends line is relative to the
directory of the template that it stands in, or to the root of the loader if it starts with a
slash. A path without an extension gets the default one. The name is the path with its dots
resolved as far as possible.
-/

namespace ElementMarkup.TemplateName

/-- The extension of a template whose path gives none. -/
def defaultExtension : List Char := ".pug".toList

/-- What follows the last slash of a path. -/
def baseName (path : List Char) : List Char :=
  (path.reverse.takeWhile (· != '/')).reverse

/-- The path up to and including its last slash. -/
def upToLastSlash (path : List Char) : List Char :=
  (path.reverse.dropWhile (· != '/')).reverse

/-- The extension of a path: what follows from the last dot of its last part on, unless only dots
precede that dot. -/
def extension (path : List Char) : List Char :=
  let base := baseName path
  let afterDot := (base.reverse.takeWhile (· != '.')).reverse
  let stem := base.take (base.length - afterDot.length - 1)
  if base.contains '.' && stem.any (· != '.') then '.' :: afterDot else []

/-- The directory of a path, without trailing slashes unless it consists of slashes only. -/
def directory (path : List Char) : List Char :=
  let head := upToLastSlash path
  if head.all (· == '/') then head else (head.reverse.dropWhile (· == '/')).reverse

/-- A path inside a directory. A path that starts with a slash stands on its own. -/
def join (directory path : List Char) : List Char :=
  if path.head? = some '/' then path
  else if directory.isEmpty || directory.getLast? = some '/' then directory ++ path
  else directory ++ '/' :: path

/-- How many slashes at the start of a path are kept: one, or two if there are exactly two. -/
def rootSlashes (path : List Char) : Nat :=
  match (path.takeWhile (· == '/')).length with
  | 0 => 0
  | 2 => 2
  | _ => 1

/-- The parts of a path after one more part, the last part first. Empty parts and single dots count
for nothing; two dots remove the part before them, if there is one that they can remove. -/
def pushPart (rooted : Bool) (parts : List (List Char)) (part : List Char) : List (List Char) :=
  if part = [] ∨ part = ['.'] then parts
  else if part ≠ ['.', '.'] then part :: parts
  else
    match parts with
    | [] => if rooted then [] else [part]
    | last :: before => if last = ['.', '.'] then part :: parts else before

/-- The path with its dots resolved as far as possible. -/
def normalize (path : List Char) : List Char :=
  let slashes := rootSlashes path
  let parts := (Text.splitOn '/' path).foldl (pushPart (slashes != 0)) []
  let result := List.replicate slashes '/' ++ Text.joinWith ['/'] parts.reverse
  if result.isEmpty then ['.'] else result

/-- The name of the template that a path stands for in the template `parent`. -/
def resolveChars (path parent : List Char) : List Char :=
  let path := if (extension path).isEmpty then path ++ defaultExtension else path
  if path.head? = some '/' then normalize (path.dropWhile (· == '/'))
  else if parent.isEmpty then normalize path
  else normalize (join (directory parent) path)

/-- The name of the template that a path stands for in a template that may have a name itself. -/
def resolve (path : String) (parent : Option String) : String :=
  String.ofList (resolveChars path.toList (parent.getD "").toList)

end ElementMarkup.TemplateName
