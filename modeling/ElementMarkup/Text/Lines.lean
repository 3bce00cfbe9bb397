/-!
# Lines

Markup is read line by line. A line ends at a line feed, and a carriage return before the line
feed belongs to the line end. Quoted source in error messages is cut at a wider set of line ends.
-/

namespace ElementMarkup.Text

/-- The parts of the text between the separators. There is always at least one part. -/
def splitOn (separator : Char) : List Char → List (List Char)
  | [] => [[]]
  | c :: cs =>
    if c = separator then [] :: splitOn separator cs
    else
      match splitOn separator cs with
      | [] => [[c]]
      | part :: parts => (c :: part) :: parts

/-- The parts joined with the separator between them. -/
def joinWith (separator : List Char) (parts : List (List Char)) : List Char :=
  separator.intercalate parts

/-- Strings joined with the separator between them. -/
def joinStrings (separator : String) (parts : List String) : String :=
  separator.intercalate parts

/-- The text with each carriage return that stands before a line feed removed. -/
def unifyLineEnds : List Char → List Char
  | [] => []
  | '\r' :: '\n' :: cs => '\n' :: unifyLineEnds cs
  | c :: cs => c :: unifyLineEnds cs

/-- The text of a file with every line end written as one line feed: a carriage return counts as
a line end, alone or before a line feed. -/
def unifyFileLineEnds : List Char → List Char
  | [] => []
  | '\r' :: '\n' :: cs => '\n' :: unifyFileLineEnds cs
  | '\r' :: cs => '\n' :: unifyFileLineEnds cs
  | c :: cs => c :: unifyFileLineEnds cs

/-- The characters at which quoted source is cut into lines. -/
def lineBreaks : List Char :=
  ['\n', '\r', '\x0b', '\x0c', '\x1c', '\x1d', '\x1e', '\x85', '\u2028', '\u2029']

/-- A character at which quoted source is cut into lines. -/
def isLineBreak (c : Char) : Bool :=
  lineBreaks.contains c

/-- The lines of quoted source, where `line` holds the characters of the current line in reverse.
A line break at the very end opens no further line. -/
def displayLinesFrom (line : List Char) : List Char → List (List Char)
  | [] => if line.isEmpty then [] else [line.reverse]
  | '\r' :: '\n' :: cs => line.reverse :: displayLinesFrom [] cs
  | c :: cs =>
    if isLineBreak c then line.reverse :: displayLinesFrom [] cs
    else displayLinesFrom (c :: line) cs

/-- The lines of quoted source. -/
def displayLines (cs : List Char) : List (List Char) :=
  displayLinesFrom [] cs

end ElementMarkup.Text
