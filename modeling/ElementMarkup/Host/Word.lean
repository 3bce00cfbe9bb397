import ElementMarkup.Fault

/-!
# Words of a host program

The words that a program of the host language is made of. The body of a string is kept as it is
written, because a format string is read in a way of its own. Where the text cannot be cut into
words, a word for the fault ends them, so that whatever is wrong in front of it comes first.
-/

namespace ElementMarkup.Host

/-- What a word is. -/
inductive WordKind where
  | name (text : String)
  | number (value : Scalar)
  | string (isFormat : Bool) (body : List Char)
  | symbol (c : Char)
  | newline
  | indent
  | dedent
  | finish
  | broken (fault : HostFault)
  deriving Repr

/-- A word and the line that it starts on. -/
structure Word where
  kind : WordKind
  line : Nat
  deriving Repr

/-- The words that name no variable. -/
def reservedWords : List String :=
  ["False", "None", "True", "and", "as", "assert", "async", "await", "break", "class", "continue",
    "def", "del", "elif", "else", "except", "finally", "for", "from", "global", "if", "import",
    "in", "is", "lambda", "nonlocal", "not", "or", "pass", "raise", "return", "try", "while",
    "with", "yield"]

/-- The name may stand for a variable. -/
def isVariable (name : String) : Bool :=
  !reservedWords.contains name

end ElementMarkup.Host
