import ElementMarkup.Scalar

/-!
# Tokens

Markup source is cut into tokens. The content of a line is followed by an end of line, and a change
of indentation shows as tokens before the line, so that nobody else has to count columns.
-/

namespace ElementMarkup

/-- A place in a source: lines count from one, columns from zero. -/
structure Position where
  line : Int
  column : Int
  deriving DecidableEq, Repr

/-- What a token says. A shorthand holds the value of an attribute, which is a text in every source,
as is the name of a block. -/
inductive Lexeme where
  | indent (width : Option Nat)
  | outdent (width : Option Nat)
  | newline
  | endOfSource
  | tagName (name : String)
  | idName (value : Scalar)
  | className (value : Scalar)
  | attributePair (name : String) (value : Scalar)
  | colon
  | dot
  | text (value : String)
  | blockName (name : Scalar)
  | extendsPath (path : String)
  | includePath (path : String)
  deriving DecidableEq, Repr

/-- A lexeme and the place where it starts. -/
structure Token where
  lexeme : Lexeme
  position : Position
  deriving DecidableEq, Repr

/-- The word for a kind of token in messages. -/
def Lexeme.kind : Lexeme → String
  | indent _ => "indent"
  | outdent _ => "outdent"
  | newline => "newline"
  | endOfSource => "eos"
  | tagName _ => "tag"
  | idName _ => "id"
  | className _ => "class"
  | attributePair _ _ => "attribute"
  | colon => "colon"
  | dot => "dot"
  | text _ => "text"
  | blockName _ => "block"
  | extendsPath _ => "extends"
  | includePath _ => "include"

/-- The token that ends a source. -/
def Token.isEnd (t : Token) : Bool :=
  t.lexeme == .endOfSource

/-- The words that open a line which names another template or a region of this one. -/
inductive Directive where
  | extendsPath
  | includePath
  | blockName
  deriving DecidableEq, Repr

/-- How a directive is written. -/
def Directive.word : Directive → String
  | extendsPath => "extends"
  | includePath => "include"
  | blockName => "block"

/-- What stands after the word of a directive. -/
def Directive.argument : Directive → String
  | extendsPath => "path"
  | includePath => "path"
  | blockName => "name"

/-- The lexeme of a directive with its argument. -/
def Directive.lexeme : Directive → String → Lexeme
  | extendsPath => .extendsPath
  | includePath => .includePath
  | blockName => fun name => .blockName (.text name)

end ElementMarkup
