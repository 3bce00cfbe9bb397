import ElementMarkup.Scalar

/-!
# Programs of the host language

Expressions, statements and modules of the host language, which templates are embedded in. The forms
that the compilation of templates has to do with, and some more, are told apart. All others are
known by what is inside them, since that is where templates may be.
-/

namespace ElementMarkup.Host

/-- An operator between two operands. -/
inductive Operator where
  | add
  | sub
  | mul
  deriving DecidableEq, Repr

/-- An expression. A format string consists of constant texts and fields; a field formats a value,
after a conversion given by the code of its letter (or `-1` for none), as its specification says.
The values of a call's keywords stand in the order of their names, and a call knows the line that
it starts on. The form of any other expression is a text that stands for everything about it but the
expressions in it, which follow in order. -/
inductive Expr where
  | name (id : String)
  | member (value : Expr) (attr : String)
  | constant (value : Scalar)
  | call (line : Nat) (function : Expr) (arguments : List Expr) (keywords : List String)
      (keywordValues : List Expr)
  | formatString (parts : List Expr)
  | field (value : Expr) (conversion : Int) (spec : Option Expr)
  | list (items : List Expr)
  | tuple (items : List Expr)
  | dict (keys : List Expr) (values : List Expr)
  | subscript (value : Expr) (index : Expr)
  | binary (left : Expr) (op : Operator) (right : Expr)
  | negate (operand : Expr)
  | conditional (test : Expr) (body : Expr) (orElse : Expr)
  | comprehension (item : Expr) (target : Expr) (source : Expr)
  | other (form : String) (parts : List Expr)
  deriving Inhabited

/-- The kind of an expression, as messages name it. -/
def Expr.kind : Expr → String
  | name _ => "Name"
  | member _ _ => "Attribute"
  | constant _ => "Constant"
  | call _ _ _ _ _ => "Call"
  | formatString _ => "JoinedStr"
  | field _ _ _ => "FormattedValue"
  | list _ => "List"
  | tuple _ => "Tuple"
  | dict _ _ => "Dict"
  | subscript _ _ => "Subscript"
  | binary _ _ _ => "BinOp"
  | negate _ => "UnaryOp"
  | conditional _ _ _ => "IfExp"
  | comprehension _ _ _ => "ListComp"
  | other form _ => form

/-- A statement. The form of any other statement is a text that stands for everything about it but
the expressions and then the statements in it. An expression that comes after a statement there is
given as a statement of its own. -/
inductive Statement where
  | assign (targets : List Expr) (value : Expr)
  | expression (value : Expr)
  | define (name : String) (parameters : List String) (body : List Statement)
  | giveBack (value : Option Expr)
  | other (form : String) (parts : List Expr) (body : List Statement)
  deriving Inhabited

/-- A program: its statements in order. -/
structure Module where
  statements : List Statement

/-- A text constant. -/
def Expr.text (s : String) : Expr :=
  .constant (.text s)

end ElementMarkup.Host
