import ElementMarkup.Fault
import ElementMarkup.Host.Constant
import ElementMarkup.Host.Expr
import ElementMarkup.Text.Printable

/-!
# Printing programs

Expressions are written with the fewest parentheses that their operators allow. A format string is
written with the quotes that its parts leave, each part narrowing the choice of the parts before it;
within its fields no backslash may occur. Forms that are known only by what is inside them cannot be
written.
-/

namespace ElementMarkup.Host

/-- How tightly an expression has to bind at its place. -/
abbrev Level := Nat

namespace Level

/-- A place where the items of a tuple may stand bare. -/
def tuple : Level := 0

/-- A statement of its own. -/
def statement : Level := 1

/-- A place for any expression. -/
def test : Level := 2

/-- A place where a conditional needs parentheses. -/
def operand : Level := 3

/-- Sums and differences. -/
def arithmetic : Level := 4

/-- Products. -/
def term : Level := 5

/-- Signs. -/
def factor : Level := 6

/-- Names, calls and everything in brackets. -/
def atom : Level := 9

end Level

/-- The level of an operator. -/
def Operator.level : Operator → Level
  | add => .arithmetic
  | sub => .arithmetic
  | mul => .term

/-- How an operator is written. -/
def Operator.symbol : Operator → List Char
  | add => ['+']
  | sub => ['-']
  | mul => ['*']

/-- The quotes that may stand around a string. -/
inductive Quote where
  | single
  | double
  | tripleDouble
  | tripleSingle
  deriving DecidableEq, Repr

namespace Quote

/-- The quotes in order of preference. -/
def all : List Quote :=
  [single, double, tripleDouble, tripleSingle]

/-- The quotes of a text that describes a program or a function, in order of preference. -/
def describing : List Quote :=
  [tripleDouble, tripleSingle]

/-- The character of a quote. -/
def char : Quote → Char
  | single => '\''
  | double => '"'
  | tripleDouble => '"'
  | tripleSingle => '\''

/-- The quote spans lines. -/
def isTriple : Quote → Bool
  | tripleDouble => true
  | tripleSingle => true
  | _ => false

/-- How a quote is written. -/
def text (q : Quote) : List Char :=
  List.replicate (if q.isTriple then 3 else 1) q.char

end Quote

/-- A text occurs somewhere in another one. -/
def occursIn (part : List Char) : List Char → Bool
  | [] => part.isEmpty
  | c :: cs => part.isPrefixOf (c :: cs) || occursIn part cs

/-- How a character is written in a format string. Line ends and tabs are escaped on demand only. -/
def escapeFormatChar (escapeBlanks : Bool) (c : Char) : List Char :=
  if !escapeBlanks && (c == '\n' || c == '\t') then [c]
  else if c == '\\' || !Text.isPrintable c then Text.escapeChar '\\' c
  else [c]

/-- The way to write a text between one of the given quotes, and the quotes that are still
possible. If none is, the text is written as a quoted text would be. -/
def chooseQuotes (quotes : List Quote) (escapeBlanks : Bool) (cs : List Char) :
    List Char × List Quote :=
  let escaped := cs.flatMap (escapeFormatChar escapeBlanks)
  let possible := quotes.filter fun q =>
    (q.isTriple || !escaped.contains '\n') && !occursIn q.text escaped
  match escaped.getLast?, possible with
  | _, [] =>
    let char := Text.quoteFor cs
    let quote := (quotes.find? fun q => q.char == char).getD
      (if char = '"' then .double else .single)
    (Text.quotedBody cs, [quote])
  | none, possible => (escaped, possible)
  | some last, possible =>
    let sorted :=
      possible.filter (fun q => q.char != last) ++ possible.filter (fun q => q.char == last)
    if possible.all fun q => q.char == last then
      (escaped.dropLast ++ ['\\', last], sorted)
    else (escaped, sorted)

/-- A text between those of the given quotes that suit it best. -/
def bestQuoted (quotes : List Quote) (cs : List Char) : List Char :=
  let (body, quotes) := chooseQuotes quotes false cs
  let quote := (quotes.headD .single).text
  quote ++ body ++ quote

/-- The parts of a format string, each written for the quotes that the parts before it leave, and
the quotes that are left in the end. A part that rules out every quote that is left decides anew. -/
def chooseForParts (quotes : List Quote) : List (List Char × Bool) → List Char × List Quote
  | [] => ([], quotes)
  | (part, isConstant) :: parts =>
    let (body, possible) := chooseQuotes quotes isConstant part
    let (bodies, possible) := chooseForParts possible parts
    (body ++ bodies, possible)

/-- A format string, given its parts and for each part whether it is constant. -/
def formatStringSource (parts : List (List Char × Bool)) : List Char :=
  let (body, quotes) := chooseForParts Quote.all parts
  let quote := (quotes.headD .single).text
  'f' :: quote ++ body ++ quote

/-- A constant text in a format string: braces are written twice. -/
def doubleBraces (cs : List Char) : List Char :=
  cs.flatMap fun c => if c = '\x7b' ∨ c = '\x7d' then [c, c] else [c]

/-- Parts with commas between them. -/
def commaSeparated (parts : List (List Char)) : List Char :=
  Text.joinWith [',', ' '] parts

/-- The items of a tuple: a single one is followed by a comma. -/
def tupleItems : List (List Char) → List Char
  | [item] => item ++ [',']
  | items => commaSeparated items

/-- A text between parentheses, if they are needed. -/
def parenthesized (needed : Bool) (cs : List Char) : List Char :=
  if needed then '(' :: cs ++ [')'] else cs

/-- The conversion of a field, given the code of its letter. -/
def conversionText (conversion : Int) : Except Fault (List Char) :=
  if conversion = -1 then .ok []
  else if 0 ≤ conversion ∧ conversion < 0x110000 then .ok ['!', Char.ofNat conversion.toNat]
  else .error .noCharacter

/-- The field of a format string up to its specification, given its expression as text. -/
def fieldStart (value : List Char) (conversion : Int) : Except Fault (List Char) := do
  if value.contains '\\' then throw .backslashInField
  let gap := if value.head? = some '\x7b' then [' '] else []
  return '\x7b' :: gap ++ value ++ (← conversionText conversion)

/-- A whole number or a truth value, after which a dot would be misread. -/
def isIntegerConstant : Expr → Bool
  | .constant (.integer _) => true
  | .constant (.boolean _) => true
  | _ => false

/-- A constant, with the quotes that suit it best inside the fields of a format string. -/
def constantText (inField : Bool) : Scalar → List Char
  | .text s => if inField then bestQuoted Quote.all s.toList else Text.quoted s.toList
  | value => constantSource value

/-- A constant part of a format string. -/
def isConstantPart : Expr → Bool
  | .constant _ => true
  | _ => false

/-- The fault of a form that cannot be written. -/
def unwritable (form : String) : Fault :=
  .hostSyntax "" (.refused ("cannot write " ++ form) none)

mutual

/-- An expression as text at a place of the given level. -/
def exprText (inField : Bool) (level : Level) : Expr → Except Fault (List Char)
  | .name id => .ok id.toList
  | .member value attr => do
    let gap := if isIntegerConstant value then [' '] else []
    return (← exprText inField .atom value) ++ gap ++ '.' :: attr.toList
  | .constant value => .ok (constantText inField value)
  | .call _ function arguments keywords keywordValues => do
    let function ← exprText inField .atom function
    let arguments ← exprTexts inField arguments
    let keywordValues ← exprTexts inField keywordValues
    let keywords := List.zipWith (fun k v => k.toList ++ '=' :: v) keywords keywordValues
    return function ++ '(' :: commaSeparated (arguments ++ keywords) ++ [')']
  | .formatString parts => do
    let texts ← partTexts parts
    if inField then return 'f' :: bestQuoted Quote.all (texts.flatMap (·.1))
    return formatStringSource texts
  | .field value conversion spec => do
    let start ← fieldStart (← exprText true .operand value) conversion
    return start ++ (← specText spec) ++ ['\x7d']
  | .list items => return '[' :: commaSeparated (← exprTexts inField items) ++ [']']
  | .tuple items => do
    let needed := items.isEmpty || Level.tuple < level
    return parenthesized needed (tupleItems (← exprTexts inField items))
  | .dict keys values => do
    let keys ← exprTexts inField keys
    let values ← exprTexts inField values
    let entries := List.zipWith (fun k v => k ++ ':' :: ' ' :: v) keys values
    return '\x7b' :: commaSeparated entries ++ ['\x7d']
  | .subscript value (.tuple (item :: items)) => do
    let value ← exprText inField .atom value
    let first ← exprText inField .test item
    let rest ← exprTexts inField items
    return value ++ '[' :: tupleItems (first :: rest) ++ [']']
  | .subscript value index => do
    let value ← exprText inField .atom value
    return value ++ '[' :: (← exprText inField .test index) ++ [']']
  | .binary left op right => do
    let left ← exprText inField op.level left
    let right ← exprText inField (op.level + 1) right
    return parenthesized (op.level < level) (left ++ ' ' :: op.symbol ++ ' ' :: right)
  | .negate operand => do
    return parenthesized (Level.factor < level) ('-' :: (← exprText inField .factor operand))
  | .conditional test body orElse => do
    let body ← exprText inField .operand body
    let test ← exprText inField .operand test
    let orElse ← exprText inField .test orElse
    return parenthesized (Level.test < level)
      (body ++ " if ".toList ++ test ++ " else ".toList ++ orElse)
  | .comprehension item target source => do
    let item ← exprText inField .test item
    let target ← exprText inField .tuple target
    let source ← exprText inField .operand source
    return '[' :: item ++ " for ".toList ++ target ++ " in ".toList ++ source ++ [']']
  | .other form _ => .error (unwritable form)

/-- Expressions as texts, each at a place for any expression. -/
def exprTexts (inField : Bool) : List Expr → Except Fault (List (List Char))
  | [] => .ok []
  | e :: es => return (← exprText inField .test e) :: (← exprTexts inField es)

/-- A part of a format string as text. Only texts, fields and further format strings are parts. -/
def partText : Expr → Except Fault (List Char)
  | .constant (.text s) => .ok (doubleBraces s.toList)
  | .formatString parts => return (← partTexts parts).flatMap (·.1)
  | .field value conversion spec => do
    let start ← fieldStart (← exprText true .operand value) conversion
    return start ++ (← specText spec) ++ ['\x7d']
  | e => .error (.strayPart e.kind)

/-- The parts of a format string as texts, and for each part whether it is constant. -/
def partTexts : List Expr → Except Fault (List (List Char × Bool))
  | [] => .ok []
  | part :: parts => return (← partText part, isConstantPart part) :: (← partTexts parts)

/-- The specification of a field as text, with the colon in front of it. -/
def specText : Option Expr → Except Fault (List Char)
  | none => .ok []
  | some spec => return ':' :: (← partText spec)

end

/-- The blanks in front of a line at the given depth. -/
def lineIndent (depth : Nat) : List Char :=
  List.replicate (4 * depth) ' '

/-- An expression that is a statement. A text that leads a program or a function describes it. -/
def expressionLine (leads : Bool) (value : Expr) : Except Fault (List Char) :=
  match leads, value with
  | true, .constant (.text s) => .ok (bestQuoted Quote.describing s.toList)
  | _, value => exprText false .statement value

mutual

/-- The lines of a statement, given whether it leads a program or a function. An empty line precedes
a definition, except at the very start. -/
def statementLines (leads : Bool) (depth : Nat) : Statement → Except Fault (List (List Char))
  | .assign targets value => do
    let targets ← targets.mapM fun target =>
      return (← exprText false .tuple target) ++ " = ".toList
    return [lineIndent depth ++ targets.flatten ++ (← exprText false .test value)]
  | .expression value => return [lineIndent depth ++ (← expressionLine leads value)]
  | .define name parameters body => do
    let heading := "def ".toList ++ name.toList ++
      '(' :: commaSeparated (parameters.map String.toList) ++ [')', ':']
    return [] :: (lineIndent depth ++ heading) :: (← bodyLines true (depth + 1) body)
  | .giveBack none => .ok [lineIndent depth ++ "return".toList]
  | .giveBack (some value) =>
    return [lineIndent depth ++ "return ".toList ++ (← exprText false .test value)]
  | .other form _ _ => .error (unwritable form)

/-- The lines of statements in order, given whether the first one leads. -/
def bodyLines (leads : Bool) (depth : Nat) : List Statement → Except Fault (List (List Char))
  | [] => .ok []
  | s :: statements =>
    return (← statementLines leads depth s) ++ (← bodyLines false depth statements)

end

/-- An expression as text. -/
def Expr.source (e : Expr) : Except Fault String :=
  return String.ofList (← exprText false .test e)

/-- A program as text. -/
def Module.source (m : Module) : Except Fault String := do
  let lines ← bodyLines true 0 m.statements
  let lines :=
    match m.statements with
    | .define _ _ _ :: _ => lines.drop 1
    | _ => lines
  return String.ofList (Text.joinWith ['\n'] lines)

end ElementMarkup.Host
