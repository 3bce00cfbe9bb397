import ElementMarkup.Host.Expr
import ElementMarkup.Host.Literal
import ElementMarkup.Text.Blank
import ElementMarkup.Text.NormalForm

/-!
# Reading host programs

A reader by recursive descent for part of the host language: assignments, expressions, function
definitions and return statements. Each function reads one form from the start of the words and
returns the words after it. The number that the functions take bounds how deep they call each other;
it is chosen so large that no program reaches it.
-/

namespace ElementMarkup.Host

namespace Reader

/-- Reads something from the start of the words. -/
abbrev Step (α : Type) := List Word → Except HostFault (α × List Word)

/-- The line of the first of the words. -/
def lineOf (words : List Word) : Nat :=
  (words.head?.map Word.line).getD 1

/-- The words cannot go on like this. -/
def stuck {α : Type} : List Word → Except HostFault α
  | ⟨.broken fault, _⟩ :: _ => .error fault
  | words => .error (.invalidSyntax (lineOf words))

/-- The symbol at the start of the words. -/
def symbol? : List Word → Option Char
  | ⟨.symbol c, _⟩ :: _ => some c
  | _ => none

/-- The name or reserved word at the start of the words. -/
def name? : List Word → Option String
  | ⟨.name s, _⟩ :: _ => some s
  | _ => none

/-- The words after the given symbol, which has to come first. -/
def expectSymbol (c : Char) (words : List Word) : Except HostFault (List Word) :=
  if symbol? words = some c then .ok (words.drop 1) else stuck words

/-- The words after the given reserved word, which has to come first. -/
def expectName (s : String) (words : List Word) : Except HostFault (List Word) :=
  if name? words = some s then .ok (words.drop 1) else stuck words

/-- The variable that a name stands for. Names with the same normal form stand for one variable, but
only the plain spelling of a reserved word is reserved. -/
def variableOf (name : String) : String :=
  String.ofList (Text.normalForm name.toList)

/-- Reads the name of a variable. -/
def readVariable : Step String
  | ⟨.name s, line⟩ :: words =>
    if isVariable s then .ok (variableOf s, words) else stuck (⟨.name s, line⟩ :: words)
  | words => stuck words

/-- A value can be assigned to the expression. -/
def isTarget : Expr → Bool
  | .name _ => true
  | .member _ _ => true
  | .subscript _ _ => true
  | .tuple items => allTargets items
  | .list items => allTargets items
  | _ => false
where
  /-- A value can be assigned to each of the expressions. -/
  allTargets : List Expr → Bool
    | [] => true
    | e :: es => isTarget e && allTargets es

/-- The next word cannot start an expression, so that a list of expressions ends before it. -/
def endsList (words : List Word) : Bool :=
  match words with
  | ⟨.symbol c, _⟩ :: _ => [')', ']', '\x7d', '=', ':'].contains c
  | ⟨.newline, _⟩ :: _ => true
  | ⟨.finish, _⟩ :: _ => true
  | ⟨.name s, _⟩ :: _ => s == "in"
  | _ => false

/-- The literal text of a format string as a part, unless it is empty. -/
def literalPart (cs : List Char) : List Expr :=
  if cs.isEmpty then [] else [.text (String.ofList cs)]

/-- The conversions of a field by the letters that ask for them. -/
def conversion? (c : Char) : Option Int :=
  if c = 's' ∨ c = 'r' ∨ c = 'a' then some c.toNat else none

/-- The conversion at the start of a text, if it asks for one, and what follows. -/
def readConversion (line : Nat) : List Char → Except HostFault (Int × List Char)
  | '!' :: c :: cs =>
    match conversion? c with
    | some conversion => .ok (conversion, cs)
    | none => .error (.invalidSyntax line)
  | cs => .ok (-1, cs)

/-- The field shows its own text, with the blanks behind the sign that asks for it: the text, and
what follows it. -/
def readEcho (text : List Char) : List Char → Option (List Char) × List Char
  | '=' :: cs =>
    let gap := cs.takeWhile Text.isPlainBlank
    (some (text ++ '=' :: gap), cs.drop gap.length)
  | cs => (none, cs)

mutual

/-- Reads an expression, or several with commas between them as a tuple. -/
def readExpressions : Nat → Step Expr
  | 0, words => stuck words
  | room + 1, words => do
    let (first, words) ← readExpression room words
    if symbol? words = some ',' then
      let (rest, words) ← readMore room words
      return (.tuple (first :: rest), words)
    return (first, words)

/-- Reads expressions with a comma in front of each. A comma may also end them. -/
def readMore : Nat → Step (List Expr)
  | 0, words => stuck words
  | room + 1, words =>
    if symbol? words = some ',' then
      let words := words.drop 1
      if endsList words then .ok ([], words)
      else do
        let (e, words) ← readExpression room words
        let (es, words) ← readMore room words
        return (e :: es, words)
    else .ok ([], words)

/-- Reads an expression, which may be a conditional. -/
def readExpression : Nat → Step Expr
  | 0, words => stuck words
  | room + 1, words => do
    let (body, words) ← readSum room words
    if name? words = some "if" then
      let (test, words) ← readSum room (words.drop 1)
      let words ← expectName "else" words
      let (orElse, words) ← readExpression room words
      return (.conditional test body orElse, words)
    return (body, words)

/-- Reads a sum. -/
def readSum : Nat → Step Expr
  | 0, words => stuck words
  | room + 1, words => do
    let (first, words) ← readProduct room words
    readSumRest room first words

/-- Reads the operands that are added to or subtracted from the first one. -/
def readSumRest : Nat → Expr → Step Expr
  | 0, _, words => stuck words
  | room + 1, left, words =>
    match symbol? words with
    | some '+' => do
      let (right, words) ← readProduct room (words.drop 1)
      readSumRest room (.binary left .add right) words
    | some '-' => do
      let (right, words) ← readProduct room (words.drop 1)
      readSumRest room (.binary left .sub right) words
    | _ => .ok (left, words)

/-- Reads a product. -/
def readProduct : Nat → Step Expr
  | 0, words => stuck words
  | room + 1, words => do
    let (first, words) ← readSigned room words
    readProductRest room first words

/-- Reads the operands that the first one is multiplied by. -/
def readProductRest : Nat → Expr → Step Expr
  | 0, _, words => stuck words
  | room + 1, left, words =>
    if symbol? words = some '*' then do
      let (right, words) ← readSigned room (words.drop 1)
      readProductRest room (.binary left .mul right) words
    else .ok (left, words)

/-- Reads an operand with signs in front of it. -/
def readSigned : Nat → Step Expr
  | 0, words => stuck words
  | room + 1, words =>
    if symbol? words = some '-' then do
      let (operand, words) ← readSigned room (words.drop 1)
      return (.negate operand, words)
    else do
      let (e, rest) ← readAtom room words
      readTrailers room (lineOf words) e rest

/-- Reads the members, calls and subscripts behind an expression that starts on the given line. -/
def readTrailers : Nat → Nat → Expr → Step Expr
  | 0, _, _, words => stuck words
  | room + 1, line, e, words =>
    match symbol? words with
    | some '.' => do
      let (attr, words) ← readVariable (words.drop 1)
      readTrailers room line (.member e attr) words
    | some '(' => do
      let ((arguments, keywords), words) ← readArguments room (words.drop 1)
      readTrailers room line
        (.call line e arguments (keywords.map (·.1)) (keywords.map (·.2))) words
    | some '[' => do
      let (index, words) ← readExpressions room (words.drop 1)
      let words ← expectSymbol ']' words
      readTrailers room line (.subscript e index) words
    | _ => .ok (e, words)

/-- Reads the arguments of a call up to the closing parenthesis: those by position, then those by
keyword. -/
def readArguments : Nat → Step (List Expr × List (String × Expr))
  | 0, words => stuck words
  | room + 1, words =>
    if symbol? words = some ')' then .ok (([], []), words.drop 1)
    else if (name? words).isSome && symbol? (words.drop 1) == some '=' then do
      let (name, words) ← readVariable words
      let (value, words) ← readExpression room (words.drop 1)
      let (rest, words) ← readNextArguments room words
      if rest.1.isEmpty then return (([], (name, value) :: rest.2), words)
      stuck words
    else do
      let (e, words) ← readExpression room words
      let ((arguments, keywords), words) ← readNextArguments room words
      return ((e :: arguments, keywords), words)

/-- Reads the arguments after the comma behind one, or the closing parenthesis. -/
def readNextArguments : Nat → Step (List Expr × List (String × Expr))
  | 0, words => stuck words
  | room + 1, words =>
    match symbol? words with
    | some ',' => readArguments room (words.drop 1)
    | some ')' => .ok (([], []), words.drop 1)
    | _ => stuck words

/-- Reads a name, a constant, a string or something in brackets. -/
def readAtom : Nat → Step Expr
  | 0, words => stuck words
  | room + 1, words =>
    match words with
    | ⟨.name "None", _⟩ :: rest => .ok (.constant .null, rest)
    | ⟨.name "True", _⟩ :: rest => .ok (.constant (.boolean true), rest)
    | ⟨.name "False", _⟩ :: rest => .ok (.constant (.boolean false), rest)
    | ⟨.name s, _⟩ :: rest => if isVariable s then .ok (.name (variableOf s), rest) else stuck words
    | ⟨.number value, _⟩ :: rest => .ok (.constant value, rest)
    | ⟨.string false body, line⟩ :: rest =>
      match unescape body with
      | some text => .ok (.text (String.ofList text), rest)
      | none => .error (.invalidSyntax line)
    | ⟨.string true body, line⟩ :: rest => do
      let (parts, _) ← readParts room false 0 line body
      return (.formatString parts, rest)
    | ⟨.symbol '(', _⟩ :: rest =>
      if symbol? rest = some ')' then .ok (.tuple [], rest.drop 1)
      else do
        let (e, rest) ← readExpressions room rest
        return (e, ← expectSymbol ')' rest)
    | ⟨.symbol '[', _⟩ :: rest =>
      if symbol? rest = some ']' then .ok (.list [], rest.drop 1)
      else do
        let (first, rest) ← readExpression room rest
        if name? rest = some "for" then
          let (target, rest) ← readTarget room (rest.drop 1)
          let rest ← expectName "in" rest
          let (source, rest) ← readSum room rest
          return (.comprehension first target source, ← expectSymbol ']' rest)
        let (more, rest) ← readMore room rest
        return (.list (first :: more), ← expectSymbol ']' rest)
    | ⟨.symbol '\x7b', _⟩ :: rest => do
      let (pairs, rest) ← readEntries room rest
      return (.dict (pairs.map (·.1)) (pairs.map (·.2)), rest)
    | words => stuck words

/-- Reads what a comprehension assigns to. -/
def readTarget : Nat → Step Expr
  | 0, words => stuck words
  | room + 1, words => do
    let (first, rest) ← readSigned room words
    let (target, rest) ←
      if symbol? rest = some ',' then do
        let (more, rest) ← readMore room rest
        pure (Expr.tuple (first :: more), rest)
      else pure (first, rest)
    if isTarget target then return (target, rest)
    stuck words

/-- Reads the entries of a dictionary up to the closing brace. -/
def readEntries : Nat → Step (List (Expr × Expr))
  | 0, words => stuck words
  | room + 1, words =>
    if symbol? words = some '\x7d' then .ok ([], words.drop 1)
    else do
      let (key, words) ← readExpression room words
      let words ← expectSymbol ':' words
      let (value, words) ← readExpression room words
      match symbol? words with
      | some ',' =>
        let (entries, words) ← readEntries room (words.drop 1)
        return ((key, value) :: entries, words)
      | some '\x7d' => return ([(key, value)], words.drop 1)
      | _ => stuck words

/-- Reads the parts of a format string, or those of a specification up to the brace that ends it.
Fields may be nested two deep. -/
def readParts : Nat → Bool → Nat → Nat → List Char → Except HostFault (List Expr × List Char)
  | 0, _, _, line, _ => .error (.invalidSyntax line)
  | room + 1, inSpec, depth, line, cs =>
    match literalExtent inSpec cs with
    | none => .error (.invalidSyntax line)
    | some (raw, rest) =>
      let line := line + lineEnds raw
      match unescape raw, rest with
      | none, _ => .error (.invalidSyntax line)
      | some text, '\x7b' :: rest => do
        let (echo, field, after) ← readField room depth line rest
        let line := line + (lineEnds rest - lineEnds after)
        let (parts, after) ← readParts room inSpec depth line after
        return (literalPart (text ++ echo) ++ field :: parts, after)
      | some text, rest => .ok (literalPart text, rest)

/-- Reads a field of a format string after its opening brace, together with the text that it shows
in front of its value. -/
def readField : Nat → Nat → Nat → List Char → Except HostFault (List Char × Expr × List Char)
  | 0, _, line, _ => .error (.invalidSyntax line)
  | room + 1, depth, line, cs =>
    match fieldExtent none 0 cs with
    | none => .error (.invalidSyntax line)
    | some (text, rest) => do
      if 2 ≤ depth then throw (.invalidSyntax line)
      let (value, left) ← readExpressions room (wordsOfField line text)
      match left with
      | [⟨.finish, _⟩] =>
        let (echo, rest) := readEcho text rest
        let (conversion, rest) ← readConversion line rest
        let (spec, rest) ←
          match rest with
          | ':' :: rest => do
            let (parts, rest) ← readParts room true (depth + 1) (line + lineEnds text) rest
            pure (some (Expr.formatString parts), rest)
          | rest => pure (none, rest)
        match rest with
        | '\x7d' :: rest =>
          let conversion :=
            if echo.isSome ∧ conversion = -1 ∧ spec.isNone then ('r'.toNat : Int) else conversion
          return (echo.getD [], .field value conversion spec, rest)
        | _ => throw (.invalidSyntax line)
      | _ => stuck left

end

/-- Reads the names of the parameters of a function up to the closing parenthesis. -/
def readParameters : Nat → Step (List String)
  | 0, words => stuck words
  | room + 1, words =>
    if symbol? words = some ')' then .ok ([], words.drop 1)
    else do
      let (name, words) ← readVariable words
      match symbol? words with
      | some ',' =>
        let (names, words) ← readParameters room (words.drop 1)
        return (name :: names, words)
      | some ')' => return ([name], words.drop 1)
      | _ => stuck words

/-- Reads the rest of an assignment: the targets so far, in order, and the latest expression. -/
def readAssignment : Nat → List Expr → Expr → Step Statement
  | 0, _, _, words => stuck words
  | room + 1, targets, e, words =>
    if symbol? words = some '=' then
      if isTarget e then do
        let (next, words) ← readExpressions room (words.drop 1)
        readAssignment room (targets ++ [e]) next words
      else stuck words
    else if targets.isEmpty then .ok (.expression e, words)
    else .ok (.assign targets e, words)

/-- The words after the end of a line, which has to come first. -/
def expectNewline : List Word → Except HostFault (List Word)
  | ⟨.newline, _⟩ :: words => .ok words
  | words => stuck words

/-- Reads a statement that fits on a line, with the end of the line. -/
def readSimple (room : Nat) (words : List Word) : Except HostFault (Statement × List Word) := do
  let (s, words) ←
    if name? words = some "return" then
      if endsList (words.drop 1) then pure (Statement.giveBack none, words.drop 1)
      else do
        let (e, words) ← readExpressions room (words.drop 1)
        pure (Statement.giveBack (some e), words)
    else do
      let (e, words) ← readExpressions room words
      readAssignment room [] e words
  return (s, ← expectNewline words)

/-- The fault where the block of the definition on the given line is missing. If the text further on
cannot be cut into words, then that is the fault, unless only the layout is wrong there. -/
def missingBlock (opener : Nat) (words : List Word) : HostFault :=
  let broken? := words.findSome? fun
    | ⟨.broken fault, _⟩ => some fault
    | _ => none
  match broken?.filter (!·.isLayout) with
  | some fault => fault
  | none => .indentation (.missing opener) (lineOf words)

mutual

/-- Reads a statement. -/
def readStatement : Nat → Step Statement
  | 0, words => stuck words
  | room + 1, words =>
    if name? words = some "def" then do
      let opener := lineOf words
      let (name, words) ← readVariable (words.drop 1)
      let words ← expectSymbol '(' words
      let (parameters, words) ← readParameters room words
      let words ← expectSymbol ':' words
      let (body, words) ← readBlock room opener words
      return (.define name parameters body, words)
    else readSimple room words

/-- Reads the body of the definition on the given line: a statement on the same line, or an indented
block. -/
def readBlock : Nat → Nat → Step (List Statement)
  | 0, _, words => stuck words
  | room + 1, opener, words =>
    match words with
    | ⟨.newline, _⟩ :: ⟨.indent, _⟩ :: words => do
      let (first, words) ← readStatement room words
      let (rest, words) ← readStatements room words
      match words with
      | ⟨.dedent, _⟩ :: words => return (first :: rest, words)
      | words => stuck words
    | ⟨.newline, _⟩ :: ⟨.broken fault, _⟩ :: _ => .error fault
    | ⟨.newline, _⟩ :: words => .error (missingBlock opener words)
    | words => do
      let (s, words) ← readSimple room words
      return ([s], words)

/-- Reads statements as long as there are some in the block. -/
def readStatements : Nat → Step (List Statement)
  | 0, words => stuck words
  | room + 1, words =>
    match words with
    | ⟨.dedent, _⟩ :: _ => .ok ([], words)
    | ⟨.finish, _⟩ :: _ => .ok ([], words)
    | ⟨.indent, line⟩ :: _ => .error (.indentation .unexpected line)
    | words => do
      let (s, words) ← readStatement room words
      let (rest, words) ← readStatements room words
      return (s :: rest, words)

end

/-- Calls of the reader per character: no character opens more than this many nested forms. -/
def roomPerCharacter : Nat := 16

end Reader

/-- The text of a program with its line ends unified. A carriage return and a line feed at its very
end leave an empty line behind, so that a backslash in front of them has a line to continue on. -/
def programText (cs : List Char) : List Char :=
  let unified := Text.unifyFileLineEnds cs
  if ['\r', '\n'].isSuffixOf cs then unified ++ ['\n'] else unified

/-- Reads a program. A null character is refused wherever it stands, before anything is read. -/
def Module.ofSource (source : String) : Except HostFault Module := do
  let cs := programText source.toList
  if cs.contains '\x00' then throw .nullCharacter
  let words := wordsOfSource cs
  let (statements, rest) ←
    Reader.readStatements (Reader.roomPerCharacter * (cs.length + 4)) words
  match rest with
  | [⟨.finish, _⟩] => return ⟨statements⟩
  | rest => Reader.stuck rest

end ElementMarkup.Host
