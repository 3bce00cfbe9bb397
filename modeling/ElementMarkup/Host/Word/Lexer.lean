import ElementMarkup.Host.Word.Margin
import ElementMarkup.Number.Numeral
import ElementMarkup.Text.Identifier

/-!
# Cutting a host program into words

Lines end statements, except within brackets, and the margin of a line tells which block its
statement belongs to.
-/

namespace ElementMarkup.Host

/-- The number of line ends in a text. -/
def lineEnds (cs : List Char) : Nat :=
  cs.count '\n'

/-- The body of a string up to its closing quote, and what follows. A string in single quotes stays
on its line. -/
def stringBody (quote : Char) (triple : Bool) : List Char → Option (List Char × List Char)
  | [] => none
  | '\\' :: c :: cs =>
    (stringBody quote triple cs).map fun (body, rest) => ('\\' :: c :: body, rest)
  | c :: cs =>
    if c = quote then
      if triple then
        match cs with
        | a :: b :: rest =>
          if a = quote ∧ b = quote then some ([], rest)
          else (stringBody quote triple (a :: b :: rest)).map fun (body, rest) => (c :: body, rest)
        | _ => none
      else some ([], cs)
    else if c = '\n' ∧ !triple then none
    else (stringBody quote triple cs).map fun (body, rest) => (c :: body, rest)

/-- The body of the string that starts with its quote, and what follows. -/
def quotedString? : List Char → Option (List Char × List Char)
  | a :: b :: c :: cs =>
    if a = b ∧ b = c then stringBody a true cs
    else if a = b then some ([], c :: cs)
    else stringBody a false (b :: c :: cs)
  | [a, b] => if a = b then some ([], []) else none
  | _ => none

/-- The character opens and closes strings. -/
def isQuote (c : Char) : Bool :=
  c == '\'' || c == '"'

/-- A decimal digit, as numbers in programs are written. -/
def isPlainDigit (c : Char) : Bool :=
  '0' ≤ c && c ≤ '9'

/-- A character that continues a name, or looks as if it did. -/
def isNameLike (c : Char) : Bool :=
  c.isAlphanum || c == '_' || 128 ≤ c.toNat

/-- The value of a digit in a base up to sixteen. -/
def digitIn? (base : Nat) (c : Char) : Option Nat :=
  let value :=
    if isPlainDigit c then some (c.toNat - '0'.toNat)
    else if 'a' ≤ c ∧ c ≤ 'f' then some (c.toNat - 'a'.toNat + 10)
    else if 'A' ≤ c ∧ c ≤ 'F' then some (c.toNat - 'A'.toNat + 10)
    else none
  value.filter (· < base)

/-- The number that digits stand for in a base, if they all are digits of it. -/
def valueIn? (base : Nat) (digits : List Char) : Option Nat :=
  digits.foldlM (fun n c => return base * n + (← digitIn? base c)) 0

/-- The digits of a base that go on at the start of a text, with single underscores before them, and
what follows. -/
def moreDigits (base : Nat) : List Char → List Char × List Char
  | [] => ([], [])
  | '_' :: c :: cs =>
    if (digitIn? base c).isSome then
      let (digits, rest) := moreDigits base cs
      (c :: digits, rest)
    else ([], '_' :: c :: cs)
  | c :: cs =>
    if (digitIn? base c).isSome then
      let (digits, rest) := moreDigits base cs
      (c :: digits, rest)
    else ([], c :: cs)

/-- The decimal digits at the start of a text, with single underscores between them, and what
follows. -/
def digitRun (cs : List Char) : List Char × List Char :=
  if (cs.head?.map isPlainDigit).getD false then moreDigits 10 cs else ([], cs)

/-- The exponent at the start of a text, if there is one, and what follows. -/
def exponentRun (cs : List Char) : List Char × List Char :=
  match cs with
  | letter :: sign :: rest =>
    if letter = 'e' ∨ letter = 'E' then
      let signed := sign = '+' ∨ sign = '-'
      let (digits, after) := digitRun (if signed then rest else sign :: rest)
      if digits.isEmpty then ([], cs)
      else ((if signed then ['e', sign] else ['e']) ++ digits, after)
    else ([], cs)
  | _ => ([], cs)

/-- The number that a text is. A whole number has no leading zeros, and only so many digits. -/
def numberValue? (cs : List Char) : Option Scalar := do
  let n ← Number.numeral? cs
  if n.isWhole then
    let isPadded := n.whole.head? = some '0' ∧ n.whole.any (· != '0')
    if isPadded ∨ integerDigitLimit < n.whole.length then none
    else return .integer n.toInt
  else return .float n.toBinary64

/-- The words that join expressions. -/
def joiningWords : List String :=
  ["if", "else", "for", "in"]

/-- A number may end in front of the text. Nothing that looks like a name may touch it, except a
word that joins expressions. -/
def endsNumber (rest : List Char) : Bool :=
  let follower := String.ofList (rest.takeWhile isNameLike)
  follower == "" || joiningWords.contains follower

/-- The base that a letter behind a zero announces. -/
def announcedBase? (c : Char) : Option Nat :=
  if c = 'x' ∨ c = 'X' then some 16
  else if c = 'o' ∨ c = 'O' then some 8
  else if c = 'b' ∨ c = 'B' then some 2
  else none

/-- The decimal number at the start of a text, and what follows. -/
def decimalWord? (cs : List Char) : Option (Scalar × List Char) := do
  let (whole, rest) := digitRun cs
  let (fraction, rest) :=
    match rest with
    | '.' :: rest =>
      let (digits, rest) := digitRun rest
      ('.' :: digits, rest)
    | rest => ([], rest)
  let (exponent, rest) := exponentRun rest
  if !endsNumber rest then none
  let value ← numberValue? (whole ++ fraction ++ exponent)
  return (value, rest)

/-- The number at the start of a text, and what follows. A zero and a letter announce a whole number
in another base than ten. -/
def numberWord? (cs : List Char) : Option (Scalar × List Char) :=
  match cs with
  | '0' :: letter :: digits =>
    match announcedBase? letter with
    | some base => do
      let (digits, rest) := moreDigits base digits
      if digits.isEmpty || !endsNumber rest then none
      let value ← valueIn? base digits
      return (.integer value, rest)
    | none => decimalWord? cs
  | cs => decimalWord? cs

/-- The characters that are words of their own, the brackets apart. Those that no form of the
language needs here are words too, which then stand in the wrong place. -/
def symbols : List Char :=
  [',', ':', '.', '=', '+', '-', '*', '/', '%', '@', '&', '|', '^', '~', '<', '>', '!', '?', '$',
    ';', '\x60']

/-- An opening bracket. -/
def isOpening (c : Char) : Bool :=
  c == '(' || c == '[' || c == '\x7b'

/-- A closing bracket. -/
def isClosing (c : Char) : Bool :=
  c == ')' || c == ']' || c == '\x7d'

/-- The brackets belong together. -/
def isBracketPair (opening closing : Char) : Bool :=
  [('(', ')'), ('[', ']'), ('\x7b', '\x7d')].contains (opening, closing)

/-- The greatest number of brackets within each other. -/
def bracketLimit : Nat := 200

/-- The brackets that are open after a bracket, with the innermost first, unless it closes none of
them or is one too many. -/
def afterBracket? (brackets : List Char) (c : Char) : Option (List Char) :=
  if isOpening c then (if brackets.length < bracketLimit then some (c :: brackets) else none)
  else
    match brackets with
    | opening :: brackets => if isBracketPair opening c then some brackets else none
    | [] => none

/-- Where the reading of a source stands: the brackets and blocks that are open, with the innermost
first, the line, and whether a statement may start here. -/
structure LineState where
  brackets : List Char
  blocks : List Margin
  line : Nat
  fresh : Bool

/-- The words that end a source. Inside brackets it just ends. -/
def finishWords (s : LineState) : List Word :=
  let dedents := List.replicate s.blocks.length ⟨.dedent, s.line⟩
  let newline := if s.fresh then [] else [⟨.newline, s.line⟩]
  let ends := if s.brackets.isEmpty then newline ++ dedents else []
  ends ++ [⟨.finish, s.line⟩]

/-- A word cut off a text: the word, if it is one, the text after it and the state there. -/
abbrev Cut := List Word × List Char × LineState

/-- Cuts off the name, or the string that is marked by a letter, at the start of a text. -/
def cutName (s : LineState) (cs : List Char) : Except HostFault Cut :=
  let name := cs.takeWhile isNameLike
  let rest := cs.dropWhile isNameLike
  let marked := (name == ['f'] || name == ['F']) && (rest.head?.map isQuote).getD false
  if marked then
    match quotedString? rest with
    | some (body, after) =>
      .ok ([⟨.string true body, s.line⟩], after, { s with line := s.line + lineEnds body })
    | none => .error (.invalidSyntax s.line)
  else if Text.isIdentifier name then
    .ok ([⟨.name (String.ofList name), s.line⟩], rest, s)
  else
    match name.find? fun c => !Text.isIdentifierRest c with
    | some c => .error (.strayCharacter c s.line)
    | none => .error (.invalidSyntax s.line)

/-- Cuts a word or blanks off a text within a line. -/
def cutWord (s : LineState) : List Char → Except HostFault Cut
  | [] => .ok ([], [], s)
  | '\n' :: cs =>
    let s := { s with line := s.line + 1 }
    if s.brackets.isEmpty then .ok ([⟨.newline, s.line - 1⟩], cs, { s with fresh := true })
    else .ok ([], cs, s)
  | '\\' :: '\n' :: c :: cs => .ok ([], c :: cs, { s with line := s.line + 1 })
  | '\\' :: cs => .error (.ofBackslash s.line cs)
  | '#' :: cs => .ok ([], cs.dropWhile (· != '\n'), s)
  | c :: cs =>
    if c = ' ' ∨ c = '\t' ∨ c = '\x0c' then .ok ([], cs, s)
    else if isQuote c then
      match quotedString? (c :: cs) with
      | some (body, after) =>
        .ok ([⟨.string false body, s.line⟩], after, { s with line := s.line + lineEnds body })
      | none => .error (.invalidSyntax s.line)
    else if isPlainDigit c || (c == '.' && (cs.head?.map isPlainDigit).getD false) then
      match numberWord? (c :: cs) with
      | some (value, after) => .ok ([⟨.number value, s.line⟩], after, s)
      | none => .error (.invalidSyntax s.line)
    else if isNameLike c then cutName s (c :: cs)
    else if isOpening c || isClosing c then
      match afterBracket? s.brackets c with
      | some brackets => .ok ([⟨.symbol c, s.line⟩], cs, { s with brackets })
      | none => .error (.invalidSyntax s.line)
    else if symbols.contains c then .ok ([⟨.symbol c, s.line⟩], cs, s)
    else .error (.strayCharacter c s.line)

/-- Cuts off the blanks in front of a line, or all of the line if there is no statement on it. -/
def cutIndent (s : LineState) (cs : List Char) : Except HostFault Cut := do
  let (margin, line, rest) ← Margin.measure 0 .zero s.line cs
  let s := { s with line }
  match rest with
  | [] => return ([], [], s)
  | '\n' :: after => return ([], after, { s with line := line + 1 })
  | '#' :: after => return ([], after.dropWhile (· != '\n'), s)
  | rest =>
    let (words, blocks) ← indentWords line margin s.blocks
    return (words, rest, { s with blocks, fresh := false })

/-- The words of a text, as far as the given number of cuts reaches. -/
def wordsWithin : Nat → LineState → List Char → List Word
  | 0, s, _ => [⟨.broken (.invalidSyntax s.line), s.line⟩]
  | _, s, [] => finishWords s
  | room + 1, s, cs =>
    match if s.fresh then cutIndent s cs else cutWord s cs with
    | .ok (words, rest, s) => words ++ wordsWithin room s rest
    | .error fault => [⟨.broken fault, s.line⟩]

/-- The words of a program. Each cut but one per line takes a character. -/
def wordsOfSource (cs : List Char) : List Word :=
  wordsWithin (2 * cs.length + 1) ⟨[], [], 1, true⟩ cs

/-- The words of an expression in a field of a format string, which is read as if it stood in
parentheses. -/
def wordsOfField (line : Nat) (cs : List Char) : List Word :=
  wordsWithin (2 * cs.length + 1) ⟨['('], [], line, false⟩ cs

end ElementMarkup.Host
