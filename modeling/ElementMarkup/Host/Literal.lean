import ElementMarkup.Host.Word.Lexer

/-!
# The text of string literals

What the body of a string stands for, and where the fields of a format string end.
-/

namespace ElementMarkup.Host

/-- The character whose code is written in the given base. -/
def charOfDigits? (base : Nat) (digits : List Char) : Option Char :=
  (valueIn? base digits).bind Text.charOfCode?

/-- The character that a letter after a backslash stands for. -/
def shortEscape? : Char → Option Char
  | '\\' => some '\\'
  | '\'' => some '\''
  | '"' => some '"'
  | 'n' => some '\n'
  | 't' => some '\t'
  | 'r' => some '\r'
  | 'a' => some '\x07'
  | 'b' => some '\x08'
  | 'f' => some '\x0c'
  | 'v' => some '\x0b'
  | _ => none

/-- The number of hexadecimal digits after a letter that announces them. -/
def escapeDigits? : Char → Option Nat
  | 'x' => some 2
  | 'u' => some 4
  | 'U' => some 8
  | _ => none

/-- The text that the body of a string stands for. The first argument is the number of characters
that belong to an escape and have been read with it. -/
def unescapeFrom (skip : Nat) : List Char → Option (List Char)
  | [] => some []
  | c :: cs =>
    match skip with
    | skip + 1 => unescapeFrom skip cs
    | 0 =>
      if c ≠ '\\' then (unescapeFrom 0 cs).map (c :: ·)
      else
        match cs with
        | [] => some [c]
        | letter :: rest =>
          let octal := ((letter :: rest).take 3).takeWhile fun d => (digitIn? 8 d).isSome
          if letter = '\n' then unescapeFrom 1 cs
          else if letter = 'N' then none
          else if !octal.isEmpty then do
            return (← charOfDigits? 8 octal) :: (← unescapeFrom octal.length cs)
          else
            match shortEscape? letter, escapeDigits? letter with
            | some value, _ => (unescapeFrom 1 cs).map (value :: ·)
            | none, some count =>
              if rest.length < count then none
              else do
                return (← charOfDigits? 16 (rest.take count)) :: (← unescapeFrom (count + 1) cs)
            | none, none => (unescapeFrom 0 cs).map (c :: ·)

/-- The text that the body of a string stands for. -/
def unescape (cs : List Char) : Option (List Char) :=
  unescapeFrom 0 cs

/-- Puts characters in front of the first of two texts. -/
def onto (front : List Char) (extent : Option (List Char × List Char)) :
    Option (List Char × List Char) :=
  extent.map fun (text, rest) => (front ++ text, rest)

/-- The expression of a field, up to the conversion, the specification or the brace behind it, and
what follows. Strings and brackets inside the expression hide such characters. -/
def fieldExtent (quote : Option (Char × Bool)) (depth : Nat) :
    List Char → Option (List Char × List Char)
  | [] => none
  | c :: cs =>
    if c = '\\' then none
    else
      match quote with
      | some (q, false) =>
        onto [c] (fieldExtent (if c = q then none else quote) depth cs)
      | some (q, true) =>
        match cs with
        | a :: b :: rest =>
          if c = q ∧ a = q ∧ b = q then onto [c, a, b] (fieldExtent none depth rest)
          else onto [c] (fieldExtent quote depth (a :: b :: rest))
        | _ => none
      | none =>
        if isQuote c then
          match cs with
          | a :: b :: rest =>
            if a = c ∧ b = c then onto [c, a, b] (fieldExtent (some (c, true)) depth rest)
            else onto [c] (fieldExtent (some (c, false)) depth (a :: b :: rest))
          | _ => none
        else if isOpening c then onto [c] (fieldExtent none (depth + 1) cs)
        else if c = '#' then none
        else
          match depth with
          | depth + 1 =>
            onto [c] (fieldExtent none (if isClosing c then depth else depth + 1) cs)
          | 0 =>
            if c = '!' ∨ c = ':' ∨ c = '\x7d' ∨ c = '=' then some ([], c :: cs)
            else if isClosing c then none
            else onto [c] (fieldExtent none 0 cs)

/-- The literal text at the start of a format string or, within the specification of a field, up to
the brace that ends it: the text as it is written, and what follows. Outside of specifications a
brace that is written twice is text; nothing is returned if a closing brace stands alone there. -/
def literalExtent (inSpec : Bool) : List Char → Option (List Char × List Char)
  | [] => some ([], [])
  | ['\\'] => some (['\\'], [])
  | '\\' :: c :: cs =>
    if c = '\x7b' ∨ c = '\x7d' then onto ['\\'] (literalExtent inSpec (c :: cs))
    else onto ['\\', c] (literalExtent inSpec cs)
  | [c] =>
    if c = '\x7b' then some ([], [c])
    else if c = '\x7d' then (if inSpec then some ([], [c]) else none)
    else some ([c], [])
  | c :: d :: cs =>
    if c = '\x7b' ∨ c = '\x7d' then
      if inSpec then some ([], c :: d :: cs)
      else if d = c then onto [c] (literalExtent inSpec cs)
      else if c = '\x7b' then some ([], c :: d :: cs)
      else none
    else onto [c] (literalExtent inSpec (d :: cs))

end ElementMarkup.Host
