import ElementMarkup.Text.Printable
import ElementMarkup.Text.Surrogate

/-!
# Quoted text

Error messages and printed sources show a text between quotes. The single quote is preferred; the
double quote is taken if the text holds single quotes and no double ones. A backslash, the quote
itself, line ends, tabs and all characters that are not printable are written as escapes.
-/

namespace ElementMarkup.Text

/-- A digit of the hexadecimal system, in lower case. -/
def hexDigit (n : Nat) : Char :=
  if n < 10 then Char.ofNat (48 + n) else Char.ofNat (87 + n)

/-- The last `width` hexadecimal digits of a number. -/
def hexDigits : Nat → Nat → List Char
  | 0, _ => []
  | width + 1, n => hexDigits width (n / 16) ++ [hexDigit (n % 16)]

/-- The escape for a code point: two digits after `\x`, four after `\u` or eight after `\U`,
whichever is the first that suffices. -/
def codePointEscape (n : Nat) : List Char :=
  if n < 0x100 then '\\' :: 'x' :: hexDigits 2 n
  else if n < 0x10000 then '\\' :: 'u' :: hexDigits 4 n
  else '\\' :: 'U' :: hexDigits 8 n

/-- How one character is written between the quotes. -/
def escapeChar (quote c : Char) : List Char :=
  if c = quote ∨ c = '\\' then ['\\', c]
  else if c = '\n' then ['\\', 'n']
  else if c = '\r' then ['\\', 'r']
  else if c = '\t' then ['\\', 't']
  else if isPrintable c then [c]
  else codePointEscape (codeOf c)

/-- The quote that stands around a text. -/
def quoteFor (cs : List Char) : Char :=
  if cs.contains '\'' && !cs.contains '"' then '"' else '\''

/-- What stands between the quotes. -/
def quotedBody (cs : List Char) : List Char :=
  cs.flatMap (escapeChar (quoteFor cs))

/-- The text between quotes. -/
def quoted (cs : List Char) : List Char :=
  quoteFor cs :: quotedBody cs ++ [quoteFor cs]

/-- The string between quotes. -/
def quotedString (s : String) : String :=
  String.ofList (quoted s.toList)

/-- How one byte is written between the quotes: as its character within the printable part of
ASCII, as an escape otherwise. -/
def escapeByte (quote : Char) (b : UInt8) : List Char :=
  let c := Char.ofNat b.toNat
  if c = quote ∨ c = '\\' then ['\\', c]
  else if c = '\n' then ['\\', 'n']
  else if c = '\r' then ['\\', 'r']
  else if c = '\t' then ['\\', 't']
  else if 32 ≤ b.toNat ∧ b.toNat < 127 then [c]
  else codePointEscape b.toNat

/-- A sequence of bytes between quotes, marked by a letter in front. -/
def quotedBytes (bytes : List UInt8) : List Char :=
  let quote := quoteFor (bytes.map fun b => Char.ofNat b.toNat)
  'b' :: quote :: bytes.flatMap (escapeByte quote) ++ [quote]

end ElementMarkup.Text
