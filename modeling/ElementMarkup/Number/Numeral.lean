import ElementMarkup.Number.Binary64
import ElementMarkup.Text.Digit

/-!
# Numerals

A number as it is written: an optional minus sign, digits of any script with an optional point
among or beside them, and an optional exponent. Without a point and an exponent it is whole.
-/

namespace ElementMarkup.Number

/-- The parts of a written number. -/
structure Numeral where
  negative : Bool
  whole : List Char
  fraction : Option (List Char)
  exponent : Option (Bool × List Char)
  deriving DecidableEq, Repr

/-- The exponent that fills the rest of a numeral: nothing, or a letter, an optional sign and
digits. -/
def exponentPart? : List Char → Option (Option (Bool × List Char))
  | [] => some none
  | letter :: cs =>
    if letter = 'e' ∨ letter = 'E' then
      let (negative, digits) :=
        match cs with
        | '-' :: rest => (true, rest)
        | '+' :: rest => (false, rest)
        | rest => (false, rest)
      if digits.isEmpty || !digits.all Text.isDigit then none else some (some (negative, digits))
    else none

/-- The numeral that the text is, if it is one. -/
def numeral? (cs : List Char) : Option Numeral :=
  let (negative, cs) :=
    match cs with
    | '-' :: rest => (true, rest)
    | rest => (false, rest)
  let whole := cs.takeWhile Text.isDigit
  match cs.dropWhile Text.isDigit with
  | '.' :: rest =>
    let fraction := rest.takeWhile Text.isDigit
    if whole.isEmpty && fraction.isEmpty then none
    else do
      let exponent ← exponentPart? (rest.dropWhile Text.isDigit)
      return ⟨negative, whole, some fraction, exponent⟩
  | rest =>
    if whole.isEmpty then none
    else do
      let exponent ← exponentPart? rest
      return ⟨negative, whole, none, exponent⟩

namespace Numeral

/-- The numeral has neither a point nor an exponent. -/
def isWhole (n : Numeral) : Bool :=
  n.fraction.isNone && n.exponent.isNone

/-- The value of a whole numeral. -/
def toInt (n : Numeral) : Int :=
  let magnitude : Int := Text.digitsValue n.whole
  if n.negative then -magnitude else magnitude

/-- The value of the exponent. -/
def exponentValue (n : Numeral) : Int :=
  match n.exponent with
  | some (negative, digits) =>
    let magnitude : Int := Text.digitsValue digits
    if negative then -magnitude else magnitude
  | none => 0

/-- The double precision number nearest to the numeral. -/
def toBinary64 (n : Numeral) : Binary64 :=
  let fraction := n.fraction.getD []
  Binary64.ofDecimal n.negative (Text.digitsValue (n.whole ++ fraction))
    (n.exponentValue - fraction.length)

end Numeral

end ElementMarkup.Number
