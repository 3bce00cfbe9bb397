import ElementMarkup.Number.Shortest
import ElementMarkup.Scalar
import ElementMarkup.Text.Quoted

/-!
# Constants as text

How constants are written in a program of the host language, and how they turn into text when they
are formatted.
-/

namespace ElementMarkup.Host

/-- A number as it is written in a program. Infinity is written as a number that is too large, and
a number that is none as a difference of such. -/
def floatSource (x : Number.Binary64) : List Char :=
  if x.isNaN then "(1e309-1e309)".toList
  else if x.isInfinite then (if x.isNegative then "-1e309".toList else "1e309".toList)
  else x.text

/-- A whole number in decimal digits. -/
def integerText (n : Int) : List Char :=
  (toString n).toList

/-- The words for truth values. -/
def booleanText (b : Bool) : List Char :=
  if b then "True".toList else "False".toList

/-- The word for the null value. -/
def nullText : List Char :=
  "None".toList

/-- A constant as it is written in a program. -/
def constantSource : Scalar → List Char
  | .text s => Text.quoted s.toList
  | .integer n => integerText n
  | .float x => floatSource x
  | .boolean b => booleanText b
  | .null => nullText
  | .bytes bs => Text.quotedBytes bs

/-- The text that a constant turns into when it is formatted. -/
def formatted : Scalar → String
  | .text s => s
  | .integer n => String.ofList (integerText n)
  | .float x => String.ofList x.text
  | .boolean b => String.ofList (booleanText b)
  | .null => String.ofList nullText
  | .bytes bs => String.ofList (Text.quotedBytes bs)

end ElementMarkup.Host
