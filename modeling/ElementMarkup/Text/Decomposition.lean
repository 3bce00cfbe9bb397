import ElementMarkup.Text.CodeRange
import ElementMarkup.Text.Lines

/-!
# Decompositions

Some characters stand for a sequence of others. The tables of such characters are kept as text, in
entries with blanks between them: `c0=41.300` says that one code point stands for two others,
`fb9e-fb9f=6ba` that each code point of a range stands for the same one, and `ff21-ff3a+41` that
those of a range stand for code points in a row. All numbers are hexadecimal.
-/

namespace ElementMarkup.Text

/-- What the code points of a range stand for: each for the same parts or, if `advances`, each for
the code point as far from the only part as it is from the start of the range. -/
structure Decomposition where
  range : CodeRange
  parts : List Nat
  advances : Bool
  deriving DecidableEq, Repr

namespace Decomposition

/-- The value of a hexadecimal digit in small letters. -/
def hexValue (c : Char) : Nat :=
  if c.isDigit then c.toNat - '0'.toNat else c.toNat - 'a'.toNat + 10

/-- The number that hexadecimal digits stand for. -/
def hexNumber (cs : List Char) : Nat :=
  cs.foldl (fun n c => 16 * n + hexValue c) 0

/-- The range that an entry is about. -/
def rangeOf (cs : List Char) : CodeRange :=
  match (splitOn '-' cs).map hexNumber with
  | [first, last] => (first, last)
  | numbers => (numbers.headD 0, numbers.headD 0)

/-- The decomposition that an entry describes. -/
def ofEntry (cs : List Char) : Decomposition :=
  let key := cs.takeWhile fun c => c != '=' && c != '+'
  let parts := (splitOn '.' (cs.drop (key.length + 1))).map hexNumber
  ⟨rangeOf key, parts, cs.contains '+'⟩

/-- The decompositions of a table, given its lines. -/
def ofLines (lines : List String) : List Decomposition :=
  lines.flatMap fun line => (splitOn ' ' line.toList).map ofEntry

/-- What a code point stands for, if the decomposition is about it. -/
def parts? (d : Decomposition) (n : Nat) : Option (List Nat) :=
  if d.range.1 ≤ n ∧ n ≤ d.range.2 then
    some (if d.advances then d.parts.map (· + (n - d.range.1)) else d.parts)
  else none

end Decomposition

end ElementMarkup.Text
