/-!
# Surrogates

A program can write code points that are no characters, the surrogates. Each of them has a proxy, a
private character of the last plane, which takes its place in a text: it belongs to the same classes
of characters, so that it passes through a template in the same way. Where the text is written, the
proxy becomes the escape of the surrogate.
-/

namespace ElementMarkup.Text

/-- The first of the surrogates. -/
def firstSurrogate : Nat := 0xd800

/-- The number of surrogates. -/
def surrogateCount : Nat := 0x800

/-- The proxy of the first surrogate. The other ones follow in order. -/
def firstProxy : Nat := 0x10a800

/-- The character for a code point: its own one, or the proxy of a surrogate. -/
def charOfCode? (n : Nat) : Option Char :=
  if firstSurrogate ≤ n ∧ n < firstSurrogate + surrogateCount then
    some (Char.ofNat (n - firstSurrogate + firstProxy))
  else if n.isValidChar then some (Char.ofNat n)
  else none

/-- The code point that a character is written for. -/
def codeOf (c : Char) : Nat :=
  if firstProxy ≤ c.toNat ∧ c.toNat < firstProxy + surrogateCount then
    c.toNat - firstProxy + firstSurrogate
  else c.toNat

end ElementMarkup.Text
