import ElementMarkup.Text.CombiningClass
import ElementMarkup.Text.Decomposition.Composite
import ElementMarkup.Text.Decomposition.StandIn

/-!
# Normal form

Texts that differ only in how their letters are put together have one normal form: all characters
are taken apart, the marks of each letter are put in order, and the letters are put together again
as far as possible. It is the compatibility composition of Unicode, for the characters that occur in
identifiers.
-/

namespace ElementMarkup.Text

namespace Hangul

/-- The first of the syllables. -/
def firstSyllable : Nat := 0xac00

/-- The first of the leading consonants. -/
def firstLead : Nat := 0x1100

/-- The first of the vowels. -/
def firstVowel : Nat := 0x1161

/-- The code point before the first of the trailing consonants. -/
def beforeTrail : Nat := 0x11a7

/-- The number of leading consonants. -/
def leadCount : Nat := 19

/-- The number of vowels. -/
def vowelCount : Nat := 21

/-- The number of ways to end a syllable: with one of the trailing consonants, or without. -/
def trailCount : Nat := 28

/-- The parts of a syllable, if the code point is one. -/
def parts? (n : Nat) : Option (List Nat) :=
  if firstSyllable ≤ n ∧ n < firstSyllable + leadCount * vowelCount * trailCount then
    let index := n - firstSyllable
    let lead := firstLead + index / trailCount / vowelCount
    let vowel := firstVowel + index / trailCount % vowelCount
    let trail := index % trailCount
    some (if trail = 0 then [lead, vowel] else [lead, vowel, beforeTrail + trail])
  else none

/-- The syllable that two characters make: a leading consonant and a vowel, or a syllable that ends
with its vowel and a trailing consonant. -/
def syllable? (a b : Nat) : Option Nat :=
  if firstLead ≤ a ∧ a < firstLead + leadCount ∧ firstVowel ≤ b ∧ b < firstVowel + vowelCount then
    some (firstSyllable + ((a - firstLead) * vowelCount + (b - firstVowel)) * trailCount)
  else if (parts? a).any (·.length == 2) ∧ beforeTrail < b ∧ b < beforeTrail + trailCount then
    some (a + (b - beforeTrail))
  else none

end Hangul

/-- The code points that a code point stands for in the end. One that stands for no others stands
for itself. -/
def partsOf (n : Nat) : List Nat :=
  ((Hangul.parts? n).or
    ((composites.findSome? (·.parts? n)).or (standIns.findSome? (·.parts? n)))).getD [n]

/-- The code point that two others make, if there is one in the normal form: a syllable, or the
composite letter that has the parts of the first one and then the second one. -/
def union? (a b : Nat) : Option Nat :=
  let parts := partsOf a ++ [b]
  (Hangul.syllable? a b).or ((composites.find? (·.parts == parts)).map (·.range.1))

/-- Puts a mark among the ones behind it: it goes behind those of lower classes. -/
def insertMark (c : Char) : List Char → List Char
  | [] => [c]
  | d :: ds =>
    if 0 < combiningClass d && combiningClass d < combiningClass c then d :: insertMark c ds
    else c :: d :: ds

/-- The text with the marks of each letter in order of their classes. Marks of one class stay as
they are. -/
def orderMarks : List Char → List Char
  | [] => []
  | c :: cs => insertMark c (orderMarks cs)

/-- Puts the characters behind a letter together with it, as far as possible. The marks that have to
stay behind the letter are given; a character gets past them only if it has a higher class than the
last of them. -/
def composeOnto (letter : Char) (marks : List Char) : List Char → List Char
  | [] => letter :: marks
  | c :: cs =>
    let isFree := marks.all fun d => combiningClass d < combiningClass c
    match if isFree then union? letter.toNat c.toNat else none with
    | some n => composeOnto (Char.ofNat n) marks cs
    | none =>
      if combiningClass c = 0 then letter :: marks ++ composeOnto c [] cs
      else composeOnto letter (marks ++ [c]) cs

/-- Puts letters and their marks together, as far as possible. Marks without a letter stay. -/
def compose : List Char → List Char
  | [] => []
  | c :: cs => if combiningClass c = 0 then composeOnto c [] cs else c :: compose cs

/-- The normal form of a text. Plain characters are left as they are. -/
def normalForm (cs : List Char) : List Char :=
  if cs.all (·.toNat < 128) then cs
  else compose (orderMarks (cs.flatMap fun c => (partsOf c.toNat).map Char.ofNat))

end ElementMarkup.Text
