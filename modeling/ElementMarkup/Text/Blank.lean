import ElementMarkup.Text.CodeRange

/-!
# Blank characters

Spaces, tabs, line ends and the other characters that show nothing. A line that holds only these
is blank.
-/

namespace ElementMarkup.Text

/-- The code points of blank characters (Unicode 14). -/
def blankRanges : List CodeRange := [
  (0x9, 0xd), (0x1c, 0x20), (0x85, 0x85), (0xa0, 0xa0), (0x1680, 0x1680), (0x2000, 0x200a),
  (0x2028, 0x2029), (0x202f, 0x202f), (0x205f, 0x205f), (0x3000, 0x3000)]

/-- A character that shows nothing. -/
def isBlank (c : Char) : Bool :=
  inRanges blankRanges c.toNat

/-- A space, a tab, or a blank of ASCII that ends a line or page. The separators of ASCII are blanks
too, but not among these. -/
def isPlainBlank (c : Char) : Bool :=
  c == ' ' || (0x9 ≤ c.toNat && c.toNat ≤ 0xd)

/-- The text holds only blank characters. -/
def allBlank (cs : List Char) : Bool :=
  cs.all isBlank

/-- The text without the characters of a kind that stand around it. -/
def trimWhere (p : Char → Bool) (cs : List Char) : List Char :=
  ((cs.dropWhile p).reverse.dropWhile p).reverse

/-- The text without its leading blanks. -/
def trimStart (cs : List Char) : List Char :=
  cs.dropWhile isBlank

/-- The text without its trailing blanks. -/
def trimEnd (cs : List Char) : List Char :=
  (cs.reverse.dropWhile isBlank).reverse

/-- The text without the blanks around it. -/
def trim (cs : List Char) : List Char :=
  trimEnd (trimStart cs)

/-- Trimming the start never makes a text longer. -/
theorem length_trim_start_le (cs : List Char) : (trimStart cs).length ≤ cs.length :=
  (List.dropWhile_suffix isBlank).length_le

end ElementMarkup.Text
