import ElementMarkup.Host.Word

/-!
# Margins

The blanks in front of a statement tell which block it belongs to. They are measured with tabs of
two widths, and a program is refused where its blocks would depend on the width of a tab.
-/

namespace ElementMarkup.Host

/-- The blanks in front of a line, measured twice: with tabs that reach to the next multiple of
eight, and with tabs that are as wide as spaces. -/
structure Margin where
  wide : Nat
  narrow : Nat
  deriving DecidableEq, Repr

namespace Margin

/-- The margin of a line without blanks in front. -/
def zero : Margin :=
  ⟨0, 0⟩

/-- The margin with one more blank, unless the character is none. A form feed starts it anew. -/
def extend? (m : Margin) (c : Char) : Option Margin :=
  if c = ' ' then some ⟨m.wide + 1, m.narrow + 1⟩
  else if c = '\t' then some ⟨(m.wide / 8 + 1) * 8, m.narrow + 1⟩
  else if c = '\x0c' then some zero
  else none

/-- The margin of a line that was continued behind blanks of the given width. They decide, if there
are any. -/
def continued (m : Margin) (width : Nat) : Margin :=
  if width = 0 then m else ⟨width, width⟩

/-- Measures the blanks at the start of a text, and returns them with the line they end on and what
follows. A backslash at the end of a line goes on with the next one; `width` is that of the blanks
in front of the first backslash with blanks in front. -/
def measure (width : Nat) (m : Margin) (line : Nat) :
    List Char → Except HostFault (Margin × Nat × List Char)
  | [] => .ok (m.continued width, line, [])
  | '\\' :: '\n' :: c :: cs => measure (m.continued width).wide m (line + 1) (c :: cs)
  | c :: cs =>
    match m.extend? c with
    | some m => measure width m line cs
    | none =>
      if c = '\\' then .error (.ofBackslash line cs) else .ok (m.continued width, line, c :: cs)

end Margin

/-- The blocks that stay open at a line of the given margin, with the innermost first, and the
number of those that close. -/
def closeBlocks (m : Margin) : List Margin → Nat × List Margin
  | [] => (0, [])
  | top :: blocks =>
    if m.wide < top.wide then
      let (closed, left) := closeBlocks m blocks
      (closed + 1, left)
    else (0, top :: blocks)

/-- The greatest number of blocks within each other. -/
def blockLimit : Nat := 99

/-- The words that the margin of a line stands for, and the blocks that are open after them. A line
opens a block only if it is deeper by both measures, and goes on with one only if it is equal by
both. -/
def indentWords (line : Nat) (m : Margin) (blocks : List Margin) :
    Except HostFault (List Word × List Margin) :=
  let (closed, left) := closeBlocks m blocks
  let top := left.headD .zero
  if m.wide = top.wide then
    if m.narrow = top.narrow then .ok (List.replicate closed ⟨.dedent, line⟩, left)
    else .error (.indentation .mixed line)
  else if closed ≠ 0 then .error (.indentation .unmatched line)
  else if blockLimit ≤ blocks.length then .error (.indentation .tooDeep line)
  else if m.narrow ≤ top.narrow then .error (.indentation .mixed line)
  else .ok ([⟨.indent, line⟩], m :: blocks)

end ElementMarkup.Host
