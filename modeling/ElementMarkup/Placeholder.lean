import ElementMarkup.Fault
import ElementMarkup.Text.Digit

/-!
# Placeholders

The host's interpolations travel through the markup as numbered marks `/~N~/`. Neither `/~` nor
`~/` means anything in the markup, so a mark survives inside text and attribute values alike.
-/

namespace ElementMarkup.Placeholder

/-- A whole number in decimal digits. -/
def decimal : Int → List Char
  | .ofNat n => Nat.toDigits 10 n
  | .negSucc n => '-' :: Nat.toDigits 10 (n + 1)

/-- The mark around a text. -/
def mark (cs : List Char) : List Char :=
  '/' :: '~' :: cs ++ ['~', '/']

/-- The mark with the given number. -/
def token (index : Int) : List Char :=
  mark (decimal index)

/-- The digits of the mark at the start of a text, and what follows the mark. -/
def first? : List Char → Option (List Char × List Char)
  | '/' :: '~' :: cs =>
    match cs.takeWhile Text.isDigit, cs.dropWhile Text.isDigit with
    | d :: ds, '~' :: '/' :: rest => some (d :: ds, rest)
    | _, _ => none
  | _ => none

/-- What follows the mark at the start of a text is shorter than the text. -/
theorem length_lt_of_first? {cs digits rest : List Char} (h : first? cs = some (digits, rest)) :
    rest.length < cs.length := by
  unfold first? at h
  split at h
  · rename_i cs'
    split at h
    · rename_i htake hdrop
      have hle := (List.dropWhile_suffix Text.isDigit (l := cs')).length_le
      rw [hdrop] at hle
      cases h
      simp only [List.length_cons] at hle ⊢
      omega
    · cases h
  · cases h

/-- A text starts with a mark. -/
def startsWithMark (cs : List Char) : Bool :=
  (first? cs).isSome

/-- A text is a mark and nothing else. -/
def isMark (cs : List Char) : Bool :=
  match first? cs with
  | some (_, rest) => rest.isEmpty
  | none => false

/-- A text cut at its marks: what precedes the first mark, and for each mark its digits and what
follows it up to the next. -/
structure Pieces where
  head : List Char
  marks : List (List Char × List Char)
  deriving DecidableEq, Repr

/-- The text cut at its marks, which are found from left to right and do not overlap. -/
def split (cs : List Char) : Pieces :=
  match cs with
  | [] => ⟨[], []⟩
  | c :: rest =>
    match _h : first? (c :: rest) with
    | some (digits, after) =>
      let pieces := split after
      ⟨[], (digits, pieces.head) :: pieces.marks⟩
    | none =>
      let pieces := split rest
      ⟨c :: pieces.head, pieces.marks⟩
termination_by cs.length
decreasing_by
  · exact length_lt_of_first? _h
  · simp

/-- Where each mark of the pieces starts and ends, with its digits, the first piece starting at the
given place. -/
def marksFrom (start : Nat) (head : List Char) :
    List (List Char × List Char) → List (Nat × Nat × List Char)
  | [] => []
  | (digits, text) :: marks =>
    let first := start + head.length
    let last := first + digits.length + 4
    (first, last, digits) :: marksFrom last text marks

/-- Where each mark of a text starts and ends, with its digits. -/
def find (cs : List Char) : List (Nat × Nat × List Char) :=
  let pieces := split cs
  marksFrom 0 pieces.head pieces.marks

/-- The number that the digits of a mark stand for. -/
def index (digits : List Char) : Except Fault Nat :=
  if integerDigitLimit < digits.length then .error (.integerTooLong digits.length)
  else .ok (Text.digitsValue digits)

end ElementMarkup.Placeholder
