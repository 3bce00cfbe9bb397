import ElementMarkup.Proofs.Attributes
import ElementMarkup.Proofs.Placeholder
import Mathlib.Data.List.DropRight

/-!
# Merged values

What a property has in the end depends only on the values that are set for it, in order: the last
one, or the texts that stand last joined with spaces (`combined_eq_settled`). Joining leaves the
marks in the texts as they are: `find_from_append_space` says so for two texts with a space between
them, where the marks of the second one move by the length of what stands before it. Main statement:
`merge_closed_form`.
-/

namespace ElementMarkup

/-! ## Marks in joined texts -/

namespace Placeholder

/-- A mark that is found further on in a text. -/
def moved (distance : Nat) (found : Nat × Nat × List Char) : Nat × Nat × List Char :=
  (distance + found.1, distance + found.2.1, found.2.2)

/-- The marks of a text that starts at the given place. -/
def findFrom (start : Nat) (cs : List Char) : List (Nat × Nat × List Char) :=
  marksFrom start (split cs).head (split cs).marks

/-- A mark at the start of a text is the first one that is found. -/
theorem find_from_of_first? {cs digits after : List Char} (h : first? cs = some (digits, after))
    (start : Nat) :
    findFrom start cs =
      (start, start + digits.length + 4, digits) ::
        findFrom (start + digits.length + 4) after := by
  cases cs with
  | nil => cases h
  | cons c rest =>
      rw [findFrom, split]
      split
      · rename_i h'
        rw [h] at h'
        cases h'
        rfl
      · rename_i h'
        rw [h] at h'
        cases h'

/-- Where no mark starts the marks are found further on. -/
theorem find_from_cons {c : Char} {rest : List Char} (h : first? (c :: rest) = none)
    (start : Nat) : findFrom start (c :: rest) = findFrom (start + 1) rest := by
  rw [findFrom, split]
  split
  · rename_i h'
    rw [h] at h'
    cases h'
  · show marksFrom start (c :: (split rest).head) (split rest).marks = _
    rw [findFrom]
    cases (split rest).marks with
    | nil => rfl
    | cons mark marks =>
        rw [marksFrom, marksFrom, List.length_cons,
          show start + ((split rest).head.length + 1) =
            start + 1 + (split rest).head.length by omega]

/-- What stands at the start of a text is a mark, which is four characters longer than its digits,
and what follows it. -/
theorem length_of_first? {cs digits after : List Char} (h : first? cs = some (digits, after)) :
    cs.length = digits.length + 4 + after.length := by
  unfold first? at h
  split at h
  · rename_i inner
    split at h
    · rename_i d ds rest htake hdrop
      cases h
      have hinner := congrArg List.length
        (@List.takeWhile_append_dropWhile _ Text.isDigit inner)
      rw [htake, hdrop] at hinner
      simp only [List.length_append, List.length_cons] at hinner ⊢
      omega
    · cases h
  · cases h

/-- The marks of two texts with a space between them are those of the first one and those of the
second one. -/
theorem find_from_append_space (start : Nat) (cs rest : List Char) :
    findFrom start (cs ++ ' ' :: rest) =
      findFrom start cs ++ findFrom (start + cs.length + 1) rest := by
  fun_induction split cs generalizing start with
  | case1 =>
      have hnone : findFrom start [] = [] := by rw [findFrom, split]; rfl
      rw [hnone]
      exact find_from_cons (first?_append_space [] rest) start
  | case2 c tail digits after hfirst pieces ih =>
      have hmore : first? (c :: tail ++ ' ' :: rest) = some (digits, after ++ ' ' :: rest) := by
        rw [first?_append_space, hfirst]
        rfl
      rw [find_from_of_first? hmore, find_from_of_first? hfirst, ih, length_of_first? hfirst,
        List.cons_append,
        show start + digits.length + 4 + after.length + 1 =
          start + (digits.length + 4 + after.length) + 1 by omega]
  | case3 c tail hfirst pieces ih =>
      have hmore : first? (c :: (tail ++ ' ' :: rest)) = none := by
        rw [← List.cons_append, first?_append_space, hfirst]
        rfl
      rw [List.cons_append, find_from_cons hmore, find_from_cons hfirst, ih, List.length_cons,
        show start + 1 + tail.length + 1 = start + (tail.length + 1) + 1 by omega]

/-- Marks are found at other places if the text starts elsewhere. -/
theorem marks_from_add (distance start : Nat) (head : List Char)
    (marks : List (List Char × List Char)) :
    marksFrom (distance + start) head marks =
      (marksFrom start head marks).map (moved distance) := by
  induction marks generalizing start head with
  | nil => rfl
  | cons mark marks ih =>
      rw [marksFrom, marksFrom, List.map_cons, ← ih, moved]
      simp only [Nat.add_assoc]

/-- The marks of a text that starts at a place are those of the text, moved to there. -/
theorem find_from_eq_map (start : Nat) (cs : List Char) :
    findFrom start cs = (find cs).map (moved start) :=
  marks_from_add start 0 (split cs).head (split cs).marks

/-- The marks of texts in a row with one character between each two of them, the first text starting
at the given place. -/
def findInRow (start : Nat) : List (List Char) → List (Nat × Nat × List Char)
  | [] => []
  | cs :: more => (find cs).map (moved start) ++ findInRow (start + cs.length + 1) more

/-- Joining texts with spaces neither makes nor breaks a mark. -/
theorem find_from_join_with (start : Nat) (parts : List (List Char)) :
    findFrom start (Text.joinWith [' '] parts) = findInRow start parts := by
  induction parts generalizing start with
  | nil =>
      show findFrom start [] = []
      rw [findFrom, split]
      rfl
  | cons part parts ih =>
      cases parts with
      | nil =>
          rw [Text.joinWith, List.intercalate_singleton, find_from_eq_map, findInRow, findInRow,
            List.append_nil]
      | cons next more =>
          have hjoined : Text.joinWith [' '] (part :: next :: more) =
              part ++ ' ' :: Text.joinWith [' '] (next :: more) := by
            rw [Text.joinWith, List.intercalate_cons_cons, List.append_assoc]
            rfl
          rw [hjoined, find_from_append_space, ih, find_from_eq_map]
          rfl

/-- The marks of joined texts are those of the texts in a row. -/
theorem find_join_strings (texts : List String) :
    find (Text.joinStrings " " texts).toList = findInRow 0 (texts.map String.toList) := by
  rw [Text.joinStrings, String.toList_intercalate]
  exact find_from_join_with 0 (texts.map String.toList)

end Placeholder

/-! ## Values of a property -/

/-- The text that a value is, if it is one. -/
def Scalar.text? : Scalar → Option String
  | text value => some value
  | _ => none

/-- A value that gives a text is this text. -/
theorem Scalar.eq_text {value : Scalar} {content : String} (h : value.text? = some content) :
    value = .text content := by
  cases value with
  | text => rw [Option.some.inj h]
  | integer | float | boolean | null | bytes => cases h

namespace Attribute

/-- The texts after the last value that is no text. -/
def lastTexts (values : List Scalar) : List String :=
  (values.rtakeWhile (·.text?.isSome)).filterMap Scalar.text?

/-- What a property has after the given values have been set for it: the last of them if that is no
text, and otherwise the texts after the last value that is no text, joined with spaces. -/
def settled (values : List Scalar) : Option Scalar :=
  match values.getLast? with
  | some (.text _) => some (.text (Text.joinStrings " " (lastTexts values)))
  | last => last

/-- The values that attributes set for a property, in order. -/
def valuesOf (propertyNames : Entries String) (as : List Attribute) (key : String) :
    List Scalar :=
  (as.filter fun a => propertyName propertyNames a.name = key).map (·.value)

/-- One more text stands last. -/
theorem last_texts_concat_text (values : List Scalar) (value : String) :
    lastTexts (values ++ [.text value]) = lastTexts values ++ [value] := by
  rw [lastTexts, List.rtakeWhile_concat_pos _ _ _ rfl, List.filterMap_append]
  rfl

/-- No text stands last behind another value. -/
theorem last_texts_concat_of_is_none (values : List Scalar) {value : Scalar}
    (h : value.text? = none) : lastTexts (values ++ [value]) = [] := by
  rw [lastTexts, List.rtakeWhile_concat_neg _ _ _ (by simp [h])]
  rfl

/-- A last value that is no text settles all. -/
theorem settled_concat_of_is_none (values : List Scalar) {value : Scalar}
    (h : value.text? = none) : settled (values ++ [value]) = some value := by
  rw [settled, List.getLast?_concat]
  cases value with
  | text => cases h
  | integer | float | boolean | null | bytes => rfl

/-- A text that comes last is joined with the texts before it. -/
theorem settled_concat_text (values : List Scalar) (value : String) :
    settled (values ++ [.text value]) =
      some (.text (Text.joinStrings " " (lastTexts values ++ [value]))) := by
  rw [settled, List.getLast?_concat, last_texts_concat_text]

/-- A value that is no text replaces what was there. -/
theorem combine_of_is_none (previous : Option Scalar) {value : Scalar} (h : value.text? = none) :
    combine previous value = value := by
  unfold combine
  split
  · cases h
  · rfl

/-- A text is joined with the texts that stand last. -/
theorem combine_settled_text (values : List Scalar) (value : String) :
    combine (settled values) (.text value) =
      .text (Text.joinStrings " " (lastTexts values ++ [value])) := by
  rcases List.eq_nil_or_concat' values with hnil | ⟨front, last, hvalues⟩
  · subst hnil
    rfl
  · subst hvalues
    cases hlast : last.text? with
    | none =>
        rw [settled_concat_of_is_none front hlast, last_texts_concat_of_is_none front hlast]
        cases last with
        | text => cases hlast
        | integer | float | boolean | null | bytes => rfl
    | some text =>
        obtain rfl := Scalar.eq_text hlast
        rw [settled_concat_text, last_texts_concat_text, Text.joinStrings, Text.joinStrings,
          String.intercalate_append_of_ne_nil (by simp) (List.cons_ne_nil value []),
          String.intercalate_singleton]
        rfl

/-- Values combined from left to right give what is settled by them. -/
theorem foldl_combine_eq_settled (values : List Scalar) :
    values.foldl (fun previous value => some (combine previous value)) none = settled values := by
  -- Combining folds from the left, so that the induction is on the last value.
  induction values using List.reverseRecOn with
  | nil => rfl
  | append_singleton values value ih =>
      rw [List.foldl_append, ih]
      show some (combine (settled values) value) = settled (values ++ [value])
      cases hvalue : value.text? with
      | none => rw [combine_of_is_none _ hvalue, settled_concat_of_is_none values hvalue]
      | some text =>
          obtain rfl := Scalar.eq_text hvalue
          rw [combine_settled_text, settled_concat_text]

/-- The value of a property is settled by the values that are set for it. -/
theorem combined_eq_settled (propertyNames : Entries String) (as : List Attribute)
    (key : String) :
    combined propertyNames as key = settled (valuesOf propertyNames as key) := by
  rw [combined, ← foldl_combine_eq_settled, valuesOf, List.foldl_map]

/-- Merging in closed form. For every table of property names, the keys of the merged attributes are
the properties in the order in which they are first set, each of them once. The value of a key is
settled by the values that are set for it, in order. The marks in a value that was joined are those
of the texts it was joined from, in order and each at its place. -/
theorem merge_closed_form (propertyNames : Entries String) (as : List Attribute) :
    (merge propertyNames as).keys =
        (as.map fun a => propertyName propertyNames a.name).eraseDups ∧
      (merge propertyNames as).keys.Nodup ∧
      (∀ key, (merge propertyNames as).get? key = settled (valuesOf propertyNames as key)) ∧
      ∀ key, Placeholder.find
          (Text.joinStrings " " (lastTexts (valuesOf propertyNames as key))).toList =
        Placeholder.findInRow 0
          ((lastTexts (valuesOf propertyNames as key)).map String.toList) := by
  refine ⟨keys_merge propertyNames as, nodup_keys_merge propertyNames as, ?_, ?_⟩
  · intro key
    rw [get?_merge, combined_eq_settled]
  · intro key
    exact Placeholder.find_join_strings _

-- A number between the texts cuts off the first of them.
example : merge [("class", "className")] [⟨"class", .text "a"⟩, ⟨"id", .text "x"⟩,
    ⟨"className", .integer 1⟩, ⟨"class", .text "/~0~/"⟩, ⟨"className", .text "~1~/"⟩] =
      [("className", .text "/~0~/ ~1~/"), ("id", .text "x")] := by
  decide

end Attribute

end ElementMarkup
