import ElementMarkup.Proofs.Transform
import Mathlib.Data.List.Forall2

/-!
# Format strings in pieces

A format string is split into fragments and interpolations that stand in turn, one fragment more
than interpolations, so that nothing moves from one place to another: woven together they are the
parts of the format string again, except that texts in a row are one text and that empty texts do
not count. Main statement: `split_template_format_string`.
-/

namespace ElementMarkup.Host

open Attempt

/-! ## Parts -/

/-- A part that a format string may have: a text or a field. -/
def Expr.isFormatPart : Expr → Bool
  | .constant (.text _) => true
  | .field _ _ _ => true
  | _ => false

/-- A text without characters. -/
def Expr.isEmptyText : Expr → Bool
  | .constant (.text s) => s == ""
  | _ => false

/-- The parts with a text in front, which is joined to the text that they start with, if they do. -/
def joinText (s : String) : List Expr → List Expr
  | .constant (.text t) :: parts => .text (s ++ t) :: parts
  | parts => .text s :: parts

/-- The parts with texts in a row joined. -/
def joinTexts : List Expr → List Expr
  | [] => []
  | .constant (.text s) :: parts => joinText s (joinTexts parts)
  | part :: parts => part :: joinTexts parts

/-- The parts without empty texts. -/
def dropEmpty (parts : List Expr) : List Expr :=
  parts.filter (!·.isEmptyText)

/-- Fragments and fields in turn, starting with a fragment. -/
def weave : List String → List Expr → List Expr
  | fragment :: fragments, field :: fields => .text fragment :: field :: weave fragments fields
  | fragments, [] => fragments.map .text
  | [], fields => fields

/-- The expression stands for the field: it is the bare value if the field has neither a conversion
nor a specification, and otherwise a format string with nothing but the field. -/
inductive Interpolates : Expr → Expr → Prop where
  | bare (value : Expr) : Interpolates value (.field value (-1) none)
  | formatted (value : Expr) {conversion : Int} {spec : Option Expr}
      (h : conversion ≠ -1 ∨ spec ≠ none) :
      Interpolates (.formatString [.field value conversion spec]) (.field value conversion spec)

/-- Each field has the interpolation that stands for it. -/
theorem interpolates_field_interpolation (value : Expr) (conversion : Int) (spec : Option Expr) :
    Interpolates (fieldInterpolation value conversion spec) (.field value conversion spec) := by
  unfold fieldInterpolation
  split
  · exact .bare value
  · rename_i hformats
    refine .formatted value ?_
    by_cases hconversion : conversion = -1
    · exact .inr (hformats hconversion)
    · exact .inl hconversion

/-- Texts in a row are joined from either end alike. -/
theorem join_text_join_text (s t : String) (parts : List Expr) :
    joinText s (joinText t parts) = joinText (s ++ t) parts := by
  fun_cases joinText t parts with
  | case1 next parts =>
      show [.text (s ++ (t ++ next))] ++ parts = [.text (s ++ t ++ next)] ++ parts
      rw [String.append_assoc]
  | case2 =>
      rename_i hother
      rw [joinText.eq_2 _ _ hother]
      rfl

/-- Empty texts are dropped from parts in a row one by one. -/
theorem drop_empty_append (first second : List Expr) :
    dropEmpty (first ++ second) = dropEmpty first ++ dropEmpty second :=
  List.filter_append ..

/-- An empty text in front does not count. -/
theorem drop_empty_join_text_empty (parts : List Expr) :
    dropEmpty (joinText "" parts) = dropEmpty parts := by
  unfold joinText
  split
  · rw [String.empty_append]
    rfl
  · rfl

/-! ## Splitting -/

/-- Texts and fields can be split, where the fragment that is being read counts as a text in front
of them. -/
theorem split_parts_of_is_format_part (fragment : String) {parts : List Expr}
    (h : ∀ part ∈ parts, part.isFormatPart = true) :
    ∃ fragments interpolations fields,
      splitParts fragment parts = .ok (fragments, interpolations) ∧
      fragments.length = interpolations.length + 1 ∧
      List.Forall₂ Interpolates interpolations fields ∧
      dropEmpty (weave fragments fields) = dropEmpty (joinText fragment (joinTexts parts)) := by
  fun_induction splitParts fragment parts with
  | case1 fragment => exact ⟨[fragment], [], [], rfl, rfl, .nil, rfl⟩
  | case2 fragment value conversion spec parts ih =>
      obtain ⟨fragments, interpolations, fields, hsplit, hlength, hfields, hweave⟩ :=
        ih (List.forall_mem_cons.mp h).2
      rw [drop_empty_join_text_empty] at hweave
      refine ⟨fragment :: fragments, fieldInterpolation value conversion spec :: interpolations,
        .field value conversion spec :: fields, ?_, congrArg (· + 1) hlength,
        .cons (interpolates_field_interpolation value conversion spec) hfields, ?_⟩
      · rw [hsplit]
        rfl
      · -- The field ends the text in front of it, so that both sides go on alike behind it.
        show dropEmpty ([.text fragment, .field value conversion spec] ++ weave fragments fields) =
          dropEmpty ([.text fragment, .field value conversion spec] ++ joinTexts parts)
        rw [drop_empty_append, drop_empty_append, hweave]
  | case3 fragment s parts ih =>
      have hjoin : joinText fragment (joinTexts (.constant (.text s) :: parts)) =
          joinText (fragment ++ s) (joinTexts parts) := join_text_join_text fragment s _
      rw [hjoin]
      exact ih (List.forall_mem_cons.mp h).2
  | case4 fragment value parts hvalue =>
      have hpart := (List.forall_mem_cons.mp h).1
      cases value with
      | text s => exact (hvalue s rfl).elim
      | integer | float | boolean | null | bytes => cases hpart
  | case5 fragment part parts hfield htext hconstant =>
      have hpart := (List.forall_mem_cons.mp h).1
      cases part with
      | constant value => exact (hconstant value rfl).elim
      | field value conversion spec => exact (hfield value conversion spec rfl).elim
      | _ => cases hpart

/-- Nothing but texts and fields can be split. -/
theorem is_format_part_of_split_parts {fragment : String} {parts : List Expr}
    {template : List String × List Expr} (h : splitParts fragment parts = .ok template) :
    ∀ part ∈ parts, part.isFormatPart = true := by
  fun_induction splitParts fragment parts generalizing template with
  | case1 => exact List.forall_mem_nil _
  | case2 fragment value conversion spec parts ih =>
      obtain ⟨_, hmore, _⟩ := bind_eq_ok.mp h
      exact List.forall_mem_cons.mpr ⟨rfl, ih hmore⟩
  | case3 fragment s parts ih => exact List.forall_mem_cons.mpr ⟨rfl, ih h⟩
  | case4 => cases h
  | case5 => cases h

/-- Splitting a format string is faithful. A format string can be split exactly if its parts are
texts and fields. Then there is one fragment more than interpolations, each interpolation stands for
a field, and fragments and fields in turn are the parts of the format string in their order, where
texts in a row are joined and empty texts do not count. -/
theorem split_template_format_string (parts : List Expr) :
    (∀ part ∈ parts, part.isFormatPart = true) ↔
      ∃ fragments interpolations fields,
        splitTemplate (.formatString parts) = .ok (some (fragments, interpolations)) ∧
        fragments.length = interpolations.length + 1 ∧
        List.Forall₂ Interpolates interpolations fields ∧
        dropEmpty (weave fragments fields) = dropEmpty (joinTexts parts) := by
  constructor
  · intro h
    obtain ⟨fragments, interpolations, fields, hsplit, hlength, hfields, hweave⟩ :=
      split_parts_of_is_format_part "" h
    rw [drop_empty_join_text_empty] at hweave
    refine ⟨fragments, interpolations, fields, ?_, hlength, hfields, hweave⟩
    rw [splitTemplate, hsplit]
    rfl
  · rintro ⟨fragments, interpolations, _, hsplit, _⟩
    obtain ⟨template, htemplate, _⟩ := bind_eq_ok.mp hsplit
    exact is_format_part_of_split_parts htemplate

/-- Fields next to each other, a field with an empty text as its value, and texts in a row. -/
theorem split_template_format_string_mixed :
    let spec : Expr := .formatString [.text ">4"]
    let parts : List Expr := [.field (.name "x") 114 none, .field (.text "") (-1) none, .text "a",
      .text "", .text "b", .field (.name "y") (-1) (some spec), .text ""]
    splitTemplate (.formatString parts) = .ok (some (["", "", "ab", ""],
      [.formatString [.field (.name "x") 114 none], .text "",
        .formatString [.field (.name "y") (-1) (some spec)]])) ∧
    ∃ fields, List.Forall₂ Interpolates [.formatString [.field (.name "x") 114 none], .text "",
        .formatString [.field (.name "y") (-1) (some spec)]] fields ∧
      dropEmpty (weave ["", "", "ab", ""] fields) = [.field (.name "x") 114 none,
        .field (.text "") (-1) none, .text "ab", .field (.name "y") (-1) (some spec)] := by
  intro spec parts
  obtain ⟨_, _, fields, hsplit, _, hfields, hweave⟩ :=
    (split_template_format_string parts).mp (List.all_eq_true.mp rfl)
  cases hsplit
  exact ⟨rfl, fields, hfields, hweave⟩

end ElementMarkup.Host
