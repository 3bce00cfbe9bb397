import ElementMarkup.Compiler
import ElementMarkup.Proofs.Attempt
import ElementMarkup.Proofs.CallTree
import ElementMarkup.Proofs.Cursor

/-!
# Taking interpolations

What a placeholder does to the interpolations that are left, and which nodes a compilation of a
node goes on to. The number of a placeholder counts if its interpolation is there and has not been
taken; otherwise strict mode fails and the other mode drops the placeholder.
-/

namespace ElementMarkup.Compiler

open ElementMarkup.Attempt

variable {ι : Type}

/-- A note adds its event at the end. -/
@[simp] theorem yields_note {event : Event} {w v : Workspace ι} {a : Unit} :
    Yields (note event) w a v ↔ { w with events := w.events ++ [event] } = v :=
  yields_modify

/-- An interpolation that is left is taken. -/
theorem yields_take_interpolation_of_some (strict : Bool) {w : Workspace ι} {i : Nat}
    {item : CallTree ι} (h : w.cursor.free? i = some item) :
    Yields (takeInterpolation strict i) w [item]
      { w with cursor := (w.cursor.mark i).advance } := by
  have htake : w.cursor.take i = (some item, (w.cursor.mark i).advance) := by
    simp only [Cursor.take, h]
  unfold takeInterpolation
  simp only [yields_bind, yields_get]
  refine ⟨w, w, ⟨rfl, rfl⟩, ?_⟩
  rw [htake]
  rfl

/-- A placeholder for which no interpolation is left is dropped, unless in strict mode. -/
theorem yields_take_interpolation_of_none {w : Workspace ι} {i : Nat}
    (h : w.cursor.free? i = none) :
    Yields (takeInterpolation false i) w []
      { w with events := w.events ++ [.placeholderDropped i w.cursor.size] } := by
  unfold takeInterpolation
  simp only [yields_bind, yields_get]
  refine ⟨w, w, ⟨rfl, rfl⟩, ?_⟩
  rw [Cursor.take_of_is_none h]
  rfl

/-- An interpolation is taken whose number has not been taken before. -/
theorem yields_take_interpolation_of_free (strict : Bool) {items : List (CallTree ι)}
    {taken : List Nat} {i : Nat} {item : CallTree ι} (hfree : i ∉ taken)
    (hitem : items[i]? = some item) (events : List Event) :
    Yields (takeInterpolation strict i) ⟨.afterTaking items taken, events⟩ [item]
      ⟨.afterTaking items (taken ++ [i]), events⟩ := by
  have hleft := (Cursor.free?_after_taking items taken i).trans ((if_neg hfree).trans hitem)
  rw [← Cursor.advance_mark_after_taking]
  exact yields_take_interpolation_of_some strict hleft

/-- A placeholder is dropped whose number has been taken before or is too large. -/
theorem yields_take_interpolation_of_missing {items : List (CallTree ι)} {taken : List Nat}
    {i : Nat} (hmissing : i ∈ taken ∨ items.length ≤ i) (events : List Event) :
    Yields (takeInterpolation false i) ⟨.afterTaking items taken, events⟩ []
      ⟨.afterTaking items taken, events ++ [.placeholderDropped i items.length]⟩ := by
  have hgone : (Cursor.afterTaking items taken).free? i = none := by
    rw [Cursor.free?_after_taking, ite_eq_left_iff]
    intro hnot
    exact List.getElem?_eq_none (hmissing.resolve_left hnot)
  rw [← Cursor.size_after_taking items taken]
  exact yields_take_interpolation_of_none hgone

/-- A text without marks is one literal. -/
theorem splice_of_marks_eq_nil (strict : Bool) {value : String}
    (h : (Placeholder.split value.toList).marks = []) :
    splice strict value = (pure [.literal (.text value)] : Attempt (Workspace ι) _) := by
  simp [splice, h]

/-- A text with marks is its first piece and what its marks and the pieces after them become. -/
theorem splice_of_marks_ne_nil (strict : Bool) {value : String}
    (h : (Placeholder.split value.toList).marks ≠ []) :
    splice strict value = (do
      let more ← spliceMarks strict (Placeholder.split value.toList).marks
      return segment (Placeholder.split value.toList).head ++ more :
        Attempt (Workspace ι) (List (CallTree ι))) := by
  simp [splice, h]

/-- A tag without attributes has no properties. -/
theorem properties_of_merge_eq_nil {options : Options} {as : List Attribute}
    (h : Attribute.merge options.propertyNames as = []) :
    properties options as = (pure .null : Attempt (Workspace ι) _) := by
  simp [properties, h]

/-- A tag with attributes has a property for each merged attribute. -/
theorem properties_of_merge_ne_nil {options : Options} {as : List Attribute}
    (h : Attribute.merge options.propertyNames as ≠ []) :
    properties options as = (do
      return .props (← (Attribute.merge options.propertyNames as).mapM
        (property options.strict)) : Attempt (Workspace ι) (CallTree ι)) := by
  simp [properties, h]

/-- The tag of an element holds no interpolations. -/
theorem interpolations_tag_tree (name : String) :
    (tagTree name : CallTree ι).interpolations = [] := by
  unfold tagTree
  split
  · split <;> rfl
  · rfl

end ElementMarkup.Compiler
