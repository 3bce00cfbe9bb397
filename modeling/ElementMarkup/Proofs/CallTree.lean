import ElementMarkup.CallTree

/-!
# The interpolations of a call tree

The interpolations of a call tree are read from left to right: those of the tag, of the properties
and of the children of a call, in this order. Flattening children does not change them.
-/

namespace ElementMarkup.CallTree

variable {ι : Type}

mutual

/-- The interpolations in a tree from left to right. -/
def interpolations : CallTree ι → List ι
  | call _ arguments => interpolationsOf arguments
  | reference _ => []
  | literal _ => []
  | null => []
  | concat parts => interpolationsOf parts
  | props properties => interpolationsOfProperties properties
  | list items => interpolationsOf items
  | interpolation value => [value]

/-- The interpolations in several trees from left to right. -/
def interpolationsOf : List (CallTree ι) → List ι
  | [] => []
  | tree :: trees => interpolations tree ++ interpolationsOf trees

/-- The interpolations in the values of properties from left to right. -/
def interpolationsOfProperties : List (Property (CallTree ι)) → List ι
  | [] => []
  | ⟨_, value, _⟩ :: properties => interpolations value ++ interpolationsOfProperties properties

end

/-- The interpolations of trees in a row. -/
@[simp] theorem interpolations_of_append (first second : List (CallTree ι)) :
    interpolationsOf (first ++ second) = interpolationsOf first ++ interpolationsOf second := by
  induction first with
  | nil => rfl
  | cons tree first ih =>
      rw [List.cons_append, interpolationsOf, ih, interpolationsOf, List.append_assoc]

/-- A single tree has its own interpolations. -/
@[simp] theorem interpolations_of_singleton (tree : CallTree ι) :
    interpolationsOf [tree] = interpolations tree :=
  List.append_nil _

/-- The children that items in a row stand for. -/
theorem flatten_append (first second : List (CallTree ι)) :
    flatten (first ++ second) = flatten first ++ flatten second := by
  induction first with
  | nil => rfl
  | cons item items ih => rw [List.cons_append, flatten, flatten, ih, List.append_assoc]

mutual

/-- The children that an item stands for hold its interpolations. -/
theorem interpolations_of_flatten_item (item : CallTree ι) :
    interpolationsOf item.flattenItem = item.interpolations := by
  match item with
  | .list items => exact interpolations_of_flatten items
  | .call _ _ => exact interpolations_of_singleton _
  | .reference _ => rfl
  | .literal _ => rfl
  | .null => rfl
  | .concat _ => exact interpolations_of_singleton _
  | .props _ => exact interpolations_of_singleton _
  | .interpolation _ => rfl

/-- Flattening keeps the interpolations and their order. -/
theorem interpolations_of_flatten (items : List (CallTree ι)) :
    interpolationsOf (flatten items) = interpolationsOf items := by
  match items with
  | [] => rfl
  | item :: items =>
      rw [flatten, interpolations_of_append, interpolations_of_flatten_item,
        interpolations_of_flatten, interpolationsOf]

end

end ElementMarkup.CallTree
