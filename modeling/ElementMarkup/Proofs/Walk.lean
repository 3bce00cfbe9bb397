import ElementMarkup.Compiler
import ElementMarkup.Proofs.Attributes

/-!
# The walk over a tree

`Walk propertyNames lookup node visits` says that the walk over a node meets the placeholders of
`visits`, in this order. The properties of a tag come before its children, and a named block stands
for its override, if there is one. The walk says nothing about interpolations; of the placeholders
that it meets, `firstUses` keeps those that can have one. A node has at most one walk
(`walk_unique`).
-/

namespace ElementMarkup.Compiler

/-- What a walk meets: a placeholder with its number, or a template that is extended. -/
inductive Visit where
  | placeholder (index : Nat)
  | extension
  deriving DecidableEq, Repr

/-- The placeholders of a text in order. -/
def textVisits (value : String) : List Visit :=
  (Placeholder.split value.toList).marks.map fun mark => .placeholder (Text.digitsValue mark.1)

/-- The placeholders of a value. Only texts hold any. -/
def valueVisits : Scalar → List Visit
  | .text value => textVisits value
  | _ => []

/-- The placeholders in the attributes of a tag: for each property, in the order in which the
properties are first set, those of its combined value. -/
def attributeVisits (propertyNames : Entries String) (as : List Attribute) : List Visit :=
  (as.map fun a => Attribute.propertyName propertyNames a.name).eraseDups.flatMap fun key =>
    (Attribute.combined propertyNames as key).elim [] valueVisits

mutual

/-- The walk over a node. -/
inductive Walk (propertyNames : Entries String) (lookup : Lookup) : Markup → List Visit → Prop where
  | block (position nodes visits) :
      WalkAll propertyNames lookup nodes visits →
      Walk propertyNames lookup (.block position nodes) visits
  | overridden (position name nodes override visits) :
      lookup name = some override → WalkAll propertyNames lookup override visits →
      Walk propertyNames lookup (.namedBlock position name nodes) visits
  | namedBlock (position name nodes visits) :
      lookup name = none → WalkAll propertyNames lookup nodes visits →
      Walk propertyNames lookup (.namedBlock position name nodes) visits
  | text (position value) :
      Walk propertyNames lookup (.text position value) (textVisits value)
  | tag (position name attributes blockPosition children visits) :
      WalkAll propertyNames lookup children visits →
      Walk propertyNames lookup (.tag position name attributes blockPosition children)
        (attributeVisits propertyNames attributes ++ visits)
  | included (position path tree visits) :
      Walk propertyNames lookup tree visits →
      Walk propertyNames lookup (.included position path tree) visits
  | extended (position path tree visits) :
      Walk propertyNames lookup tree visits →
      Walk propertyNames lookup (.extended position path tree) (.extension :: visits)

/-- The walk over several nodes in order. -/
inductive WalkAll (propertyNames : Entries String) (lookup : Lookup) :
    List Markup → List Visit → Prop where
  | nil : WalkAll propertyNames lookup [] []
  | cons (node nodes visits more) :
      Walk propertyNames lookup node visits → WalkAll propertyNames lookup nodes more →
      WalkAll propertyNames lookup (node :: nodes) (visits ++ more)

end

variable {propertyNames : Entries String} {lookup : Lookup}

mutual

/-- A node has at most one walk. -/
theorem walk_unique {node : Markup} {visits others : List Visit}
    (h : Walk propertyNames lookup node visits) (hother : Walk propertyNames lookup node others) :
    visits = others := by
  match h, hother with
  | .block _ _ _ hnodes, .block _ _ _ hothers => exact walk_all_unique hnodes hothers
  | .overridden _ _ _ _ _ hlookup hnodes, .overridden _ _ _ _ _ hagain hothers =>
      obtain rfl := Option.some.inj (hlookup.symm.trans hagain)
      exact walk_all_unique hnodes hothers
  | .overridden _ _ _ _ _ hlookup _, .namedBlock _ _ _ _ hnone _ =>
      cases hlookup.symm.trans hnone
  | .namedBlock _ _ _ _ hnone _, .overridden _ _ _ _ _ hlookup _ =>
      cases hlookup.symm.trans hnone
  | .namedBlock _ _ _ _ _ hnodes, .namedBlock _ _ _ _ _ hothers =>
      exact walk_all_unique hnodes hothers
  | .text _ _, .text _ _ => rfl
  | .tag _ _ _ _ _ _ hnodes, .tag _ _ _ _ _ _ hothers => rw [walk_all_unique hnodes hothers]
  | .included _ _ _ _ htree, .included _ _ _ _ hothers => exact walk_unique htree hothers
  | .extended _ _ _ _ htree, .extended _ _ _ _ hothers => rw [walk_unique htree hothers]

/-- Several nodes have at most one walk. -/
theorem walk_all_unique {nodes : List Markup} {visits others : List Visit}
    (h : WalkAll propertyNames lookup nodes visits)
    (hother : WalkAll propertyNames lookup nodes others) : visits = others := by
  match h, hother with
  | .nil, .nil => rfl
  | .cons _ _ _ _ hnode hnodes, .cons _ _ _ _ hnode' hnodes' =>
      rw [walk_unique hnode hnode', walk_all_unique hnodes hnodes']

end

/-! ## First uses -/

/-- The numbers of the placeholders among the visits. -/
def placeholders (visits : List Visit) : List Nat :=
  visits.filterMap fun
    | .placeholder index => some index
    | .extension => none

/-- The numbers below `count` that have not occurred earlier, in order. -/
def firstUses (count : Nat) (indices : List Nat) : List Nat :=
  (indices.filter (· < count)).eraseDups

/-- A number that is small enough and has not occurred is used. -/
theorem first_uses_concat_of_new {count i : Nat} {indices : List Nat} (hlt : i < count)
    (hnew : i ∉ firstUses count indices) :
    firstUses count (indices ++ [i]) = firstUses count indices ++ [i] := by
  have hnot : i ∉ indices.filter (· < count) := fun h => hnew (List.mem_eraseDups.mpr h)
  rw [firstUses, List.filter_append, List.filter_cons_of_pos (by simpa using hlt), List.filter_nil,
    erase_dups_concat, if_neg hnot]
  rfl

/-- A number that is too large or has occurred is not used. -/
theorem first_uses_concat_of_old {count i : Nat} {indices : List Nat}
    (h : i ∈ firstUses count indices ∨ count ≤ i) :
    firstUses count (indices ++ [i]) = firstUses count indices := by
  rw [firstUses, List.filter_append]
  -- A number that is too large is filtered out; one that has occurred is a duplicate.
  by_cases hlt : i < count
  · have hmem : i ∈ indices.filter (· < count) :=
      List.mem_eraseDups.mp (h.resolve_right (Nat.not_le.mpr hlt))
    rw [List.filter_cons_of_pos (by simpa using hlt), List.filter_nil, erase_dups_concat,
      if_pos hmem]
    rfl
  · rw [List.filter_cons_of_neg (by simpa using hlt), List.filter_nil, List.append_nil]
    rfl

end ElementMarkup.Compiler
