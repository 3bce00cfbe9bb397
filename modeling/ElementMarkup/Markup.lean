import ElementMarkup.Token

/-!
# Markup trees

A template is a tree of elements, texts and regions. Included and extended templates are part of
the tree, so that a tree is complete in itself.
-/

namespace ElementMarkup

/-- An attribute of an element. -/
structure Attribute where
  name : String
  value : Scalar
  deriving DecidableEq, Repr

/-- The place of a node that stands nowhere. -/
def Position.unknown : Position :=
  ⟨0, 0⟩

/-- A node of a markup tree. The child block of a tag has a place of its own; a tag without a block
has no children. A `foreign` node is something that is no markup, known by its kind and by its
place, if it has one. -/
inductive Markup where
  | block (position : Position) (nodes : List Markup)
  | namedBlock (position : Position) (name : String) (nodes : List Markup)
  | text (position : Position) (value : String)
  | tag (position : Position) (name : String) (attributes : List Attribute)
      (blockPosition : Option Position) (children : List Markup)
  | included (position : Position) (path : Option String) (tree : Markup)
  | extended (position : Position) (path : Option String) (tree : Markup)
  | foreign (position : Option Position) (kind : String)
  deriving Inhabited

namespace Markup

/-- The kind of a node, as messages name it. -/
def kind : Markup → String
  | block _ _ => "Block"
  | namedBlock _ _ _ => "NamedBlock"
  | text _ _ => "Text"
  | tag _ _ _ _ _ => "Tag"
  | included _ _ _ => "Include"
  | extended _ _ _ => "Extends"
  | foreign _ kind => kind

/-- Where a node stands. -/
def position : Markup → Position
  | block position _ => position
  | namedBlock position _ _ => position
  | text position _ => position
  | tag position _ _ _ _ => position
  | included position _ _ => position
  | extended position _ _ => position
  | foreign position _ => position.getD .unknown

mutual

/-- Two trees are the same. -/
def same : Markup → Markup → Bool
  | block position nodes, block place others => position == place && sameAll nodes others
  | namedBlock position name nodes, namedBlock place other others =>
    position == place && name == other && sameAll nodes others
  | text position value, text place other => position == place && value == other
  | tag position name attributes blockPosition children,
      tag place other others blockPlace nodes =>
    position == place && name == other && attributes == others && blockPosition == blockPlace &&
      sameAll children nodes
  | included position path tree, included place other inner =>
    position == place && path == other && same tree inner
  | extended position path tree, extended place other inner =>
    position == place && path == other && same tree inner
  | foreign position kind, foreign place other => position == place && kind == other
  | _, _ => false

/-- Two lists of trees are the same. -/
def sameAll : List Markup → List Markup → Bool
  | [], [] => true
  | tree :: trees, other :: others => same tree other && sameAll trees others
  | _, _ => false

end

mutual

/-- Trees are equal exactly if they are the same. -/
theorem same_iff {tree other : Markup} : same tree other = true ↔ tree = other := by
  cases tree with
  | block | namedBlock | tag => cases other <;> simp [same, same_all_iff, and_assoc]
  | included | extended => cases other <;> simp [same, same_iff, and_assoc]
  | _ => cases other <;> simp [same]

/-- Lists of trees are equal exactly if they are the same. -/
theorem same_all_iff {trees others : List Markup} :
    sameAll trees others = true ↔ trees = others := by
  match trees, others with
  | [], [] | [], _ :: _ | _ :: _, [] => simp [sameAll]
  | tree :: trees, other :: others =>
      rw [sameAll, Bool.and_eq_true, same_iff, same_all_iff, List.cons.injEq]

end

instance : DecidableEq Markup :=
  fun _ _ => decidable_of_iff _ same_iff

/-- The nodes at the top of a tree. -/
def topLevel : Markup → List Markup
  | block _ nodes => nodes
  | node => [node]

end Markup

end ElementMarkup
