import ElementMarkup.Fault

/-!
# Call trees

A compiled template is a tree of calls to the element factory: the tag, the properties, then the
children. The host's interpolations are values of a type `ι` that the compiler never looks into.
A list stands for a sequence of children.
-/

namespace ElementMarkup

/-- A property of an element. A quoted key cannot be written as a bare identifier. -/
structure Property (α : Type) where
  key : String
  value : α
  quoted : Bool
  deriving DecidableEq, Repr

/-- A node of a call tree. -/
inductive CallTree (ι : Type) where
  | call (callee : String) (arguments : List (CallTree ι))
  | reference (name : String)
  | literal (value : Scalar)
  | null
  | concat (parts : List (CallTree ι))
  | props (properties : List (Property (CallTree ι)))
  | list (items : List (CallTree ι))
  | interpolation (value : ι)
  deriving Inhabited

namespace CallTree

variable {ι κ : Type}

/-- A literal text. -/
def text (cs : List Char) : CallTree ι :=
  .literal (.text (String.ofList cs))

mutual

/-- The children that an item stands for: those of a list, or the item itself. -/
def flattenItem : CallTree ι → List (CallTree ι)
  | list items => flatten items
  | item => [item]

/-- The items with nested lists replaced by their items, in order. -/
def flatten : List (CallTree ι) → List (CallTree ι)
  | [] => []
  | item :: items => flattenItem item ++ flatten items

end

mutual

/-- The tree with a function applied to each interpolation. -/
def map (f : ι → κ) : CallTree ι → CallTree κ
  | call callee arguments => call callee (mapList f arguments)
  | reference name => reference name
  | literal value => literal value
  | null => null
  | concat parts => concat (mapList f parts)
  | props properties => props (mapProperties f properties)
  | list items => list (mapList f items)
  | interpolation value => interpolation (f value)

/-- The trees with a function applied to each interpolation. -/
def mapList (f : ι → κ) : List (CallTree ι) → List (CallTree κ)
  | [] => []
  | tree :: trees => map f tree :: mapList f trees

/-- The properties with a function applied to each interpolation. -/
def mapProperties (f : ι → κ) :
    List (Property (CallTree ι)) → List (Property (CallTree κ))
  | [] => []
  | ⟨key, value, quoted⟩ :: properties => ⟨key, map f value, quoted⟩ :: mapProperties f properties

end

section

variable [DecidableEq ι]

mutual

/-- Two trees are the same. -/
def same : CallTree ι → CallTree ι → Bool
  | call callee arguments, call other others => callee == other && sameAll arguments others
  | reference name, reference other => name == other
  | literal value, literal other => value == other
  | null, null => true
  | concat parts, concat others => sameAll parts others
  | props properties, props others => sameProperties properties others
  | list items, list others => sameAll items others
  | interpolation value, interpolation other => value == other
  | _, _ => false

/-- Two lists of trees are the same. -/
def sameAll : List (CallTree ι) → List (CallTree ι) → Bool
  | [], [] => true
  | tree :: trees, other :: others => same tree other && sameAll trees others
  | _, _ => false

/-- Two lists of properties are the same. -/
def sameProperties :
    List (Property (CallTree ι)) → List (Property (CallTree ι)) → Bool
  | [], [] => true
  | ⟨key, value, quoted⟩ :: properties, ⟨key', value', quoted'⟩ :: others =>
    key == key' && same value value' && quoted == quoted' && sameProperties properties others
  | _, _ => false

end

mutual

/-- Trees are equal exactly if they are the same. -/
theorem same_iff {tree other : CallTree ι} : same tree other = true ↔ tree = other := by
  cases tree with
  | call | concat | list => cases other <;> simp [same, same_all_iff]
  | props => cases other <;> simp [same, same_properties_iff]
  | _ => cases other <;> simp [same]

/-- Lists of trees are equal exactly if they are the same. -/
theorem same_all_iff {trees others : List (CallTree ι)} :
    sameAll trees others = true ↔ trees = others := by
  match trees, others with
  | [], [] | [], _ :: _ | _ :: _, [] => simp [sameAll]
  | tree :: trees, other :: others =>
      rw [sameAll, Bool.and_eq_true, same_iff, same_all_iff, List.cons.injEq]

/-- Lists of properties are equal exactly if they are the same. -/
theorem same_properties_iff {properties others : List (Property (CallTree ι))} :
    sameProperties properties others = true ↔ properties = others := by
  match properties, others with
  | [], [] | [], _ :: _ | _ :: _, [] => simp [sameProperties]
  | ⟨key, value, quoted⟩ :: properties, ⟨key', value', quoted'⟩ :: others =>
      rw [sameProperties, List.cons.injEq, Property.mk.injEq]
      simp [same_iff, same_properties_iff, and_assoc]

end

instance : DecidableEq (CallTree ι) :=
  fun _ _ => decidable_of_iff _ same_iff

end

/-- The parts of a call that makes an element: its tag, its properties and its children. -/
structure Element (ι : Type) where
  tag : CallTree ι
  properties : CallTree ι
  children : List (CallTree ι)

/-- The kind of a node, as messages name it, given the kinds of interpolations. -/
def kind (kindOf : ι → String) : CallTree ι → String
  | call _ _ => "Call"
  | reference _ => "Reference"
  | literal _ => "Literal"
  | null => "_NullType"
  | concat _ => "Concat"
  | props _ => "Props"
  | list _ => "list"
  | interpolation value => kindOf value

/-- The parts of a call, which needs at least a tag and properties. Nothing but a call has parts. -/
def element (kindOf : ι → String) : CallTree ι → Except Fault (Element ι)
  | call _ (tag :: properties :: children) => .ok ⟨tag, properties, children⟩
  | call _ _ => .error .missingArgument
  | tree => .error (.wrongKind (.noMember (tree.kind kindOf) "tag"))

/-- The value of the first property with the given key. -/
def property? (properties : List (Property (CallTree ι))) (key : String) : Option (CallTree ι) :=
  (properties.find? fun p => p.key == key).map (·.value)

end CallTree

end ElementMarkup
