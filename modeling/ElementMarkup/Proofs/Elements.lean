import ElementMarkup.Proofs.DepthLimit
import ElementMarkup.Proofs.Environment
import Mathlib.Data.List.Forall2

/-!
# The elements of compiled templates

Every call in a compiled template makes an element: it calls the element factory with a tag, with
properties and with children, and each of these has one of a few forms. `IsChild` gives the forms.
They are kept through regions, overrides, included and extended templates, since what a node becomes
is a child or a list of such things, nested in whatever way (`Outcome`), and the children of a tag
are flattened. Main statement: `compile_elements`.

`Proper` is what is left of these forms when only the number of arguments and the interpolations
matter (`proper_of_yields_compile`).
-/

namespace ElementMarkup

open Attempt

variable {ι : Type}

/-! ## Trees inside trees -/

namespace CallTree

/-- The trees right inside a tree. -/
def inside : CallTree ι → List (CallTree ι)
  | call _ arguments => arguments
  | concat parts => parts
  | props properties => properties.map (·.value)
  | list items => items
  | reference _ | literal _ | null | interpolation _ => []

/-- The tree `inner` stands somewhere in a tree, or is the tree itself. -/
inductive Occurs (inner : CallTree ι) : CallTree ι → Prop where
  | whole : Occurs inner inner
  | inside {tree next : CallTree ι} : next ∈ tree.inside → Occurs inner next → Occurs inner tree

/-- A property that goes from a tree to the trees right inside it holds of all trees that occur in
it. -/
theorem Occurs.of_inside {p : CallTree ι → Prop}
    (hinside : ∀ tree, p tree → ∀ next ∈ tree.inside, p next) {inner tree : CallTree ι}
    (h : inner.Occurs tree) (htree : p tree) : p inner := by
  induction h with
  | whole => exact htree
  | inside hnext _ ih => exact ih (hinside _ htree _ hnext)

/-- The tree is a list. -/
def isList : CallTree ι → Bool
  | list _ => true
  | _ => false

/-! ## The forms of children -/

/-- What the calls of a template are made of: the name of the element factory, the names of tags and
the interpolations. -/
structure Vocabulary (ι : Type) where
  factory : String
  IsName : String → Prop
  IsGiven : ι → Prop

/-- The tag of an element with the given name. A name that starts with a capital letter is referred
to, any other one is a text. -/
def IsTagOf (name : String) (tag : CallTree ι) : Prop :=
  if name.toList.head?.any Text.isCapital then tag = .reference name
  else tag = .literal (.text name)

/-- A piece of a text: a literal text that is not empty, or an interpolation. -/
inductive IsPiece (v : Vocabulary ι) : CallTree ι → Prop where
  | text {value : String} : value ≠ "" → IsPiece v (.literal (.text value))
  | interpolation {value : ι} : v.IsGiven value → IsPiece v (.interpolation value)

/-- The value of a property: a literal, an interpolation, or two or more pieces of a text. -/
inductive IsValue (v : Vocabulary ι) : CallTree ι → Prop where
  | literal (value : Scalar) : IsValue v (.literal value)
  | interpolation {value : ι} : v.IsGiven value → IsValue v (.interpolation value)
  | concat {parts : List (CallTree ι)} :
      2 ≤ parts.length → (∀ part ∈ parts, part.IsPiece v) → IsValue v (.concat parts)

/-- The properties of an element: the mark for none, or at least one property. The keys are
different from each other, and exactly those that are no identifiers are quoted. -/
inductive IsProperties (v : Vocabulary ι) : CallTree ι → Prop where
  | none : IsProperties v .null
  | some {properties : List (Property (CallTree ι))} :
      properties ≠ [] → (properties.map (·.key)).Nodup →
      (∀ property ∈ properties, property.quoted = !Text.isIdentifier property.key.toList ∧
        property.value.IsValue v) →
      IsProperties v (.props properties)

/-- A child of an element: an element, a literal text or an interpolation. An element is a call of
the factory with a tag, with properties and with children. -/
inductive IsChild (v : Vocabulary ι) : CallTree ι → Prop where
  | element {name : String} {tag properties : CallTree ι} {children : List (CallTree ι)} :
      v.IsName name → tag.IsTagOf name → properties.IsProperties v →
      (∀ child ∈ children, IsChild v child) →
      IsChild v (.call v.factory (tag :: properties :: children))
  | text (value : String) : IsChild v (.literal (.text value))
  | interpolation {value : ι} : v.IsGiven value → IsChild v (.interpolation value)

/-- What a node becomes: a child, or a list of what nodes become. -/
inductive Outcome (v : Vocabulary ι) : CallTree ι → Prop where
  | child {tree : CallTree ι} : tree.IsChild v → Outcome v tree
  | list {items : List (CallTree ι)} : (∀ item ∈ items, Outcome v item) → Outcome v (.list items)

variable {v : Vocabulary ι}

/-- A piece of a text can be a value. -/
theorem IsPiece.is_value {tree : CallTree ι} (h : tree.IsPiece v) : tree.IsValue v := by
  cases h with
  | text => exact .literal _
  | interpolation hgiven => exact .interpolation hgiven

/-- A piece of a text can be a child. -/
theorem IsPiece.is_child {tree : CallTree ι} (h : tree.IsPiece v) : tree.IsChild v := by
  cases h with
  | text => exact .text _
  | interpolation hgiven => exact .interpolation hgiven

/-- A tag has nothing inside it. -/
theorem IsTagOf.eq {name : String} {tag : CallTree ι} (h : tag.IsTagOf name) :
    tag = .reference name ∨ tag = .literal (.text name) := by
  unfold IsTagOf at h
  split at h
  · exact .inl h
  · exact .inr h

/-- What may occur in a child: children, tags, properties and values. -/
inductive WithinChild (v : Vocabulary ι) : CallTree ι → Prop where
  | child {tree : CallTree ι} : tree.IsChild v → WithinChild v tree
  | tag {name : String} {tree : CallTree ι} : tree.IsTagOf name → WithinChild v tree
  | properties {tree : CallTree ι} : tree.IsProperties v → WithinChild v tree
  | value {tree : CallTree ι} : tree.IsValue v → WithinChild v tree

/-- What may occur in a child has nothing else inside it. -/
theorem WithinChild.inside {tree : CallTree ι} (h : tree.WithinChild v) :
    ∀ next ∈ tree.inside, next.WithinChild v := by
  cases h with
  | child h =>
      cases h with
      | element _ htag hproperties hchildren =>
          exact List.forall_mem_cons.mpr
            ⟨.tag htag, List.forall_mem_cons.mpr
              ⟨.properties hproperties, fun child hchild => .child (hchildren child hchild)⟩⟩
      | text => exact List.forall_mem_nil _
      | interpolation => exact List.forall_mem_nil _
  | tag h => rcases h.eq with rfl | rfl <;> exact List.forall_mem_nil _
  | properties h =>
      cases h with
      | none => exact List.forall_mem_nil _
      | some _ _ hproperties =>
          intro next hnext
          obtain ⟨property, hproperty, rfl⟩ := List.mem_map.mp hnext
          exact .value (hproperties property hproperty).2
  | value h =>
      cases h with
      | literal => exact List.forall_mem_nil _
      | interpolation => exact List.forall_mem_nil _
      | concat _ hparts => exact fun part hpart => .value (hparts part hpart).is_value

/-- No list may occur in a child. -/
theorem WithinChild.is_list_eq_false {tree : CallTree ι} (h : tree.WithinChild v) :
    tree.isList = false := by
  cases h with
  | child h => cases h <;> rfl
  | tag h => rcases h.eq with rfl | rfl <;> rfl
  | properties h => cases h <;> rfl
  | value h => cases h <;> rfl

/-- The calls that may occur in a child are elements. -/
theorem WithinChild.is_child_call {callee : String} {arguments : List (CallTree ι)}
    (h : (CallTree.call callee arguments).WithinChild v) :
    (CallTree.call callee arguments).IsChild v := by
  cases h with
  | child h => exact h
  | tag h => rcases h.eq with h | h <;> cases h
  | properties h => cases h
  | value h => cases h

/-- What occurs in an outcome is an outcome or may occur in a child. -/
theorem Outcome.of_occurs {inner tree : CallTree ι} (hinner : inner.Occurs tree)
    (h : tree.Outcome v) : inner.Outcome v ∨ inner.WithinChild v := by
  refine hinner.of_inside (p := fun tree => tree.Outcome v ∨ tree.WithinChild v)
    (fun tree htree next hnext => ?_) (.inl h)
  rcases htree with htree | htree
  · cases htree with
    | child hchild => exact .inr ((WithinChild.child hchild).inside next hnext)
    | list hitems => exact .inl (hitems next hnext)
  · exact .inr (htree.inside next hnext)

/-- The calls in an outcome are elements. -/
theorem Outcome.is_child_of_occurs {callee : String} {arguments : List (CallTree ι)}
    {tree : CallTree ι} (h : tree.Outcome v)
    (hcall : (CallTree.call callee arguments).Occurs tree) :
    (CallTree.call callee arguments).IsChild v := by
  rcases h.of_occurs hcall with houtcome | hwithin
  · cases houtcome with
    | child hchild => exact hchild
  · exact hwithin.is_child_call

mutual

/-- An outcome stands for children. -/
theorem Outcome.flatten_item {item : CallTree ι} (h : item.Outcome v) :
    ∀ child ∈ item.flattenItem, child.IsChild v := by
  match item, h with
  | .list items, .list hitems => exact Outcome.flatten hitems
  | .call _ _, .child h | .literal _, .child h | .interpolation _, .child h =>
      exact List.forall_mem_singleton.mpr h

/-- Outcomes stand for children. -/
theorem Outcome.flatten {items : List (CallTree ι)} (h : ∀ item ∈ items, item.Outcome v) :
    ∀ child ∈ CallTree.flatten items, child.IsChild v := by
  match items with
  | [] => exact List.forall_mem_nil _
  | item :: items =>
      obtain ⟨hitem, hitems⟩ := List.forall_mem_cons.mp h
      exact List.forall_mem_append.mpr ⟨Outcome.flatten_item hitem, Outcome.flatten hitems⟩

end

/-- The first of the results of a node is an outcome. -/
theorem Outcome.first_result {tree : CallTree ι} (h : tree.Outcome v) :
    (Compiler.firstResult tree).Outcome v := by
  unfold Compiler.firstResult
  split
  · cases h with
    | child h => cases h
    | list hitems => exact hitems _ List.mem_cons_self
  · exact h

/-! ## Calls and interpolations -/

/-- Every call in the tree has at least a tag and properties, and every interpolation has the
property `p`. -/
inductive Proper (p : ι → Prop) : CallTree ι → Prop where
  | call {callee : String} {arguments : List (CallTree ι)} :
      2 ≤ arguments.length → (∀ argument ∈ arguments, Proper p argument) →
      Proper p (.call callee arguments)
  | reference (name : String) : Proper p (.reference name)
  | literal (value : Scalar) : Proper p (.literal value)
  | null : Proper p .null
  | concat {parts : List (CallTree ι)} :
      (∀ part ∈ parts, Proper p part) → Proper p (.concat parts)
  | props {properties : List (Property (CallTree ι))} :
      (∀ property ∈ properties, Proper p property.value) → Proper p (.props properties)
  | list {items : List (CallTree ι)} : (∀ item ∈ items, Proper p item) → Proper p (.list items)
  | interpolation {value : ι} : p value → Proper p (.interpolation value)

section

variable {p : ι → Prop} (hp : ∀ value, v.IsGiven value → p value)

include hp

/-- The value of a property is proper. -/
theorem IsValue.proper {tree : CallTree ι} (h : tree.IsValue v) : tree.Proper p := by
  cases h with
  | literal value => exact .literal value
  | interpolation hgiven => exact .interpolation (hp _ hgiven)
  | concat _ hparts =>
      refine .concat fun part hpart => ?_
      cases hparts part hpart with
      | text => exact .literal _
      | interpolation hgiven => exact .interpolation (hp _ hgiven)

/-- The properties of an element are proper. -/
theorem IsProperties.proper {tree : CallTree ι} (h : tree.IsProperties v) : tree.Proper p := by
  cases h with
  | none => exact .null
  | some _ _ hproperties =>
      exact .props fun property hproperty => (hproperties property hproperty).2.proper hp

/-- A child of an element is proper. -/
theorem IsChild.proper {tree : CallTree ι} (h : tree.IsChild v) : tree.Proper p := by
  induction h with
  | @element _ tag _ _ _ htag hproperties _ ih =>
      have htag : tag.Proper p := by
        rcases htag.eq with rfl | rfl
        · exact .reference _
        · exact .literal _
      exact .call (Nat.le_add_left _ _)
        (List.forall_mem_cons.mpr ⟨htag, List.forall_mem_cons.mpr ⟨hproperties.proper hp, ih⟩⟩)
  | text value => exact .literal _
  | interpolation hgiven => exact .interpolation (hp _ hgiven)

/-- What a node becomes is proper. -/
theorem Outcome.proper {tree : CallTree ι} (h : tree.Outcome v) : tree.Proper p := by
  induction h with
  | child h => exact h.proper hp
  | list _ ih => exact .list ih

end

end CallTree

/-! ## Going through lists -/

namespace Attempt

variable {σ α β : Type} {rel : α → β → Prop} {as : List α}

/-- A property that comes from being related holds of all items that have a partner. -/
theorem forall_mem_of_forall₂ {bs : List β} (h : List.Forall₂ rel as bs) {p : β → Prop}
    (hrel : ∀ a b, rel a b → p b) : ∀ b ∈ bs, p b := by
  induction h with
  | nil => exact List.forall_mem_nil _
  | cons hb _ ih => exact List.forall_mem_cons.mpr ⟨hrel _ _ hb, ih⟩

/-- Going through a list maintains an invariant and relates the items to what becomes of them. -/
theorem maintains_mapM {inv : σ → Prop} {f : α → Attempt σ β}
    (hf : ∀ a ∈ as, Maintains inv (f a) (rel a)) :
    Maintains inv (as.mapM f) (List.Forall₂ rel as) := by
  induction as with
  | nil => exact maintains_pure .nil
  | cons a as ih =>
      obtain ⟨ha, has⟩ := List.forall_mem_cons.mp hf
      rw [List.mapM_cons]
      exact maintains_bind ha fun b hb => maintains_bind (ih has) fun bs hbs =>
        maintains_pure (.cons hb hbs)

end Attempt

/-! ## Taking interpolations -/

namespace Cursor

variable {α : Type}

/-- An item that is taken was there. -/
theorem mem_of_take {c left : Cursor α} {i : Int} {item : α}
    (h : c.take i = (some item, left)) : item ∈ c.slots.map (·.item) := by
  cases i with
  | negSucc => cases h
  | ofNat i =>
      unfold take free? at h
      cases hslot : c.slots[i]? with
      | none =>
          simp only [hslot] at h
          cases h
      | some slot =>
          simp only [hslot] at h
          split at h
          · rename_i hfree
            cases h
            split at hfree
            · cases hfree
            · cases hfree
              exact List.mem_map.mpr ⟨slot, List.mem_of_getElem? hslot, rfl⟩
          · cases h

/-- Taking an item does not change which items there are. -/
theorem items_take (c : Cursor α) (i : Int) :
    (c.take i).2.slots.map (·.item) = c.slots.map (·.item) := by
  unfold take
  split
  · split
    · show (Slot.mark c.slots _).map (·.item) = c.slots.map (·.item)
      rw [Slot.mark]
      refine List.ext_getElem? fun j => ?_
      simp only [List.getElem?_map, List.getElem?_modify]
      cases c.slots[j]? with
      | none => rfl
      | some slot => split <;> rfl
    · rfl
  · rfl

/-- The items that a cursor starts with. -/
theorem items_of_list (items : List α) : (ofList items).slots.map (·.item) = items := by
  rw [ofList, List.map_map]
  exact List.map_id items

end Cursor

namespace Compiler

open CallTree (Vocabulary IsPiece IsValue IsProperties IsChild Outcome)

variable {v : Vocabulary ι}

/-- All interpolations that a workspace has, taken or not, are of the vocabulary. -/
def Workspace.Holds (v : Vocabulary ι) (w : Workspace ι) : Prop :=
  ∀ item ∈ w.cursor.slots.map (·.item), ∃ value, v.IsGiven value ∧ item = .interpolation value

/-- A note leaves the interpolations alone. -/
theorem maintains_note (event : Event) :
    Maintains (Workspace.Holds v) (note event) fun _ => True := by
  intro w _ u hw hnote
  obtain rfl := yields_note.mp hnote
  exact ⟨trivial, hw⟩

/-- A placeholder becomes a piece or nothing. -/
theorem maintains_take_interpolation (strict : Bool) (index : Nat) :
    Maintains (Workspace.Holds v) (takeInterpolation strict index)
      fun items => ∀ item ∈ items, item.IsPiece v := by
  intro w items u hw h
  unfold takeInterpolation at h
  simp only [yields_bind, yields_get] at h
  obtain ⟨_, _, ⟨rfl, rfl⟩, h⟩ := h
  have hitems := Cursor.items_take w.cursor index
  cases htake : w.cursor.take index with
  | mk item left =>
      rw [htake] at h hitems
      cases item with
      | some item =>
          obtain ⟨_, _, hset, hend⟩ := yields_bind.mp h
          obtain rfl := yields_set.mp hset
          obtain ⟨rfl, rfl⟩ := yields_pure.mp hend
          obtain ⟨value, hgiven, rfl⟩ := hw item (Cursor.mem_of_take htake)
          refine ⟨List.forall_mem_singleton.mpr (.interpolation hgiven), ?_⟩
          unfold Workspace.Holds
          rw [hitems]
          exact hw
      | none =>
          have hdrop : Maintains (Workspace.Holds v) (do
              if strict then throw (.template (.unmatchedPlaceholder index w.cursor.size))
              note (.placeholderDropped index w.cursor.size)
              return [] : Attempt (Workspace ι) (List (CallTree ι)))
              fun items => ∀ item ∈ items, item.IsPiece v := by
            dsimp only
            split
            · rw [throw_bind]
              exact maintains_throw _
            · exact maintains_bind (maintains_note _) fun _ _ =>
                maintains_pure (List.forall_mem_nil _)
          exact hdrop w items u hw h

/-! ## Texts and properties -/

/-- A text between placeholders is a piece or nothing. -/
theorem is_piece_of_mem_segment {cs : List Char} :
    ∀ part ∈ (Compiler.segment cs : List (CallTree ι)), part.IsPiece v := by
  unfold Compiler.segment
  split
  · exact List.forall_mem_nil _
  · rename_i hne
    refine List.forall_mem_singleton.mpr (.text fun hempty => hne ?_)
    rw [List.isEmpty_iff, ← String.toList_ofList (l := cs), hempty]
    rfl

/-- The marks of a text become pieces. -/
theorem maintains_splice_marks (strict : Bool) (marks : List (List Char × List Char)) :
    Maintains (Workspace.Holds v) (spliceMarks strict marks)
      fun parts => ∀ part ∈ parts, part.IsPiece v := by
  induction marks with
  | nil => exact maintains_pure (List.forall_mem_nil _)
  | cons mark marks ih =>
      refine maintains_bind (maintains_lift_except fun _ _ => trivial) fun index _ => ?_
      refine maintains_bind (maintains_take_interpolation strict index) fun item hitem => ?_
      refine maintains_bind ih fun more hmore => maintains_pure ?_
      exact List.forall_mem_append.mpr
        ⟨List.forall_mem_append.mpr ⟨hitem, is_piece_of_mem_segment⟩, hmore⟩

/-- A text becomes a single literal, which may be empty, or pieces. -/
theorem maintains_splice (strict : Bool) (value : String) :
    Maintains (Workspace.Holds v) (splice strict value)
      fun parts => parts = [.literal (.text value)] ∨ ∀ part ∈ parts, part.IsPiece v := by
  unfold splice
  dsimp only
  split
  · exact maintains_pure (.inl rfl)
  · refine maintains_bind (maintains_splice_marks strict _) fun more hmore =>
      maintains_pure (.inr ?_)
    exact List.forall_mem_append.mpr ⟨is_piece_of_mem_segment, hmore⟩

/-- The value of an attribute becomes the value of a property. -/
theorem maintains_attribute_value (strict : Bool) (value : Scalar) :
    Maintains (Workspace.Holds v) (attributeValue strict value) (IsValue v) := by
  unfold attributeValue
  split
  · refine maintains_bind (maintains_splice strict _) fun parts hparts => ?_
    split
    · exact maintains_pure (.literal _)
    · rcases hparts with heq | hpieces
      · cases heq
        exact maintains_pure (.literal _)
      · exact maintains_pure (hpieces _ List.mem_cons_self).is_value
    · rename_i hnil hone
      rcases hparts with heq | hpieces
      · exact absurd heq (hone _)
      · -- Neither empty nor a single part: at least two.
        refine maintains_pure (.concat ?_ hpieces)
        match parts, hnil, hone with
        | [], hnil, _ => exact absurd rfl hnil
        | [part], _, hone => exact absurd rfl (hone part)
        | _ :: _ :: _, _, _ => exact Nat.le_add_left _ _
  · exact maintains_pure (.literal _)

/-- The attributes of a tag become the properties of an element. -/
theorem maintains_properties (options : Options) (attributes : List Attribute) :
    Maintains (Workspace.Holds v) (properties options attributes) (IsProperties v) := by
  have hentry (entry : String × Scalar) :
      Maintains (Workspace.Holds v) (property options.strict entry) fun property =>
        entry.1 = property.key ∧ property.quoted = !Text.isIdentifier property.key.toList ∧
          property.value.IsValue v :=
    maintains_bind (maintains_attribute_value options.strict entry.2) fun _ hvalue =>
      maintains_pure ⟨rfl, rfl, hvalue⟩
  unfold properties
  dsimp only
  split
  · exact maintains_pure .none
  · rename_i hne
    refine maintains_bind (maintains_mapM fun entry _ => hentry entry) fun ps hps =>
      maintains_pure ?_
    have hkeys : (Attribute.merge options.propertyNames attributes).keys = ps.map (·.key) := by
      rw [Entries.keys, ← List.forall₂_eq_eq_eq, List.forall₂_map_left_iff,
        List.forall₂_map_right_iff]
      exact hps.imp fun _ _ hproperty => hproperty.1
    refine .some ?_ ?_ (forall_mem_of_forall₂ hps fun _ _ hproperty => hproperty.2)
    · rintro rfl
      exact hne (List.isEmpty_iff.mpr (List.forall₂_nil_right_iff.mp hps))
    · rw [← hkeys]
      exact Attribute.nodup_keys_merge _ _

/-! ## Nodes -/

/-- The tag of an element is that of its name. -/
theorem is_tag_of_tag_tree (name : String) : (tagTree name : CallTree ι).IsTagOf name := by
  unfold tagTree CallTree.IsTagOf
  cases name.toList with
  | nil => rfl
  | cons c cs =>
      dsimp only [List.head?_cons, Option.any_some]
      split <;> rfl

/-- The nodes that the compilation of a tree descends to, the tree itself included. -/
inductive Reaches (lookup : Lookup) (tree : Markup) : Markup → Prop where
  | root : Reaches lookup tree tree
  | step {node inner : Markup} :
      Reaches lookup tree node → inner ∈ below lookup node → Reaches lookup tree inner

/-- The name of a tag that the compilation of a tree descends to. -/
def IsTagName (lookup : Lookup) (tree : Markup) (name : String) : Prop :=
  ∃ position attributes blockPosition children,
    Reaches lookup tree (.tag position name attributes blockPosition children)

/-- What a tree is compiled with: the element factory, the names of its tags and the
interpolations. -/
def vocabulary (options : Options) (lookup : Lookup) (tree : Markup) (xs : List ι) : Vocabulary ι :=
  ⟨options.factory, IsTagName lookup tree, (· ∈ xs)⟩

section

variable {options : Options} {lookup : Lookup} {tree : Markup} {xs : List ι}

/-- A node of a tree becomes an outcome if the nodes below it do. -/
theorem maintains_compile_step {descend : Markup → Attempt (Workspace ι) (CallTree ι)}
    (hdescend : ∀ node, Reaches lookup tree node →
      Maintains (Workspace.Holds (vocabulary options lookup tree xs)) (descend node)
        (Outcome (vocabulary options lookup tree xs)))
    {node : Markup} (hnode : Reaches lookup tree node) :
    Maintains (Workspace.Holds (vocabulary options lookup tree xs))
      (compileStep options lookup descend node) (Outcome (vocabulary options lookup tree xs)) := by
  have hbelow {nodes : List Markup} (hnodes : below lookup node = nodes) :
      Maintains (Workspace.Holds (vocabulary options lookup tree xs)) (nodes.mapM descend)
        fun items => ∀ item ∈ items, item.Outcome (vocabulary options lookup tree xs) := by
    intro w items u hw h
    have hinner : ∀ inner ∈ nodes, Reaches lookup tree inner :=
      fun inner hinner => hnode.step (hnodes ▸ hinner)
    obtain ⟨hitems, hu⟩ :=
      maintains_mapM (fun inner h => hdescend inner (hinner inner h)) w items u hw h
    exact ⟨forall_mem_of_forall₂ hitems fun _ _ hitem => hitem, hu⟩
  have hlist {nodes : List Markup} (hnodes : below lookup node = nodes) :
      Maintains (Workspace.Holds (vocabulary options lookup tree xs))
        (do return .list (← nodes.mapM descend) : Attempt (Workspace ι) (CallTree ι))
        (Outcome (vocabulary options lookup tree xs)) :=
    maintains_bind (hbelow hnodes) fun _ hitems => maintains_pure (.list hitems)
  cases node with
  | block _ nodes => exact hlist rfl
  | namedBlock _ name nodes =>
      rw [compileStep]
      split
      · rename_i override hlookup
        exact maintains_bind (maintains_note _) fun _ _ => hlist (by rw [below, hlookup]; rfl)
      · rename_i hlookup
        exact hlist (by rw [below, hlookup]; rfl)
  | text _ value =>
      refine maintains_bind (maintains_splice _ value) fun parts hparts => maintains_pure (.list ?_)
      rcases hparts with rfl | hpieces
      · exact List.forall_mem_singleton.mpr (.child (.text value))
      · exact fun part hpart => .child (hpieces part hpart).is_child
  | tag _ name attributes _ children =>
      refine maintains_bind (maintains_properties options attributes) fun props hprops => ?_
      refine maintains_bind (hbelow rfl) fun items hitems => maintains_pure (.child ?_)
      exact .element ⟨_, _, _, _, hnode⟩ (is_tag_of_tag_tree name) hprops (Outcome.flatten hitems)
  | included _ _ inner => exact hdescend inner (hnode.step (List.mem_singleton_self inner))
  | extended _ _ inner =>
      exact maintains_bind (hdescend inner (hnode.step (List.mem_singleton_self inner)))
        fun _ hresult => maintains_pure hresult.first_result
  | foreign _ kind => exact maintains_throw _

/-- A node of a tree becomes an outcome, however deep nodes nest. -/
theorem maintains_compile_within (room : Nat) {node : Markup} (hnode : Reaches lookup tree node) :
    Maintains (Workspace.Holds (vocabulary options lookup tree xs))
      (compileWithin options lookup room node) (Outcome (vocabulary options lookup tree xs)) := by
  induction room generalizing node with
  | zero => exact maintains_compile_step (fun _ _ => maintains_throw _) hnode
  | succ room ih => exact maintains_compile_step (fun _ => ih) hnode

/-- At the start of a compilation the workspace holds the interpolations. -/
theorem holds_of_list (xs : List ι) (events : List Event) :
    Workspace.Holds (vocabulary options lookup tree xs)
      ⟨.ofList (xs.map .interpolation), events⟩ := by
  unfold Workspace.Holds
  rw [Cursor.items_of_list]
  intro item hitem
  obtain ⟨value, hvalue, rfl⟩ := List.mem_map.mp hitem
  exact ⟨value, hvalue, rfl⟩

/-- A tree with interpolations becomes an outcome. -/
theorem outcome_of_yields_compile {events : List Event} {result : CallTree ι} {w : Workspace ι}
    (h : Yields (compile options lookup tree) ⟨.ofList (xs.map .interpolation), events⟩ result w) :
    result.Outcome (vocabulary options lookup tree xs) :=
  (maintains_compile_within _ .root _ result w (holds_of_list xs events) h).1

end

/-- Every call in a compiled tree makes an element. It calls the element factory and has a tag,
properties and children: the tag refers to the name of a tag of the tree if this name starts with a
capital letter and otherwise is the name as a text, the properties have the form of `IsProperties`,
and each child is a call, a literal text or an interpolation. -/
theorem compile_elements (options : Options) (lookup : Lookup) (tree : Markup) (xs : List ι)
    (events : List Event) (result : CallTree ι) (w : Workspace ι)
    (h : (compile options lookup tree).run.run ⟨.ofList (xs.map .interpolation), events⟩ =
      (.ok result, w))
    (callee : String) (arguments : List (CallTree ι))
    (hcall : (CallTree.call callee arguments).Occurs result) :
    callee = options.factory ∧
    ∃ tag properties children, arguments = tag :: properties :: children ∧
      (∃ name, IsTagName lookup tree name ∧ tag.IsTagOf name) ∧
      properties.IsProperties (vocabulary options lookup tree xs) ∧
      ∀ child ∈ children, child.IsChild (vocabulary options lookup tree xs) := by
  have houtcome : result.Outcome (vocabulary options lookup tree xs) := outcome_of_yields_compile h
  generalize hv : vocabulary options lookup tree xs = v at houtcome
  cases houtcome.is_child_of_occurs hcall with
  | element hname htag hproperties hchildren =>
      subst hv
      exact ⟨rfl, _, _, _, rfl, ⟨_, hname, htag⟩, hproperties, hchildren⟩

/-- The outcome is a call. -/
def isCall : Except Fault (CallTree ι) × Workspace ι → Bool
  | (.ok (.call _ _), _) => true
  | _ => false

/-- A component with merged attributes, around an overridden block, an extended template of which
only the first result is kept, and a text whose only placeholder is dropped. -/
theorem compile_elements_merged :
    let tree : Markup := .tag ⟨1, 0⟩ "Card"
      [⟨"class", .text "a/~1~/"⟩, ⟨"data-id", .integer 3⟩, ⟨"className", .text "b"⟩] (some ⟨1, 0⟩)
      [.namedBlock ⟨2, 2⟩ "side" [.text ⟨3, 4⟩ "x"],
        .extended ⟨4, 2⟩ none (.block ⟨1, 0⟩ [.block ⟨1, 0⟩ [.text ⟨1, 0⟩ "/~0~/y"],
          .tag ⟨2, 0⟩ "i" [] none []]),
        .included ⟨5, 2⟩ none (.block ⟨1, 0⟩ [.text ⟨1, 0⟩ "/~7~/"])]
    let lookup := overriding "side" [.tag ⟨1, 2⟩ "b" [] none []]
    let options := Environment.default.options
    let start : Workspace Nat := ⟨.ofList ([10, 11].map .interpolation), []⟩
    ∃ tag properties children w,
      (compile options lookup tree).run.run start =
        (.ok (.call "React.createElement" (tag :: properties :: children)), w) ∧
      (∃ name, IsTagName lookup tree name ∧ tag.IsTagOf name) ∧
      properties.IsProperties (vocabulary options lookup tree [10, 11]) ∧
      ∀ child ∈ children, child.IsChild (vocabulary options lookup tree [10, 11]) := by
  intro tree lookup options start
  have hok : isCall ((compile options lookup tree).run.run start) = true := by decide +kernel
  unfold isCall at hok
  split at hok
  · rename_i callee arguments w hrun
    obtain ⟨rfl, tag, properties, children, rfl, hshape⟩ :=
      compile_elements options lookup tree [10, 11] [] _ w hrun callee arguments .whole
    exact ⟨tag, properties, children, w, hrun, hshape⟩
  · cases hok

end Compiler

/-- A template with interpolations that have the property becomes a proper tree. -/
theorem Environment.proper_of_yields_compile {p : ι → Prop} {env : Environment}
    {fragments : List String} {xs : List ι} {name : Option String} (hxs : ∀ x ∈ xs, p x)
    {result : CallTree ι} {before after : List Event}
    (h : Yields (env.compile fragments (xs.map .interpolation) name) before result after) :
    result.Proper p := by
  obtain ⟨composition, composed, w, -, hcompile, -⟩ := yields_compile.mp h
  exact (Compiler.outcome_of_yields_compile hcompile).proper hxs

end ElementMarkup
