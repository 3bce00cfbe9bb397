import ElementMarkup.Proofs.Elements

/-!
# Interpolations are never looked into

A compilation passes its interpolations on as they are. It asks for one thing only, whether a child
is a list. So two compilations of a template with values that are no lists differ in nothing but
these values. To tell the values from what the template itself contributes, they are wrapped: in a
tree over trees each interpolation holds the tree that stands in its place (`CallTree.join`).
`Carries` says of two attempts that the second one does what the first one does with values and
states carried over, and it goes through the compilation step by step. Main statement:
`compile_opaque`.
-/

namespace ElementMarkup

open Attempt

variable {ι κ : Type}

/-! ## Trees in the place of interpolations -/

namespace CallTree

mutual

/-- The tree with the trees in it put in the place of the interpolations that hold them. -/
def join : CallTree (CallTree ι) → CallTree ι
  | call callee arguments => call callee (joinList arguments)
  | reference name => reference name
  | literal value => literal value
  | null => null
  | concat parts => concat (joinList parts)
  | props properties => props (joinProperties properties)
  | list items => list (joinList items)
  | interpolation tree => tree

/-- The trees with the trees in them put in the place of interpolations. -/
def joinList : List (CallTree (CallTree ι)) → List (CallTree ι)
  | [] => []
  | tree :: trees => join tree :: joinList trees

/-- The properties with the trees in them put in the place of interpolations. -/
def joinProperties : List (Property (CallTree (CallTree ι))) → List (Property (CallTree ι))
  | [] => []
  | ⟨key, value, quoted⟩ :: properties => ⟨key, join value, quoted⟩ :: joinProperties properties

end

/-- The tree with a tree put in the place of each interpolation. -/
def fill (r : ι → CallTree κ) (tree : CallTree ι) : CallTree κ :=
  (tree.map r).join

/-- The property with a tree put in the place of each interpolation. -/
def fillProperty (r : ι → CallTree κ) (property : Property (CallTree ι)) :
    Property (CallTree κ) :=
  ⟨property.key, property.value.fill r, property.quoted⟩

variable (r : ι → CallTree κ)

/-- Trees are filled one by one. -/
theorem join_list_map_list (trees : List (CallTree ι)) :
    joinList (mapList r trees) = trees.map (fill r) := by
  induction trees with
  | nil => rfl
  | cons tree trees ih => rw [mapList, joinList, ih, List.map_cons, fill]

/-- Properties are filled one by one. -/
theorem join_properties_map_properties (properties : List (Property (CallTree ι))) :
    joinProperties (mapProperties r properties) = properties.map (fillProperty r) := by
  induction properties with
  | nil => rfl
  | cons property properties ih =>
      rw [mapProperties, joinProperties, ih, List.map_cons, fillProperty, fill]

@[simp] theorem fill_call (callee : String) (arguments : List (CallTree ι)) :
    (call callee arguments).fill r = call callee (arguments.map (fill r)) := by
  rw [fill, map, join, join_list_map_list]

@[simp] theorem fill_concat (parts : List (CallTree ι)) :
    (concat parts).fill r = concat (parts.map (fill r)) := by
  rw [fill, map, join, join_list_map_list]

@[simp] theorem fill_props (properties : List (Property (CallTree ι))) :
    (props properties).fill r = props (properties.map (fillProperty r)) := by
  rw [fill, map, join, join_properties_map_properties]

@[simp] theorem fill_list (items : List (CallTree ι)) :
    (list items).fill r = list (items.map (fill r)) := by
  rw [fill, map, join, join_list_map_list]

mutual

/-- Applying nothing to the interpolations changes nothing. -/
theorem map_id (tree : CallTree ι) : tree.map id = tree := by
  match tree with
  | .call _ arguments => rw [map, map_list_id arguments]
  | .concat parts => rw [map, map_list_id parts]
  | .props properties => rw [map, map_properties_id properties]
  | .list items => rw [map, map_list_id items]
  | .reference _ | .literal _ | .null | .interpolation _ => rfl

/-- Applying nothing to the interpolations of several trees changes nothing. -/
theorem map_list_id (trees : List (CallTree ι)) : mapList id trees = trees := by
  match trees with
  | [] => rfl
  | tree :: trees => rw [mapList, map_id tree, map_list_id trees]

/-- Applying nothing to the interpolations of properties changes nothing. -/
theorem map_properties_id (properties : List (Property (CallTree ι))) :
    mapProperties id properties = properties := by
  match properties with
  | [] => rfl
  | ⟨_, value, _⟩ :: properties => rw [mapProperties, map_id value, map_properties_id properties]

end

/-- A tree over trees is filled with what its interpolations hold. -/
theorem fill_id : (fill id : CallTree (CallTree ι) → CallTree ι) = join :=
  funext fun tree => congrArg join (map_id tree)

/-- The interpolations that occur in a proper tree have the property. -/
theorem Proper.of_occurs {p : ι → Prop} {tree : CallTree ι} (h : tree.Proper p) {x : ι}
    (hx : (CallTree.interpolation x).Occurs tree) : p x := by
  have hinside : ∀ tree : CallTree ι, tree.Proper p → ∀ next ∈ tree.inside, next.Proper p := by
    intro tree htree next hnext
    cases htree with
    | call _ harguments => exact harguments next hnext
    | concat hparts => exact hparts next hnext
    | props hproperties =>
        obtain ⟨property, hproperty, rfl⟩ := List.mem_map.mp hnext
        exact hproperties property hproperty
    | list hitems => exact hitems next hnext
    | reference | literal | null | interpolation => cases hnext
  cases hx.of_inside hinside h with
  | interpolation hp => exact hp

/-- Where all interpolations of a tree are filled alike the tree is. -/
theorem fill_congr {r other : ι → CallTree κ} {p : ι → Prop} (h : ∀ x, p x → r x = other x)
    {tree : CallTree ι} (htree : tree.Proper p) : tree.fill r = tree.fill other := by
  induction htree with
  | call _ _ ih => rw [fill_call, fill_call, List.map_congr_left ih]
  | reference | literal | null => rfl
  | concat _ ih => rw [fill_concat, fill_concat, List.map_congr_left ih]
  | props _ ih =>
      rw [fill_props, fill_props, List.map_congr_left fun property hproperty => ?_]
      rw [fillProperty, fillProperty, ih property hproperty]
  | list _ ih => rw [fill_list, fill_list, List.map_congr_left ih]
  | interpolation hx => exact h _ hx

/-! ## Lists of children -/

section

variable {r}

mutual

/-- An item that is filled stands for the children that it stands for, filled. -/
theorem flatten_item_fill (hr : ∀ x, (r x).isList = false) (item : CallTree ι) :
    (item.fill r).flattenItem = item.flattenItem.map (fill r) := by
  match item with
  | .list items =>
      rw [fill_list, flattenItem, flattenItem]
      exact flatten_map_fill hr items
  | .call _ _ | .concat _ | .props _ => simp [flattenItem]
  | .reference _ | .literal _ | .null => rfl
  | .interpolation x =>
      show (r x).flattenItem = [r x]
      have hx := hr x
      cases hrx : r x with
      | list => rw [hrx] at hx; cases hx
      | _ => rfl

/-- Items that are filled stand for the children that they stand for, filled. -/
theorem flatten_map_fill (hr : ∀ x, (r x).isList = false) (items : List (CallTree ι)) :
    flatten (items.map (fill r)) = (flatten items).map (fill r) := by
  match items with
  | [] => rfl
  | item :: items =>
      rw [List.map_cons, flatten, flatten, flatten_item_fill hr item, flatten_map_fill hr items,
        List.map_append]

end

/-- The first result of a tree that is filled is its first result, filled. -/
theorem first_result_fill (hr : ∀ x, (r x).isList = false) (tree : CallTree ι) :
    Compiler.firstResult (tree.fill r) = (Compiler.firstResult tree).fill r := by
  cases tree with
  | list items =>
      rw [fill_list]
      cases items with
      | nil => exact (fill_list r []).symm
      | cons item items => rfl
  | interpolation x =>
      show Compiler.firstResult (r x) = r x
      have hx := hr x
      cases hrx : r x with
      | list => rw [hrx] at hx; cases hx
      | _ => rfl
  | call | concat | props => simp [Compiler.firstResult]
  | reference | literal | null => rfl

end

/-- The function with something that is no list in the place of what it makes of lists. -/
def offLists (f : CallTree ι → CallTree κ) (x : CallTree ι) : CallTree κ :=
  if x.isList then .null else f x

/-- What is no list is taken where it was. -/
theorem off_lists_eq (f : CallTree ι → CallTree κ) {x : CallTree ι} (hx : x.isList = false) :
    offLists f x = f x := by
  simp [offLists, hx]

/-- Nothing is taken to a list any more. -/
theorem is_list_off_lists {f : CallTree ι → CallTree κ}
    (hf : ∀ x, x.isList = false → (f x).isList = false) (x : CallTree ι) :
    (offLists f x).isList = false := by
  cases hx : x.isList with
  | true => rw [offLists, hx]; rfl
  | false => rw [off_lists_eq f hx]; exact hf x hx

end CallTree

/-! ## Attempts that carry over -/

namespace Attempt

variable {σ τ α β γ δ : Type}

/-- The second attempt does what the first one does, with states and values carried over, and fails
with the same fault where the first one fails. -/
def Carries (state : σ → τ) (value : α → β) (x : Attempt σ α) (y : Attempt τ β) : Prop :=
  ∀ s, y.run.run (state s) = ((x.run.run s).1.map value, state (x.run.run s).2)

variable {state : σ → τ} {value : α → β}

/-- An attempt carries over to itself. -/
theorem carries_refl (x : Attempt σ α) : Carries id id x x := by
  intro s
  show x.run.run s = ((x.run.run s).1.map id, (x.run.run s).2)
  cases x.run.run s with
  | mk result t => cases result <;> rfl

/-- A value carries over. -/
theorem carries_pure (a : α) : Carries state value (pure a) (pure (value a)) :=
  fun _ => rfl

/-- A fault carries over. -/
theorem carries_throw (fault : Fault) : Carries state value (throw fault) (throw fault) :=
  fun _ => rfl

/-- Looking at the state carries over. -/
theorem carries_get : Carries state state (get : Attempt σ σ) get :=
  fun _ => rfl

/-- Replacing the state carries over. -/
theorem carries_set (s : σ) : Carries state id (set s : Attempt σ PUnit) (set (state s)) :=
  fun _ => rfl

/-- Two steps in a row carry over if each of them does. -/
theorem carries_bind {next : γ → δ} {x : Attempt σ α} {y : Attempt τ β} {f : α → Attempt σ γ}
    {g : β → Attempt τ δ} (hx : Carries state value x y)
    (hf : ∀ a, Carries state next (f a) (g (value a))) :
    Carries state next (x >>= f) (y >>= g) := by
  intro s
  rw [run_bind, run_bind, hx s]
  cases x.run.run s with
  | mk result t =>
      cases result with
      | ok a => exact hf a t
      | error fault => rfl

/-- A result that is there already carries over. -/
theorem carries_lift_except (e : Except Fault α) :
    Carries state id (liftExcept e : Attempt σ α) (liftExcept e) := by
  cases e with
  | ok a => exact carries_pure a
  | error fault => exact carries_throw fault

/-- Going through a list carries over if it does for each item. -/
theorem carries_mapM {f : γ → Attempt σ α} {g : γ → Attempt τ β}
    (h : ∀ c, Carries state value (f c) (g c)) (cs : List γ) :
    Carries state (List.map value) (cs.mapM f) (cs.mapM g) := by
  induction cs with
  | nil => exact carries_pure []
  | cons c cs ih =>
      rw [List.mapM_cons, List.mapM_cons]
      exact carries_bind (h c) fun a => carries_bind ih fun as => carries_pure (a :: as)

end Attempt

/-! ## Cursors -/

namespace Cursor

variable {α β : Type}

/-- Which items have been taken does not depend on what the items are. -/
theorem taken_below_map (f : α → β) {slots : List (Slot α)} {place : Nat}
    (h : Slot.TakenBelow slots place) :
    Slot.TakenBelow (slots.map fun slot => ⟨f slot.item, slot.taken⟩) place := by
  intro i hi
  obtain ⟨slot, hslot, htaken⟩ := h i hi
  exact ⟨⟨f slot.item, slot.taken⟩, by rw [List.getElem?_map, hslot]; rfl, htaken⟩

/-- The cursor with a function applied to its items. -/
def map (f : α → β) (c : Cursor α) : Cursor β :=
  ⟨c.slots.map fun slot => ⟨f slot.item, slot.taken⟩, c.head, taken_below_map f c.below⟩

variable (f : α → β) (c : Cursor α)

/-- A cursor over other items has as many of them. -/
theorem size_map : (c.map f).size = c.size :=
  List.length_map _

/-- The items that are left are the same up to the function. -/
theorem free?_map (i : Nat) : (c.map f).free? i = (c.free? i).map f := by
  unfold free? map
  rw [List.getElem?_map]
  cases c.slots[i]? with
  | none => rfl
  | some slot => cases htaken : slot.taken <;> simp [htaken]

/-- Marking an item does not depend on what the items are. -/
theorem mark_map (i : Nat) : (c.map f).mark i = (c.mark i).map f := by
  unfold mark map Slot.mark
  congr 1
  refine List.ext_getElem? fun j => ?_
  simp only [List.getElem?_modify, List.getElem?_map]
  cases c.slots[j]? with
  | none => rfl
  | some slot => split <;> rfl

/-- Moving the head does not depend on what the items are. -/
theorem advance_map : (c.map f).advance = c.advance.map f := by
  unfold advance map Slot.firstFree
  congr 2
  rw [← List.map_drop, List.findIdx_map]
  rfl

/-- Taking an item does not depend on what the items are. -/
theorem take_map (i : Int) :
    (c.map f).take i = ((c.take i).1.map f, (c.take i).2.map f) := by
  cases i with
  | negSucc => rfl
  | ofNat i =>
      unfold take
      dsimp only
      rw [free?_map, mark_map, advance_map]
      cases c.free? i <;> rfl

/-- The numbers that are left do not depend on what the items are. -/
theorem unconsumed_map : (c.map f).unconsumed = c.unconsumed := by
  unfold unconsumed
  simp only [size_map, free?_map, Option.isSome_map]

/-- How many items have been taken does not depend on what the items are. -/
theorem consumed_map : (c.map f).consumed = c.consumed := by
  unfold consumed map
  rw [List.countP_map]
  rfl

/-- A cursor over other items from the start. -/
theorem map_of_list (items : List α) : (ofList items).map f = ofList (items.map f) := by
  unfold ofList map
  simp

end Cursor

/-! ## Compilation -/

namespace Compiler

/-- The workspace with a tree put in the place of each interpolation. -/
def Workspace.fill (r : ι → CallTree κ) (w : Workspace ι) : Workspace κ :=
  ⟨w.cursor.map (CallTree.fill r), w.events⟩

variable (r : ι → CallTree κ)

/-- A note carries over. -/
theorem carries_note (event : Event) :
    Carries (Workspace.fill r) id (note event) (note event) :=
  fun _ => rfl

/-- A placeholder takes the interpolation with its number, whatever it is. -/
theorem carries_take_interpolation (strict : Bool) (index : Nat) :
    Carries (Workspace.fill r) (List.map (CallTree.fill r)) (takeInterpolation strict index)
      (takeInterpolation strict index) := by
  refine carries_bind carries_get fun w => ?_
  have htake := w.cursor.take_map (CallTree.fill r) index
  have hsize := w.cursor.size_map (CallTree.fill r)
  dsimp only [Workspace.fill]
  rw [htake, hsize]
  cases w.cursor.take index with
  | mk item left =>
      cases item with
      | some item =>
          refine carries_bind (carries_set { w with cursor := left }) fun _ => ?_
          exact carries_pure [item]
      | none =>
          dsimp only [Option.map_none]
          split
          · exact carries_throw _
          · refine carries_bind (carries_note r _) fun _ => ?_
            exact carries_pure []

/-- A text between placeholders is not changed. -/
theorem map_fill_segment (cs : List Char) :
    (Compiler.segment cs).map (CallTree.fill r) = Compiler.segment cs := by
  unfold Compiler.segment
  split <;> rfl

/-- The marks of a text carry over. -/
theorem carries_splice_marks (strict : Bool) (marks : List (List Char × List Char)) :
    Carries (Workspace.fill r) (List.map (CallTree.fill r)) (spliceMarks strict marks)
      (spliceMarks strict marks) := by
  induction marks with
  | nil => exact carries_pure []
  | cons mark marks ih =>
      refine carries_bind (carries_lift_except _) fun index => ?_
      refine carries_bind (carries_take_interpolation r strict index) fun item => ?_
      refine carries_bind ih fun more => ?_
      rw [← map_fill_segment r, ← List.map_append, ← List.map_append]
      exact carries_pure _

/-- A text carries over. -/
theorem carries_splice (strict : Bool) (value : String) :
    Carries (Workspace.fill r) (List.map (CallTree.fill r)) (splice strict value)
      (splice strict value) := by
  unfold splice
  dsimp only
  split
  · exact carries_pure [CallTree.literal (.text value)]
  · refine carries_bind (carries_splice_marks r strict _) fun more => ?_
    rw [← map_fill_segment r, ← List.map_append]
    exact carries_pure _

/-- The value of an attribute carries over. -/
theorem carries_attribute_value (strict : Bool) (value : Scalar) :
    Carries (Workspace.fill r) (CallTree.fill r) (attributeValue strict value)
      (attributeValue strict value) := by
  unfold attributeValue
  split
  · refine carries_bind (carries_splice r strict _) fun parts => ?_
    rcases parts with - | ⟨first, - | ⟨second, more⟩⟩
    · exact carries_pure (CallTree.literal (.text ""))
    · exact carries_pure first
    · have hconcat : Carries (Workspace.fill r) (CallTree.fill r) _ _ :=
        carries_pure (.concat (first :: second :: more))
      rw [CallTree.fill_concat] at hconcat
      exact hconcat
  · exact carries_pure (CallTree.literal value)

/-- The properties of a tag carry over. -/
theorem carries_properties (options : Options) (attributes : List Attribute) :
    Carries (Workspace.fill r) (CallTree.fill r) (properties options attributes)
      (properties options attributes) := by
  have hproperty (entry : String × Scalar) :
      Carries (Workspace.fill r) (CallTree.fillProperty r) (property options.strict entry)
        (property options.strict entry) :=
    carries_bind (carries_attribute_value r options.strict entry.2) fun value =>
      carries_pure (Property.mk entry.1 value (needsQuotes entry.1))
  unfold properties
  dsimp only
  split
  · exact carries_pure CallTree.null
  · refine carries_bind (carries_mapM hproperty _) fun ps => ?_
    rw [← CallTree.fill_props]
    exact carries_pure _

section

variable {r} (hr : ∀ x, (r x).isList = false) (options : Options) (lookup : Lookup)

include hr

/-- A node carries over if the nodes below it do. -/
theorem carries_compile_step {descend : Markup → Attempt (Workspace ι) (CallTree ι)}
    {below : Markup → Attempt (Workspace κ) (CallTree κ)}
    (hbelow : ∀ node, Carries (Workspace.fill r) (CallTree.fill r) (descend node) (below node))
    (node : Markup) :
    Carries (Workspace.fill r) (CallTree.fill r) (compileStep options lookup descend node)
      (compileStep options lookup below node) := by
  have hlist (nodes : List Markup) :
      Carries (Workspace.fill r) (CallTree.fill r)
        (do return .list (← nodes.mapM descend) : Attempt (Workspace ι) (CallTree ι))
        (do return .list (← nodes.mapM below)) := by
    refine carries_bind (carries_mapM hbelow nodes) fun items => ?_
    rw [← CallTree.fill_list]
    exact carries_pure _
  cases node with
  | block _ nodes => exact hlist nodes
  | namedBlock _ name nodes =>
      rw [compileStep, compileStep]
      split
      · exact carries_bind (carries_note r _) fun _ => hlist _
      · exact hlist nodes
  | text _ value =>
      refine carries_bind (carries_splice r options.strict value) fun parts => ?_
      rw [← CallTree.fill_list]
      exact carries_pure _
  | tag _ name attributes _ children =>
      refine carries_bind (carries_properties r options attributes) fun props => ?_
      refine carries_bind (carries_mapM hbelow children) fun items => ?_
      have htag : (tagTree name : CallTree ι).fill r = tagTree name := by
        unfold tagTree
        split
        · split <;> rfl
        · rfl
      rw [CallTree.flatten_map_fill hr, ← htag, ← List.map_cons, ← List.map_cons,
        ← CallTree.fill_call]
      exact carries_pure _
  | included _ _ tree => exact hbelow tree
  | extended _ _ tree =>
      refine carries_bind (hbelow tree) fun result => ?_
      rw [CallTree.first_result_fill hr]
      exact carries_pure _
  | foreign _ kind => exact carries_throw _

/-- A node carries over, however deep nodes nest. -/
theorem carries_compile_within (room : Nat) (node : Markup) :
    Carries (Workspace.fill r) (CallTree.fill r) (compileWithin options lookup room node)
      (compileWithin options lookup room node) := by
  induction room generalizing node with
  | zero => exact carries_compile_step hr options lookup (fun _ => carries_throw _) node
  | succ room ih => exact carries_compile_step hr options lookup ih node

end

end Compiler

namespace Environment

/-- The call tree of a composition carries over, and so does the cursor that is left. -/
theorem carries_compile_composition {r : ι → CallTree κ} (hr : ∀ x, (r x).isList = false)
    (env : Environment) (composition : Composition) (xs : List ι) :
    Carries id (fun result => (result.1.fill r, result.2.map (CallTree.fill r)))
      (env.compileComposition composition (xs.map .interpolation))
      (env.compileComposition composition (xs.map r)) := by
  intro events
  have hstart : Compiler.Workspace.fill r ⟨.ofList (xs.map .interpolation), events⟩ =
      ⟨.ofList (xs.map r), events⟩ := by
    rw [Compiler.Workspace.fill, Cursor.map_of_list, List.map_map]
    rfl
  have hrun := Compiler.carries_compile_within hr env.options composition.lookup
    env.options.maxDepth.toNat composition.root ⟨.ofList (xs.map .interpolation), events⟩
  rw [hstart] at hrun
  rw [run_compile_composition, id, run_compile_composition, Compiler.compile, hrun,
    Compiler.compile]
  generalize (Compiler.compileWithin env.options composition.lookup env.options.maxDepth.toNat
    composition.root).run.run ⟨Cursor.ofList (xs.map .interpolation), events⟩ = outcome
  obtain ⟨result, w⟩ := outcome
  cases result <;> rfl

/-- A template carries over to other interpolations that are no lists: the same faults, the same
events, and other trees in the place of the interpolations. -/
theorem carries_compile {r : ι → CallTree κ} (hr : ∀ x, (r x).isList = false) (env : Environment)
    (fragments : List String) (xs : List ι) (name : Option String) :
    Carries id (CallTree.fill r) (env.compile fragments (xs.map .interpolation) name)
      (env.compile fragments (xs.map r) name) := by
  have hclosing (tree : CallTree ι) (cursor : Cursor (CallTree ι)) :
      Carries id (CallTree.fill r)
        (do
          if !cursor.unconsumed.isEmpty then
            report (.interpolationsUnused name cursor.unconsumed)
          report (.compiled name cursor.consumed cursor.size)
          return tree : Logged (CallTree ι))
        (do
          if !cursor.unconsumed.isEmpty then
            report (.interpolationsUnused name cursor.unconsumed)
          report (.compiled name cursor.consumed cursor.size)
          return tree.fill r) := by
    split
    · exact carries_bind (carries_refl _) fun _ =>
        carries_bind (carries_refl _) fun _ => carries_pure tree
    · exact carries_bind (carries_refl _) fun _ => carries_pure tree
  unfold compile
  rw [List.length_map, List.length_map]
  refine carries_bind (carries_refl _) fun source => ?_
  refine carries_bind (carries_refl _) fun _ => ?_
  refine carries_bind (carries_refl _) fun tree => ?_
  refine carries_bind (carries_refl _) fun composition => ?_
  refine carries_bind (carries_compile_composition hr env composition xs) fun result => ?_
  obtain ⟨tree, cursor⟩ := result
  dsimp only
  rw [Cursor.unconsumed_map, Cursor.consumed_map, Cursor.size_map]
  exact hclosing tree cursor

/-- Interpolations are opaque. A template with values that are no lists becomes a tree with some of
these values in it, and `outcome` says where they stand, or it fails for a reason that has nothing
to do with them. Any function that takes no other value to a list can be applied to the values
first: the tree then has the results in the same places, the fault is the same, and so are the
events. -/
theorem compile_opaque (env : Environment) (fragments : List String) (xs : List (CallTree ι))
    (hxs : ∀ x ∈ xs, x.isList = false) (name : Option String) (events : List Event) :
    ∃ (outcome : Except Fault (CallTree (CallTree ι))) (after : List Event),
      (∀ tree x, outcome = .ok tree → (CallTree.interpolation x).Occurs tree → x ∈ xs) ∧
      (env.compile fragments xs name).run.run events = (outcome.map CallTree.join, after) ∧
      ∀ (κ : Type) (f : CallTree ι → CallTree κ),
        (∀ x, x.isList = false → (f x).isList = false) →
        (env.compile fragments (xs.map f) name).run.run events =
          (outcome.map fun tree => (tree.map f).join, after) := by
  rcases hrun : (env.compile fragments (xs.map .interpolation) name).run.run events
    with ⟨outcome, after⟩
  have hproper : ∀ tree, outcome = .ok tree → tree.Proper (· ∈ xs) := by
    rintro tree rfl
    exact proper_of_yields_compile (fun _ hx => hx) hrun
  have hfill {κ : Type} (f : CallTree ι → CallTree κ)
      (hf : ∀ x, x.isList = false → (f x).isList = false) :
      (env.compile fragments (xs.map f) name).run.run events =
        (outcome.map (CallTree.fill f), after) := by
    -- What becomes of a list does not matter, since there is none among the values.
    have hsame : ∀ x ∈ xs, CallTree.offLists f x = f x :=
      fun x hx => CallTree.off_lists_eq f (hxs x hx)
    have hcarries := carries_compile (CallTree.is_list_off_lists hf) env fragments xs name events
    rw [id, hrun, List.map_congr_left hsame] at hcarries
    rw [hcarries]
    cases outcome with
    | error fault => rfl
    | ok tree =>
        have htree := CallTree.fill_congr hsame (hproper tree rfl)
        exact congrArg (fun tree => (Except.ok tree, after)) htree
  refine ⟨outcome, after, ?_, ?_, fun κ f hf => hfill f hf⟩
  · intro tree x htree hx
    exact (hproper tree htree).of_occurs hx
  · have hid := hfill id fun _ hx => hx
    rw [List.map_id, CallTree.fill_id] at hid
    exact hid

/-- The same value twice, which marks the absence of something else, is wrapped in the place of an
attribute and in the place of a child. -/
theorem compile_opaque_wrapped :
    let xs : List (CallTree Nat) := [.null, .null]
    let wrap (x : CallTree Nat) : CallTree Nat := .call "wrap" [x]
    (∀ x ∈ xs, x.isList = false) ∧ (∀ x, x.isList = false → (wrap x).isList = false) ∧
    ∃ (tree : CallTree (CallTree Nat)) (after : List Event),
      (default.compile ["p(a=\"", "\") ", " b"] xs none).run.run [] = (.ok tree.join, after) ∧
      (default.compile ["p(a=\"", "\") ", " b"] (xs.map wrap) none).run.run [] =
        (.ok (tree.map wrap).join, after) := by
  intro xs wrap
  have hxs : ∀ x ∈ xs, x.isList = false := by decide
  have hwrap : ∀ x, x.isList = false → (wrap x).isList = false := fun _ _ => rfl
  have hok : ((default.compile ["p(a=\"", "\") ", " b"] xs none).run.run []).1.isOk = true := by
    decide +kernel
  obtain ⟨outcome, after, -, hrun, hmap⟩ :=
    compile_opaque default ["p(a=\"", "\") ", " b"] xs hxs none []
  rw [hrun] at hok
  cases outcome with
  | error fault => cases hok
  | ok tree => exact ⟨hxs, hwrap, tree, after, hrun, hmap Nat wrap hwrap⟩

end Environment

end ElementMarkup
