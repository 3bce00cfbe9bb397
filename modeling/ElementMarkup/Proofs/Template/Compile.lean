import ElementMarkup.Proofs.Attributes
import ElementMarkup.Proofs.Compiler
import ElementMarkup.Proofs.Environment
import ElementMarkup.Proofs.Template.Source

/-!
# Compiling templates

A well-formed template compiles to its meaning. The compiler meets the marks in the order of their
numbers, so at any time the interpolations that have been taken are the first ones; each lemma says
what its part of the tree compiles to from there, and how many further ones it takes.
-/

namespace ElementMarkup.Template

open ElementMarkup.Attempt ElementMarkup.Compiler

variable {ι : Type}

/-! ## Texts -/

/-- The items in a hole and after it. -/
theorem get_elem?_of_prefix_drop {α : Type} {item : α} {items all : List α} {k : Nat}
    (h : item :: items <+: all.drop k) : all[k]? = some item ∧ items <+: all.drop (k + 1) := by
  obtain ⟨rest, hrest⟩ := h
  constructor
  · rw [← List.head?_drop, ← hrest]
    rfl
  · refine ⟨rest, ?_⟩
    rw [← List.tail_drop, ← hrest]
    rfl

/-- The items of two pieces in a row. -/
theorem prefix_drop_append {α : Type} {first second all : List α} {k : Nat}
    (h : first ++ second <+: all.drop k) :
    first <+: all.drop k ∧ second <+: all.drop (k + first.length) := by
  obtain ⟨rest, hrest⟩ := h
  constructor
  · exact ⟨second ++ rest, by rw [← List.append_assoc, hrest]⟩
  · refine ⟨rest, ?_⟩
    rw [← List.drop_drop, ← hrest, List.append_assoc, List.drop_left]

variable (strict : Bool) (events : List Event) {all : List (CallTree ι)}

/-- A hole first is rendered as its mark first. -/
theorem render_hole (k : Nat) (item : CallTree ι) (parts : List (Part ι)) :
    render k (partsSymbols (.hole item :: parts)) =
      Placeholder.token k ++ render (k + 1) (partsSymbols parts) :=
  rfl

/-- A literal text first is rendered as it is. -/
theorem render_literal (k : Nat) (value : String) (parts : List (Part ι)) :
    render k (partsSymbols (.literal value :: parts)) =
      value.toList ++ render k (partsSymbols parts) := by
  rw [partsSymbols, List.flatMap_cons, partSymbols, render_append, render_chars, items_in_chars]
  rfl

/-- The items of a text that starts with a hole. -/
theorem items_in_parts_symbols_hole (item : CallTree ι) (parts : List (Part ι)) :
    itemsIn (partsSymbols (.hole item :: parts)) = item :: itemsIn (partsSymbols parts) :=
  rfl

/-- The items of a text that starts with a literal text. -/
theorem items_in_parts_symbols_literal (value : String) (parts : List (Part ι)) :
    itemsIn (partsSymbols (.literal value :: parts)) = itemsIn (partsSymbols parts) := by
  rw [partsSymbols, List.flatMap_cons, partSymbols, items_in_append, items_in_chars]
  rfl

/-- What follows a literal text neither completes a mark with it nor makes it longer. -/
theorem split_render_of_opens_with_hole {parts : List (Part ι)} (h : opensWithHole parts = true)
    (k : Nat) :
    (render k (partsSymbols parts)).head? ≠ some '~' ∧
      (Placeholder.split (render k (partsSymbols parts))).head = [] := by
  match parts, h with
  | [], _ =>
      show ([] : List Char).head? ≠ some '~' ∧ (Placeholder.split []).head = []
      rw [Placeholder.split]
      exact ⟨by simp, rfl⟩
  | .hole item :: parts, _ =>
      rw [render_hole, Placeholder.split_token]
      refine ⟨?_, rfl⟩
      intro hhead
      cases hhead

/-- The pieces of a text with marks are its parts. -/
theorem yields_splice_marks_render (hall : all.length ≤ 10 ^ integerDigitLimit)
    {parts : List (Part ι)} (h : areParts parts = true) {k : Nat}
    (hitems : itemsIn (partsSymbols parts) <+: all.drop k) :
    ∃ more,
      Yields (spliceMarks strict (Placeholder.split (render k (partsSymbols parts))).marks)
        ⟨.afterTaking all (List.range k), events⟩ more
        ⟨.afterTaking all (List.range (k + (itemsIn (partsSymbols parts)).length)), events⟩ ∧
      segment (Placeholder.split (render k (partsSymbols parts))).head ++ more =
        parts.map partTree := by
  induction parts generalizing k with
  | nil =>
      show ∃ more, Yields (spliceMarks strict (Placeholder.split []).marks) _ more _ ∧
        segment (Placeholder.split []).head ++ more = []
      rw [Placeholder.split]
      exact ⟨[], rfl, rfl⟩
  | cons part parts ih =>
      cases part with
      | hole item =>
          rw [areParts, Bool.and_eq_true] at h
          rw [items_in_parts_symbols_hole] at hitems
          obtain ⟨hitem, hrest⟩ := get_elem?_of_prefix_drop hitems
          obtain ⟨more, hmore, htrees⟩ := ih h.2 hrest
          have hlt : k < 10 ^ integerDigitLimit :=
            Nat.lt_of_lt_of_le (List.getElem?_eq_some_iff.mp hitem).1 hall
          -- The numbers below `k` have been taken, so that `k` is the next one.
          have hfree : k ∉ List.range k := List.not_mem_range_self
          have htake := yields_take_interpolation_of_free strict hfree hitem events
          rw [← List.range_succ] at htake
          rw [render_hole, Placeholder.split_token, items_in_parts_symbols_hole, List.length_cons,
            ← Nat.add_assoc, Nat.add_right_comm]
          refine ⟨item :: parts.map partTree, ?_, rfl⟩
          simp only [spliceMarks, yields_bind, yields_lift_except, yields_pure]
          exact ⟨k, _, ⟨Placeholder.index_to_digits hlt, rfl⟩, [item], _, htake, more, _, hmore,
            congrArg (List.cons item) htrees, rfl⟩
      | literal value =>
          simp only [areParts, isLiteral, Bool.and_eq_true, Bool.not_eq_true',
            decide_eq_false_iff_not] at h
          obtain ⟨⟨⟨⟨hne, _⟩, hmark⟩, hopens⟩, hparts⟩ := h
          obtain ⟨hhead, hempty⟩ := split_render_of_opens_with_hole hopens k
          rw [items_in_parts_symbols_literal] at hitems
          obtain ⟨more, hmore, htrees⟩ := ih hparts hitems
          rw [hempty] at htrees
          -- The literal becomes the head of the pieces, which is empty behind it.
          rw [render_literal, Placeholder.split_append hmark hhead, hempty, List.append_nil,
            items_in_parts_symbols_literal]
          refine ⟨more, hmore, ?_⟩
          rw [Compiler.segment, hne, List.map_cons, ← htrees, CallTree.text, String.ofList_toList]
          rfl

/-- A text with marks compiles to its parts. -/
theorem yields_splice_render (hall : all.length ≤ 10 ^ integerDigitLimit)
    {parts : List (Part ι)} (h : areParts parts = true) {k : Nat}
    (hitems : itemsIn (partsSymbols parts) <+: all.drop k) :
    Yields (splice strict (String.ofList (render k (partsSymbols parts))))
      ⟨.afterTaking all (List.range k), events⟩ (partTrees parts)
      ⟨.afterTaking all (List.range (k + (itemsIn (partsSymbols parts)).length)), events⟩ := by
  obtain ⟨more, hmore, htrees⟩ := yields_splice_marks_render strict events hall h hitems
  have hvalue : (String.ofList (render k (partsSymbols parts))).toList =
      render k (partsSymbols parts) := String.toList_ofList
  by_cases hmarks : (Placeholder.split (render k (partsSymbols parts))).marks = []
  · -- Without marks the text is one piece, and so there is at most one part.
    rw [hmarks] at hmore
    obtain ⟨rfl, hstate⟩ := yields_pure.mp hmore
    rw [Placeholder.head_split_of_marks_eq_nil hmarks, List.append_nil] at htrees
    rw [splice_of_marks_eq_nil strict (by rwa [hvalue]), yields_pure]
    refine ⟨?_, hstate⟩
    cases parts with
    | nil => rfl
    | cons part parts =>
        rw [Compiler.segment] at htrees
        split at htrees
        · cases htrees
        · exact htrees
  · have hne : parts.isEmpty = false := by
      cases parts with
      | nil =>
          have hnone : (Placeholder.split []).marks ≠ [] := hmarks
          rw [Placeholder.split] at hnone
          exact absurd rfl hnone
      | cons part parts => rfl
    rw [splice_of_marks_ne_nil strict (by rwa [hvalue]), hvalue, partTrees, hne, ← htrees,
      yields_bind]
    exact ⟨more, _, hmore, rfl⟩

/-! ## Attributes -/

/-- The items in the value of an attribute that has parts. -/
theorem items_in_setting_symbols_parts (parts : List (Part ι)) :
    itemsIn (settingSymbols (.parts parts)) = itemsIn (partsSymbols parts) := by
  rw [settingSymbols, items_in_append, items_in_char, items_in_escape]
  exact List.append_nil _

/-- The value of an attribute compiles to the value of its property. -/
theorem yields_attribute_value_scalar (hall : all.length ≤ 10 ^ integerDigitLimit)
    {setting : Setting ι} (h : isSetting setting = true) {k : Nat}
    (hitems : itemsIn (settingSymbols setting) <+: all.drop k) :
    Yields (attributeValue strict (scalar k setting)) ⟨.afterTaking all (List.range k), events⟩
      (settingTree setting)
      ⟨.afterTaking all (List.range (k + (itemsIn (settingSymbols setting)).length)),
        events⟩ := by
  cases setting with
  | integer value =>
      rw [settingSymbols, items_in_chars]
      rfl
  | boolean value =>
      rw [settingSymbols, items_in_chars]
      rfl
  | parts parts =>
      rw [items_in_setting_symbols_parts] at hitems ⊢
      have hsplice := yields_splice_render strict events hall h hitems
      show Yields (splice strict _ >>= _) _ _ _
      rw [yields_bind]
      refine ⟨_, _, hsplice, ?_⟩
      rcases parts with _ | ⟨part, _ | _⟩ <;> rfl

/-- The attributes of a tag compile to the properties that they set. -/
theorem yields_mapM_property (propertyNames : Entries String)
    (hall : all.length ≤ 10 ^ integerDigitLimit) {settings : List (String × Setting ι)}
    (h : settings.all isPair = true) {k : Nat} (hitems : settingItems settings <+: all.drop k) :
    Yields (((attributes k settings).map (Attribute.entry propertyNames)).mapM
        (Compiler.property strict))
      ⟨.afterTaking all (List.range k), events⟩ (settings.map (property propertyNames))
      ⟨.afterTaking all (List.range (k + (settingItems settings).length)), events⟩ := by
  induction settings generalizing k with
  | nil => exact yields_mapM_nil.mpr ⟨rfl, rfl⟩
  | cons pair settings ih =>
      rw [List.all_cons, Bool.and_eq_true, isPair, Bool.and_eq_true] at h
      rw [settingItems, List.flatMap_cons] at hitems ⊢
      obtain ⟨hfirst, hrest⟩ := prefix_drop_append hitems
      have hvalue := yields_attribute_value_scalar strict events hall h.1.2 hfirst
      have hmore := ih h.2 hrest
      rw [List.length_append, ← Nat.add_assoc, attributes, List.map_cons, List.map_cons,
        yields_mapM_cons]
      refine ⟨property propertyNames pair, _, _, ?_, hmore, rfl⟩
      rw [Compiler.property, yields_bind]
      exact ⟨_, _, hvalue, rfl⟩

/-- The names of the properties do not depend on the marks. -/
theorem map_property_name_attributes (propertyNames : Entries String) (k : Nat)
    (settings : List (String × Setting ι)) :
    ((attributes k settings).map fun a => Attribute.propertyName propertyNames a.name) =
      settings.map fun pair => Attribute.propertyName propertyNames pair.1 := by
  induction settings generalizing k with
  | nil => rfl
  | cons pair settings ih => exact congrArg (List.cons _) (ih _)

/-- The attributes of a tag compile to its properties. -/
theorem yields_properties_attributes {options : Options}
    (hall : all.length ≤ 10 ^ integerDigitLimit) {settings : List (String × Setting ι)}
    (h : settings.all isPair = true)
    (hdistinct : areDistinct options.propertyNames settings = true) {k : Nat}
    (hitems : settingItems settings <+: all.drop k) :
    Yields (Compiler.properties options (attributes k settings))
      ⟨.afterTaking all (List.range k), events⟩ (properties options.propertyNames settings)
      ⟨.afterTaking all (List.range (k + (settingItems settings).length)), events⟩ := by
  have hmerge : Attribute.merge options.propertyNames (attributes k settings) =
      (attributes k settings).map (Attribute.entry options.propertyNames) := by
    refine Attribute.merge_of_nodup ?_
    rw [map_property_name_attributes]
    exact of_decide_eq_true hdistinct
  have hprops := yields_mapM_property options.strict events options.propertyNames hall h hitems
  rw [← hmerge] at hprops
  cases settings with
  | nil =>
      rw [properties_of_merge_eq_nil hmerge]
      rfl
  | cons pair settings =>
      rw [properties_of_merge_ne_nil (by rw [hmerge]; exact List.cons_ne_nil _ _), yields_bind]
      exact ⟨_, _, hprops, rfl⟩

/-! ## Nodes -/

/-- The parts of a text are children as they stand. -/
theorem flatten_part_trees {parts : List (Part ι)} (h : areParts parts = true) :
    CallTree.flatten (partTrees parts) = partTrees parts := by
  have hparts : CallTree.flatten (parts.map partTree) = parts.map partTree := by
    induction parts with
    | nil => rfl
    | cons part parts ih =>
        cases part with
        | hole item =>
            rw [areParts, Bool.and_eq_true] at h
            have hitem : item.flattenItem = [item] := by
              cases item with
              | list items => exact absurd h.1 (by simp [isSingle])
              | _ => rfl
            rw [List.map_cons, CallTree.flatten, ih h.2, partTree, hitem]
            rfl
        | literal value =>
            simp only [areParts, Bool.and_eq_true] at h
            rw [List.map_cons, CallTree.flatten, ih h.2]
            rfl
  unfold partTrees
  split
  · rfl
  · exact hparts

/-- The children of a tag are those that its nodes stand for. -/
theorem flatten_meaning (factory : String) {propertyNames : Entries String}
    {nodes : List (Template ι)} (h : areWellFormed propertyNames nodes = true) :
    CallTree.flatten (nodes.map (meaning factory propertyNames)) =
      itemsOf factory propertyNames nodes := by
  induction nodes with
  | nil => rfl
  | cons node nodes ih =>
      rw [areWellFormed, Bool.and_eq_true] at h
      rw [List.map_cons, CallTree.flatten, ih h.2]
      cases node with
      | tag name settings children => rfl
      | text parts =>
          rw [meaning, CallTree.flattenItem, flatten_part_trees h.1]
          rfl

variable {options : Options} (lookup : Lookup)

mutual

/-- A well-formed node compiles to its meaning, given room for the levels below it. -/
theorem yields_compile_within_markup (hall : all.length ≤ 10 ^ integerDigitLimit)
    {node : Template ι} (h : isWellFormed options.propertyNames node = true) {room k : Nat}
    (hroom : height node ≤ room) (hitems : holes node <+: all.drop k) :
    Yields (compileWithin options lookup room (markup k node))
      ⟨.afterTaking all (List.range k), events⟩
      (meaning options.factory options.propertyNames node)
      ⟨.afterTaking all (List.range (k + (holes node).length)), events⟩ := by
  match node with
  | .tag name settings children =>
      simp only [isWellFormed, Bool.and_eq_true] at h
      obtain ⟨⟨⟨_, hpairs⟩, hdistinct⟩, hchildren⟩ := h
      obtain ⟨hfirst, hrest⟩ := prefix_drop_append hitems
      have hprops := yields_properties_attributes events hall hpairs hdistinct hfirst
      obtain ⟨descend, hstep, hinside⟩ : ∃ descend,
          compileWithin options lookup room = compileStep options lookup descend ∧
          Yields ((markupOf (k + (settingItems settings).length) children).mapM descend)
            ⟨.afterTaking all (List.range (k + (settingItems settings).length)), events⟩
            (children.map (meaning options.factory options.propertyNames))
            ⟨.afterTaking all (List.range (k + (holes (.tag name settings children)).length)),
              events⟩ := by
        rw [holes, List.length_append, ← Nat.add_assoc]
        cases room with
        | zero =>
            -- Without room there can be no children.
            cases children with
            | nil => exact ⟨_, rfl, yields_mapM_nil.mpr ⟨rfl, rfl⟩⟩
            | cons child children =>
                exact absurd (Nat.le_trans (Nat.le_max_left _ _) hroom) (Nat.not_succ_le_zero _)
        | succ room => exact ⟨_, rfl, yields_mapM_markup_of hall hchildren hroom hrest⟩
      rw [hstep, markup, compileStep]
      simp only [yields_bind]
      refine ⟨_, _, hprops, _, _, hinside, ?_⟩
      rw [flatten_meaning options.factory hchildren]
      rfl
  | .text parts =>
      have hsplice := yields_splice_render options.strict events hall h hitems
      have hstep : compileWithin options lookup room (markup k (.text parts)) =
          (do return .list (← splice options.strict
            (String.ofList (render k (partsSymbols parts)))) : Attempt (Workspace ι) _) := by
        cases room <;> rfl
      rw [hstep, yields_bind]
      exact ⟨_, _, hsplice, rfl⟩

/-- Well-formed nodes compile to their meanings one by one. -/
theorem yields_mapM_markup_of (hall : all.length ≤ 10 ^ integerDigitLimit)
    {nodes : List (Template ι)} (h : areWellFormed options.propertyNames nodes = true)
    {room k : Nat} (hroom : heightOf nodes ≤ room + 1) (hitems : holesOf nodes <+: all.drop k) :
    Yields ((markupOf k nodes).mapM (compileWithin options lookup room))
      ⟨.afterTaking all (List.range k), events⟩
      (nodes.map (meaning options.factory options.propertyNames))
      ⟨.afterTaking all (List.range (k + (holesOf nodes).length)), events⟩ := by
  match nodes with
  | [] => exact yields_mapM_nil.mpr ⟨rfl, rfl⟩
  | node :: nodes =>
      rw [areWellFormed, Bool.and_eq_true] at h
      rw [heightOf, Nat.max_le] at hroom
      rw [holesOf] at hitems ⊢
      obtain ⟨hfirst, hrest⟩ := prefix_drop_append hitems
      have hnode := yields_compile_within_markup hall h.1 (Nat.le_of_succ_le_succ hroom.1) hfirst
      have hmore := yields_mapM_markup_of hall h.2 hroom.2 hrest
      rw [List.length_append, ← Nat.add_assoc, markupOf, List.map_cons, yields_mapM_cons]
      exact ⟨_, _, _, hnode, hmore, rfl⟩

end

/-! ## Trees up to places -/

/-- The nodes with places left out are compiled one by one. -/
theorem mapM_unplaced_all {α σ : Type} {descend : Markup → Attempt σ α}
    (h : ∀ node, descend (Print.unplaced node) = descend node) (nodes : List Markup) :
    (Print.unplacedAll nodes).mapM descend = nodes.mapM descend := by
  induction nodes with
  | nil => rfl
  | cons node nodes ih => rw [Print.unplacedAll, List.mapM_cons, List.mapM_cons, h, ih]

/-- The places of the nodes do not matter to the compiler. -/
theorem compile_within_unplaced (room : Nat) (node : Markup) :
    (compileWithin options lookup room (Print.unplaced node) : Attempt (Workspace ι) _) =
      compileWithin options lookup room node := by
  have hstep {descend : Markup → Attempt (Workspace ι) (CallTree ι)}
      (h : ∀ node, descend (Print.unplaced node) = descend node) (node : Markup) :
      compileStep options lookup descend (Print.unplaced node) =
        compileStep options lookup descend node := by
    cases node with
    | block _ nodes => simp only [Print.unplaced, compileStep, mapM_unplaced_all h]
    | namedBlock _ name nodes => simp only [Print.unplaced, compileStep, mapM_unplaced_all h]
    | tag _ _ _ _ children => simp only [Print.unplaced, compileStep, mapM_unplaced_all h]
    | text _ _ => rfl
    | included _ _ _ => rfl
    | extended _ _ _ => rfl
    | foreign _ _ => rfl
  induction room generalizing node with
  | zero => exact hstep (fun _ => rfl) node
  | succ room ih => exact hstep ih node

/-! ## Interpolations in order -/

/-- The parts of a text hold the items of its holes. -/
theorem interpolations_of_map_part_tree (parts : List (Part ι)) :
    CallTree.interpolationsOf (parts.map partTree) =
      CallTree.interpolationsOf (itemsIn (partsSymbols parts)) := by
  induction parts with
  | nil => rfl
  | cons part parts ih =>
      cases part with
      | hole item =>
          rw [items_in_parts_symbols_hole, List.map_cons, CallTree.interpolationsOf, ih]
          rfl
      | literal value =>
          rw [items_in_parts_symbols_literal, List.map_cons, CallTree.interpolationsOf, ih]
          rfl

/-- The children that a text stands for hold the items of its holes. -/
theorem interpolations_of_part_trees (parts : List (Part ι)) :
    CallTree.interpolationsOf (partTrees parts) =
      CallTree.interpolationsOf (itemsIn (partsSymbols parts)) := by
  cases parts with
  | nil => rfl
  | cons part parts => exact interpolations_of_map_part_tree (part :: parts)

/-- The value of a property holds the items of the attribute. -/
theorem interpolations_setting_tree (setting : Setting ι) :
    (settingTree setting).interpolations =
      CallTree.interpolationsOf (itemsIn (settingSymbols setting)) := by
  cases setting with
  | integer value =>
      rw [settingSymbols, items_in_chars]
      rfl
  | boolean value =>
      rw [settingSymbols, items_in_chars]
      rfl
  | parts parts =>
      rw [items_in_setting_symbols_parts, ← interpolations_of_map_part_tree]
      rcases parts with _ | ⟨part, _ | _⟩
      · rfl
      · exact (CallTree.interpolations_of_singleton _).symm
      · rfl

/-- The properties of a tag hold the items of its attributes. -/
theorem interpolations_properties (propertyNames : Entries String)
    (settings : List (String × Setting ι)) :
    (properties propertyNames settings).interpolations =
      CallTree.interpolationsOf (settingItems settings) := by
  have hprops : CallTree.interpolationsOfProperties (settings.map (property propertyNames)) =
      CallTree.interpolationsOf (settingItems settings) := by
    induction settings with
    | nil => rfl
    | cons pair settings ih =>
        rw [settingItems, List.flatMap_cons, CallTree.interpolations_of_append,
          ← interpolations_setting_tree, List.map_cons]
        exact congrArg (_ ++ ·) ih
  cases settings with
  | nil => rfl
  | cons pair settings => exact hprops

mutual

/-- The children that a node stands for hold the items of its holes in order. -/
theorem interpolations_of_items (factory : String) (propertyNames : Entries String)
    (node : Template ι) :
    CallTree.interpolationsOf (items factory propertyNames node) =
      CallTree.interpolationsOf (holes node) := by
  match node with
  | .tag name settings children =>
      rw [items, CallTree.interpolations_of_singleton, CallTree.interpolations,
        CallTree.interpolationsOf, CallTree.interpolationsOf, interpolations_tag_tree,
        interpolations_properties, interpolations_of_items_of, holes,
        CallTree.interpolations_of_append]
      rfl
  | .text parts => exact interpolations_of_part_trees parts

/-- The children that several nodes stand for hold the items of their holes in order. -/
theorem interpolations_of_items_of (factory : String) (propertyNames : Entries String)
    (nodes : List (Template ι)) :
    CallTree.interpolationsOf (itemsOf factory propertyNames nodes) =
      CallTree.interpolationsOf (holesOf nodes) := by
  match nodes with
  | [] => rfl
  | node :: nodes =>
      rw [itemsOf, CallTree.interpolations_of_append, interpolations_of_items,
        interpolations_of_items_of, holesOf, CallTree.interpolations_of_append]

end

/-! ## Templates -/

/-- The tree of a template's source is its markup tree, except for places, and it has no other
root. -/
theorem parse_markup (env : Environment) (label : Option String) {name : String}
    {settings : List (String × Setting ι)} {children : List (Template ι)}
    (h : isWellFormed env.propertyNames (tag name settings children) = true) :
    ∃ position root,
      env.parse (Print.source 2 [markup 0 (tag name settings children)]) label =
        pure (.block position [root]) ∧
      Composition.ofNodes [root] = pure ⟨root, []⟩ ∧
      Print.unplaced root = Print.unplaced (markup 0 (tag name settings children)) := by
  obtain ⟨hprintable, hpaths⟩ := is_printable_markup h 0
  have hall : Print.arePrintable [markup 0 (tag name settings children)] = true := by
    rw [Print.arePrintable, hprintable]
    rfl
  have hnone : Print.pathsOf [markup 0 (tag name settings children)] = [] := by
    rw [Print.pathsOf, hpaths]
    rfl
  obtain ⟨parsed, hparse, hparsed⟩ :=
    Print.parse_source_of_paths_eq_nil env (by decide : 0 < 2) label hall hnone
  match parsed, hparsed with
  | [root], hparsed =>
      have hroot := (List.cons.inj hparsed).1
      refine ⟨⟨1, 0⟩, root, hparse, ?_, hroot⟩
      cases root with
      | extended _ _ _ => cases hroot
      | _ => rfl
  | _ :: _ :: _, hparsed => cases (List.cons.inj hparsed).2

/-- When all interpolations have been taken, none is reported as left. -/
theorem closing_after_taking_range (label : Option String) (all : List (CallTree ι)) :
    Environment.closing label (.afterTaking all (List.range all.length)) =
      [.compiled label all.length all.length] := by
  have hnone : (Cursor.afterTaking all (List.range all.length)).unconsumed = [] := by
    rw [Cursor.unconsumed_after_taking, List.filter_eq_nil_iff]
    simp
  have hcount : (Cursor.afterTaking all (List.range all.length)).consumed = all.length := by
    rw [Cursor.consumed_after_taking, List.countP_eq_length.mpr (by simp), List.length_range]
  rw [Environment.closing, hnone, hcount, Cursor.size_after_taking]
  rfl

/-- A tree that is the markup of a template except for places compiles to what the template stands
for, and takes all interpolations. -/
theorem yields_compile_of_unplaced (env : Environment) {t : Template ι}
    (h : isWellFormed env.propertyNames t = true) (hdepth : height t ≤ env.maxDepth)
    (hcount : t.interpolations.length ≤ 10 ^ integerDigitLimit) {root : Markup}
    (hroot : Print.unplaced root = Print.unplaced (markup 0 t)) :
    Yields (Compiler.compile env.options lookup root) ⟨.ofList t.interpolations, events⟩
      (meaning env.factory env.propertyNames t)
      ⟨.afterTaking t.interpolations (List.range t.interpolations.length), events⟩ := by
  have hitems : holes t <+: t.interpolations.drop 0 := by
    simp only [List.drop_zero, interpolations_eq, List.prefix_rfl]
  have hnode : Yields (compileWithin env.options lookup env.maxDepth (markup 0 t)) _ _ _ :=
    yields_compile_within_markup events lookup hcount h hdepth hitems
  rw [Nat.zero_add, ← interpolations_eq] at hnode
  rw [Compiler.compile, ← compile_within_unplaced, hroot, compile_within_unplaced,
    Cursor.of_list_eq_after_taking]
  exact hnode

/-- The template pipeline is correct from end to end: the fragments of a well-formed template with
a tag at its root, compiled with the items of its holes, succeed with what the template stands for,
in strict mode or not, given room for its levels and as long as the numbers of its holes can be
read. The result holds the interpolations in the order of the holes, each once, and nothing is
reported but the two stages. -/
theorem compile_fragments (env : Environment) (label : Option String) (name : String)
    (settings : List (String × Setting ι)) (children : List (Template ι))
    (h : isWellFormed env.propertyNames (tag name settings children) = true)
    (hdepth : height (tag name settings children) ≤ env.maxDepth)
    (hcount : (interpolations (tag name settings children)).length ≤ 10 ^ integerDigitLimit) :
    let t := tag name settings children
    let count := t.interpolations.length
    let result := meaning env.factory env.propertyNames t
    (env.compile t.fragments t.interpolations label).outcome =
        (.ok result, [.encoded label (count + 1) count, .compiled label count count]) ∧
      result.interpolations = CallTree.interpolationsOf t.interpolations := by
  intro t count result
  obtain ⟨position, root, hparse, hcompose, hroot⟩ := parse_markup env label h
  have hname : Print.isTagName name.toList = true := by
    simp only [isWellFormed, Bool.and_eq_true] at h
    exact h.1.1.1
  have hlength : t.fragments.length = count + 1 := by
    rw [fragments, List.length_map, length_cut]
    rfl
  have hcomposition : Yields (env.composition t.fragments count label) [] ⟨root, []⟩
      [.encoded label (count + 1) count] := by
    rw [Environment.composition, encode_fragments hname, pure_bind, yields_bind, hlength]
    refine ⟨(), _, rfl, ?_⟩
    rw [hparse, pure_bind]
    show Yields (Composition.ofNodes [root]) _ _ _
    rw [hcompose]
    rfl
  constructor
  · refine Environment.yields_compile.mpr ⟨_, _, _, hcomposition,
      yields_compile_of_unplaced _ _ env h hdepth hcount hroot, ?_⟩
    rw [closing_after_taking_range]
    rfl
  · rw [← CallTree.interpolations_of_singleton, interpolations_eq]
    exact interpolations_of_items env.factory env.propertyNames t

/-- A template with holes inside a quoted text, at the edge of a slash and next to each other. -/
theorem compile_fragments_nested :
    let t : Template Nat :=
      tag "div"
        [("title", .parts [.literal "say \"", .hole (.interpolation 7), .literal "\\\""]),
          ("class", .integer (-3)), ("data-on", .boolean true)]
        [text [.literal "a/", .hole (.interpolation 8), .hole (.interpolation 9), .literal "~/"],
          tag "Widget" [("key", .parts [])] [text []]]
    isWellFormed Environment.default.propertyNames t = true ∧
      height t ≤ Environment.default.maxDepth ∧
      t.interpolations.length ≤ 10 ^ integerDigitLimit ∧
      (Environment.default.compile t.fragments t.interpolations none).outcome =
        (.ok (meaning Environment.default.factory Environment.default.propertyNames t),
          [.encoded none 4 3, .compiled none 3 3]) :=
  have hformed := by decide +kernel
  have hheight := by decide +kernel
  have hcount := by decide +kernel
  ⟨hformed, hheight, hcount,
    (compile_fragments Environment.default none _ _ _ hformed hheight hcount).1⟩

end ElementMarkup.Template
