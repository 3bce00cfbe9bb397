import ElementMarkup.Proofs.Lowering
import ElementMarkup.Proofs.Opacity
import ElementMarkup.Proofs.Print.LineTokens
import ElementMarkup.Proofs.TagNames
import ElementMarkup.Proofs.TemplateName
import ElementMarkup.Proofs.Transform

/-!
# The names that a compiled template refers to

A compiled template refers to the element factory and to its components, the tags whose names start
with a capital letter. The factory is a dotted name since the environment says so. The name of a
component is the name of its tag, and this may hold characters that no identifier has: a hyphen, a
colon, or a word character such as a superscript digit.

`KeepsTag` gives the tags that are part of the result, and `Refers` says that a result refers to
those of them that are components. `all_has_identifier_iff` says when the names in an expression are
identifiers. Main statement: `from_string_references`. The expression for a template has identifiers
for all names exactly if the components of the template have.
-/

namespace ElementMarkup

open Attempt

variable {ι : Type}

namespace CallTree

/-! ## Occurrences -/

/-- A tree occurs in another one if it is the same or occurs in one of the trees right inside it. -/
theorem occurs_iff {inner tree : CallTree ι} :
    inner.Occurs tree ↔ inner = tree ∨ ∃ next ∈ tree.inside, inner.Occurs next := by
  constructor
  · rintro (_ | ⟨hnext, hinner⟩)
    · exact .inl rfl
    · exact .inr ⟨_, hnext, hinner⟩
  · rintro (rfl | ⟨next, hnext, hinner⟩)
    · exact .whole
    · exact .inside hnext hinner

/-- What holds of all that occurs in a tree holds of the tree and of all that occurs in the trees
right inside it. -/
theorem forall_occurs_iff {p : CallTree ι → Prop} {tree : CallTree ι} :
    (∀ inner, inner.Occurs tree → p inner) ↔
      p tree ∧ ∀ next ∈ tree.inside, ∀ inner, inner.Occurs next → p inner := by
  constructor
  · intro h
    exact ⟨h tree .whole, fun next hnext inner hinner => h inner (.inside hnext hinner)⟩
  · rintro ⟨hwhole, hinside⟩ inner (_ | ⟨hnext, hinner⟩)
    · exact hwhole
    · exact hinside _ hnext inner hinner

/-- The interpolations of a tree occur in it. -/
theorem occurs_of_mem_interpolations {tree : CallTree ι} {x : ι} (h : x ∈ tree.interpolations) :
    (interpolation x).Occurs tree := by
  induction tree using inside_induction with
  | h tree ih =>
      by_cases hvalue : ∃ value, tree = .interpolation value
      · obtain ⟨value, rfl⟩ := hvalue
        obtain rfl := List.mem_singleton.mp h
        exact .whole
      · rw [interpolations_eq fun value heq => hvalue ⟨value, heq⟩] at h
        obtain ⟨next, hnext, hx⟩ := List.mem_flatMap.mp h
        exact .inside hnext (ih next hnext hx)

variable {name : String}

/-- What a list refers to is what its items refer to. -/
theorem reference_occurs_list {items : List (CallTree ι)} :
    (reference name).Occurs (list items) ↔ ∃ item ∈ items, (reference name).Occurs item := by
  rw [occurs_iff]
  simp [inside]

mutual

/-- The children that an item stands for refer to what the item refers to. -/
theorem reference_occurs_flatten_item (item : CallTree ι) :
    (∃ child ∈ item.flattenItem, (reference name).Occurs child) ↔
      (reference name).Occurs item := by
  match item with
  | .list items =>
      rw [flattenItem, reference_occurs_flatten items, reference_occurs_list]
  | .call _ _ | .concat _ | .props _ | .reference _ | .literal _ | .null | .interpolation _ =>
      simp [flattenItem]

/-- The children that items stand for refer to what the items refer to. -/
theorem reference_occurs_flatten (items : List (CallTree ι)) :
    (∃ child ∈ flatten items, (reference name).Occurs child) ↔
      ∃ item ∈ items, (reference name).Occurs item := by
  match items with
  | [] => rfl
  | item :: items =>
      rw [flatten, List.exists_mem_cons_iff, ← reference_occurs_flatten_item item,
        ← reference_occurs_flatten items]
      simp only [List.mem_append, or_and_right, exists_or]

end

variable {v : Vocabulary ι}

/-- The value of a property refers to nothing. -/
theorem IsValue.not_occurs_reference {tree : CallTree ι} (h : tree.IsValue v) :
    ¬ (reference name).Occurs tree := by
  rw [occurs_iff]
  cases h with
  | literal => simp [CallTree.inside]
  | interpolation => simp [CallTree.inside]
  | concat _ hparts =>
      rintro (hwhole | ⟨part, hpart, hinner⟩)
      · cases hwhole
      · rw [occurs_iff] at hinner
        cases hparts part hpart <;> simp [CallTree.inside] at hinner

/-- The properties of an element refer to nothing. -/
theorem IsProperties.not_occurs_reference {tree : CallTree ι} (h : tree.IsProperties v) :
    ¬ (reference name).Occurs tree := by
  rw [occurs_iff]
  cases h with
  | none => simp [CallTree.inside]
  | some _ _ hproperties =>
      rintro (hwhole | ⟨next, hnext, hinner⟩)
      · cases hwhole
      · obtain ⟨property, hproperty, rfl⟩ := List.mem_map.mp hnext
        exact (hproperties property hproperty).2.not_occurs_reference hinner

end CallTree

/-! ## Tags that are kept -/

namespace Compiler

open CallTree (Vocabulary)

/-- The nodes right below a node that are part of its result. Of a template that is extended this is
the first one. -/
def contributing (lookup : Lookup) : Markup → List Markup
  | .extended _ _ (.block _ nodes) => nodes.take 1
  | .extended _ _ _ => []
  | node => below lookup node

/-- A tag with the given name is part of the result of a node. -/
inductive KeepsTag (lookup : Lookup) (name : String) : Markup → Prop where
  | here {position : Position} {attributes : List Attribute} {blockPosition : Option Position}
      {children : List Markup} :
      KeepsTag lookup name (.tag position name attributes blockPosition children)
  | deeper {node next : Markup} :
      next ∈ contributing lookup node → KeepsTag lookup name next → KeepsTag lookup name node

/-- A tag that is part of the result of a node and whose name starts with a capital letter. -/
def IsComponent (lookup : Lookup) (node : Markup) (name : String) : Prop :=
  name.toList.head?.any Text.isCapital = true ∧ KeepsTag lookup name node

/-- A result refers to the components of its node. -/
def Refers (lookup : Lookup) (node : Markup) (result : CallTree ι) : Prop :=
  ∀ name, (CallTree.reference name).Occurs result ↔ IsComponent lookup node name

variable {lookup : Lookup} {v : Vocabulary ι}

/-- A node that is no tag has the components of the nodes right below it. -/
theorem is_component_iff {node : Markup} {nodes : List Markup}
    (htag : ∀ position name attributes blockPosition children,
      node ≠ .tag position name attributes blockPosition children)
    (hnodes : contributing lookup node = nodes) {name : String} :
    IsComponent lookup node name ↔ ∃ next ∈ nodes, IsComponent lookup next name := by
  constructor
  · rintro ⟨hcapital, hkeeps⟩
    cases hkeeps with
    | here => exact absurd rfl (htag _ _ _ _ _)
    | deeper hnext hkeeps => exact ⟨_, hnodes ▸ hnext, hcapital, hkeeps⟩
  · rintro ⟨next, hnext, hcapital, hkeeps⟩
    exact ⟨hcapital, .deeper (hnodes.symm ▸ hnext) hkeeps⟩

/-- Results refer to the components of their nodes. -/
theorem exists_occurs_iff {nodes : List Markup} {items : List (CallTree ι)}
    (h : List.Forall₂ (Refers lookup) nodes items) {name : String} :
    (∃ item ∈ items, (CallTree.reference name).Occurs item) ↔
      ∃ node ∈ nodes, IsComponent lookup node name := by
  induction h with
  | nil => simp
  | cons hitem _ ih => rw [List.exists_mem_cons_iff, List.exists_mem_cons_iff, hitem name, ih]

/-- The result refers to the components of the node, and if the node is a block, the items refer to
those of its nodes. -/
def RefersDeep (lookup : Lookup) (node : Markup) (result : CallTree ι) : Prop :=
  Refers lookup node result ∧
  ∀ position nodes, node = .block position nodes →
    ∃ items, result = .list items ∧ List.Forall₂ (Refers lookup) nodes items

/-- A list refers to the components of a node if its items do so for the nodes below it. -/
theorem refers_list {node : Markup} {nodes : List Markup} {items : List (CallTree ι)}
    (htag : ∀ position name attributes blockPosition children,
      node ≠ .tag position name attributes blockPosition children)
    (hnodes : contributing lookup node = nodes) (h : List.Forall₂ (Refers lookup) nodes items) :
    Refers lookup node (.list items) := by
  intro name
  rw [CallTree.reference_occurs_list, exists_occurs_iff h, is_component_iff htag hnodes]

/-- What is kept of an extended template refers to the components of its first node. -/
theorem refers_first_result {position : Position} {path : Option String} {tree : Markup}
    {result : CallTree ι} (hblock : tree.isBlock = true) (h : RefersDeep lookup tree result) :
    Refers lookup (.extended position path tree) (firstResult result) := by
  cases tree with
  | block start nodes =>
      obtain ⟨items, rfl, hitems⟩ := h.2 _ _ rfl
      cases hitems with
      | nil => exact refers_list (by simp) rfl .nil
      | @cons first _ more _ hitem _ =>
          intro name
          have hfirst : contributing lookup
              (.extended position path (.block start (first :: more))) = [first] := rfl
          rw [is_component_iff (by simp) hfirst]
          simpa [firstResult] using hitem name
  | _ => cases hblock

/-- An element refers to its tag, if this is a component, and to what its children refer to. -/
theorem refers_element {position : Position} {name : String} {attributes : List Attribute}
    {blockPosition : Option Position} {children : List Markup} {factory : String}
    {properties : CallTree ι} {items : List (CallTree ι)}
    (hproperties : properties.IsProperties v)
    (hitems : List.Forall₂ (Refers lookup) children items) :
    Refers lookup (.tag position name attributes blockPosition children)
      (.call factory (tagTree name :: properties :: CallTree.flatten items)) := by
  intro other
  have htag : (CallTree.reference other).Occurs (tagTree name : CallTree ι) ↔
      name.toList.head?.any Text.isCapital = true ∧ other = name := by
    have hform := is_tag_of_tag_tree (ι := ι) name
    unfold CallTree.IsTagOf at hform
    split at hform
    · rename_i hcapital
      rw [hform, CallTree.occurs_iff]
      simp [CallTree.inside, hcapital]
    · rename_i hcapital
      rw [hform, CallTree.occurs_iff]
      simp [CallTree.inside, hcapital]
  have hchildren : (∃ child ∈ CallTree.flatten items, (CallTree.reference other).Occurs child) ↔
      ∃ node ∈ children, IsComponent lookup node other := by
    rw [CallTree.reference_occurs_flatten, exists_occurs_iff hitems]
  have hcall : (CallTree.reference other).Occurs
      (.call factory (tagTree name :: properties :: CallTree.flatten items)) ↔
      (name.toList.head?.any Text.isCapital = true ∧ other = name) ∨
        ∃ node ∈ children, IsComponent lookup node other := by
    -- The properties refer to nothing, so that only the tag and the children are left.
    rw [CallTree.occurs_iff, ← htag, ← hchildren]
    simp [CallTree.inside, hproperties.not_occurs_reference]
  rw [hcall]
  constructor
  · rintro (⟨hcapital, rfl⟩ | ⟨node, hnode, hcapital, hkeeps⟩)
    · exact ⟨hcapital, .here⟩
    · exact ⟨hcapital, .deeper hnode hkeeps⟩
  · rintro ⟨hcapital, hkeeps⟩
    cases hkeeps with
    | here => exact .inl ⟨hcapital, rfl⟩
    | deeper hnode hkeeps => exact .inr ⟨_, hnode, hcapital, hkeeps⟩

/-- A node becomes something that refers to its components if the nodes below it do. -/
theorem maintains_refers_compile_step {options : Options}
    (hlookup : AllOverrides Markup.extendsBlock lookup)
    {descend : Markup → Attempt (Workspace ι) (CallTree ι)}
    (hdescend : ∀ node, node.all Markup.extendsBlock = true →
      Maintains (Workspace.Holds v) (descend node) (RefersDeep lookup node))
    {node : Markup} (hnode : node.all Markup.extendsBlock = true) :
    Maintains (Workspace.Holds v) (compileStep options lookup descend node)
      (RefersDeep lookup node) := by
  have hbelow {nodes : List Markup} (hnodes : below lookup node = nodes) :
      Maintains (Workspace.Holds v) (nodes.mapM descend)
        (List.Forall₂ (Refers lookup) nodes) := by
    refine maintains_mapM fun inner hinner w item u hw h => ?_
    obtain ⟨hitem, hu⟩ := hdescend inner
      (all_of_mem_below hlookup hnode (hnodes ▸ hinner)) w item u hw h
    exact ⟨hitem.1, hu⟩
  cases node with
  | block position nodes =>
      refine maintains_bind (hbelow rfl) fun items hitems =>
        maintains_pure ⟨refers_list (by simp) rfl hitems, ?_⟩
      rintro _ _ ⟨⟩
      exact ⟨items, rfl, hitems⟩
  | namedBlock position name nodes =>
      have hlist {inner : List Markup} (hinner : (lookup name).getD nodes = inner) :
          Maintains (Workspace.Holds v)
            (do return .list (← inner.mapM descend) : Attempt (Workspace ι) (CallTree ι))
            (RefersDeep lookup (.namedBlock position name nodes)) := by
        refine maintains_bind (hbelow hinner) fun items hitems =>
          maintains_pure ⟨refers_list (by simp) hinner hitems, ?_⟩
        rintro _ _ ⟨⟩
      rw [compileStep]
      split
      · rename_i override hoverride
        exact maintains_bind (maintains_note _) fun _ _ => hlist (by rw [hoverride]; rfl)
      · rename_i hnone
        exact hlist (by rw [hnone]; rfl)
  | text position value =>
      refine maintains_bind (maintains_splice _ value) fun parts hparts =>
        maintains_pure ⟨fun name => ?_, ?_⟩
      · -- The parts of a text are texts and interpolations, which refer to nothing.
        have hnone : contributing lookup (.text position value) = [] := rfl
        rw [CallTree.reference_occurs_list, is_component_iff (by simp) hnone]
        refine iff_of_false ?_ (by simp)
        rintro ⟨part, hpart, hoccurs⟩
        have hvalue : part.IsValue v := by
          rcases hparts with rfl | hpieces
          · obtain rfl := List.mem_singleton.mp hpart
            exact .literal _
          · exact (hpieces part hpart).is_value
        exact hvalue.not_occurs_reference hoccurs
      · rintro _ _ ⟨⟩
  | tag position name attributes blockPosition children =>
      refine maintains_bind (maintains_properties options attributes) fun _ hproperties => ?_
      refine maintains_bind (hbelow rfl) fun _ hitems =>
        maintains_pure ⟨refers_element hproperties hitems, ?_⟩
      rintro _ _ ⟨⟩
  | included position path tree =>
      intro w result u hw h
      have htree := all_of_mem_below hlookup hnode (List.mem_singleton_self tree)
      obtain ⟨⟨hrefers, -⟩, hu⟩ := hdescend tree htree w result u hw h
      have hone : contributing lookup (.included position path tree) = [tree] := rfl
      refine ⟨⟨fun name => ?_, ?_⟩, hu⟩
      · rw [hrefers name, is_component_iff (by simp) hone]
        simp
      · rintro _ _ ⟨⟩
  | extended position path tree =>
      have htree := all_of_mem_below hlookup hnode (List.mem_singleton_self tree)
      have hblock := (Markup.all_iff.mp hnode).1
      refine maintains_bind (hdescend tree htree) fun result hresult =>
        maintains_pure ⟨refers_first_result hblock hresult, ?_⟩
      rintro _ _ ⟨⟩
  | foreign position kind => exact maintains_throw _

/-- A node becomes something that refers to its components, however deep nodes nest. -/
theorem maintains_refers_compile_within {options : Options}
    (hlookup : AllOverrides Markup.extendsBlock lookup) (room : Nat) {node : Markup}
    (hnode : node.all Markup.extendsBlock = true) :
    Maintains (Workspace.Holds v) (compileWithin options lookup room node)
      (RefersDeep lookup node) := by
  induction room generalizing node with
  | zero => exact maintains_refers_compile_step hlookup (fun _ _ => maintains_throw _) hnode
  | succ room ih => exact maintains_refers_compile_step hlookup (fun _ => ih) hnode

/-- A tree becomes something that refers to its components. -/
theorem refers_of_yields_compile {options : Options} {tree : Markup} {xs : List ι}
    (hlookup : AllOverrides Markup.extendsBlock lookup)
    (htree : tree.all Markup.extendsBlock = true) {events : List Event} {result : CallTree ι}
    {w : Workspace ι}
    (h : Yields (compile options lookup tree) ⟨.ofList (xs.map .interpolation), events⟩ result w) :
    Refers lookup tree result := by
  have hstart : Workspace.Holds (vocabulary options lookup tree xs) _ := holds_of_list xs events
  exact (maintains_refers_compile_within hlookup _ htree _ result w hstart h).1.1

/-- The name of a tag that is part of the result is one that a tag can have. -/
theorem KeepsTag.is_tag_name {name : String} {node : Markup} (h : KeepsTag lookup name node)
    (hlookup : AllOverrides Markup.hasTagName lookup)
    (hnode : node.all Markup.hasTagName = true) : Print.isTagName name.toList = true := by
  induction h with
  | here => exact (Markup.all_iff.mp hnode).1
  | @deeper node next hnext _ ih =>
      refine ih ?_
      unfold contributing at hnext
      split at hnext
      · rename_i position path start nodes
        have hblock := (Markup.all_iff.mp hnode).2 _ (List.mem_singleton_self _)
        exact (Markup.all_iff.mp hblock).2 next (List.mem_of_mem_take hnext)
      · cases hnext
      · exact all_of_mem_below hlookup hnode hnext

end Compiler

/-! ## Identifiers -/

namespace Text

/-- The letters of ASCII may stand anywhere in an identifier. -/
theorem in_ranges_identifier_ranges_of_letter :
    ∀ n ∈ List.range' 65 26 ++ List.range' 97 26,
      inRanges identifierStartRanges n = true ∧ inRanges identifierRestRanges n = true := by
  decide +kernel

/-- What may start the name of a tag may stand anywhere in an identifier. -/
theorem is_identifier_of_is_name_start {c : Char} (h : Line.isNameStart c = true) :
    isIdentifierStart c = true ∧ isIdentifierRest c = true := by
  rcases Bool.or_eq_true_iff.mp h with halpha | hunderscore
  · exact in_ranges_identifier_ranges_of_letter c.toNat (to_nat_mem_of_is_alpha halpha)
  · rw [eq_of_beq hunderscore]
    decide +kernel

end Text

/-- The name of a tag is a dotted name exactly if all its characters may stand in an identifier. -/
theorem is_dotted_name_iff {name : String} (h : Print.isTagName name.toList = true) :
    isDottedName name = true ↔ ∀ c ∈ name.toList, Text.isIdentifierRest c = true := by
  have hdot : '.' ∉ name.toList := fun hmem =>
    absurd (Print.is_tag_char_of_mem h hmem) (by decide +kernel)
  rw [isDottedName, Text.split_on_of_not_mem hdot, List.all_cons, List.all_nil, Bool.and_true]
  cases hcs : name.toList with
  | nil =>
      rw [hcs] at h
      cases h
  | cons c cs =>
      rw [hcs, Print.isTagName, Bool.and_eq_true, Bool.and_eq_true] at h
      obtain ⟨hstart, hrest⟩ := Text.is_identifier_of_is_name_start h.1.1
      rw [Text.isIdentifier, hstart, Bool.true_and, List.all_eq_true, List.forall_mem_cons]
      exact (and_iff_right hrest).symm

/-! ## Names in expressions -/

namespace Host

/-- The expression has an identifier for a name, if it is a name or a member. -/
def Expr.hasIdentifier : Expr → Bool
  | name id => Text.isIdentifier id.toList
  | member _ attr => Text.isIdentifier attr.toList
  | _ => true

/-- A member of a member has identifiers if all parts do. -/
theorem all_has_identifier_foldl_member (e : Expr) (members : List (List Char)) :
    (members.foldl (fun e member => Expr.member e (String.ofList member)) e).all
        Expr.hasIdentifier = true ↔
      e.all Expr.hasIdentifier = true ∧ ∀ member ∈ members, Text.isIdentifier member = true := by
  induction members generalizing e with
  | nil => simp
  | cons member members ih =>
      rw [List.foldl_cons, ih, Expr.all_iff, List.forall_mem_cons]
      simp only [Expr.hasIdentifier, Expr.inside, String.toList_ofList, List.forall_mem_singleton]
      tauto

/-- The expression for a dotted name has identifiers exactly if the name consists of them. -/
theorem all_has_identifier_dotted_name (name : String) :
    (dottedName name).all Expr.hasIdentifier = true ↔ isDottedName name = true := by
  unfold dottedName isDottedName
  split
  · rename_i hnil
    exact absurd hnil (by rw [Text.split_on_eq]; exact List.splitOn_ne_nil _ _)
  · rename_i first members hparts
    rw [all_has_identifier_foldl_member, hparts, List.all_cons, Bool.and_eq_true, List.all_eq_true]
    simp [Expr.all, Expr.hasIdentifier]

/-- What a tree itself gives a name to is a dotted name: the function that it calls and what it
refers to. An interpolation has identifiers for names. -/
def hasDottedName : CallTree Value → Bool
  | .call callee _ => isDottedName callee
  | .reference name => isDottedName name
  | .interpolation (.expression e) => e.all Expr.hasIdentifier
  | _ => true

/-- What holds of all items of a list holds of all items of another one if each item has a partner
for which this is so. -/
theorem forall_mem_iff_of_forall₂ {α β : Type} {p : α → Prop} {q : β → Prop} {as : List α}
    {bs : List β} (h : List.Forall₂ (fun a b => q b ↔ p a) as bs) :
    (∀ b ∈ bs, q b) ↔ ∀ a ∈ as, p a := by
  induction h with
  | nil => simp
  | cons hfirst _ ih => rw [List.forall_mem_cons, List.forall_mem_cons, hfirst, ih]

/-- All names in a tree are dotted. -/
def HasDottedNames (tree : CallTree Value) : Prop :=
  ∀ inner, inner.Occurs tree → hasDottedName inner = true

/-- A part of a format string has identifiers for names exactly if this is so for the expression in
it. -/
theorem all_has_identifier_of_lowers_part {part : CallTree Value} {e : Expr}
    (ih : ∀ e, lower part = .ok e → (e.all Expr.hasIdentifier = true ↔ HasDottedNames part))
    (h : LowersPart part e) : e.all Expr.hasIdentifier = true ↔ HasDottedNames part := by
  cases h with
  | text value =>
      refine iff_of_true rfl (CallTree.forall_occurs_iff.mpr ⟨rfl, List.forall_mem_nil _⟩)
  | field _ he =>
      rw [← ih _ he, Expr.all_iff]
      simp [Expr.hasIdentifier, Expr.inside]

/-- The expression for a tree has identifiers for names exactly if all names in the tree are
dotted. -/
theorem all_has_identifier_iff {tree : CallTree Value} {e : Expr} (h : lower tree = .ok e) :
    e.all Expr.hasIdentifier = true ↔ HasDottedNames tree := by
  induction tree using CallTree.inside_induction generalizing e with
  | h tree ih =>
      -- The hypothesis of the induction, for all trees right inside the tree at once.
      have hall {trees : List (CallTree Value)} (htrees : tree.inside = trees) {es : List Expr}
          (hes : AllLowered trees es) :
          (∀ e ∈ es, e.all Expr.hasIdentifier = true) ↔ ∀ next ∈ trees, HasDottedNames next :=
        forall_mem_iff_of_forall₂
          (forall₂_imp_of_mem hes fun next hnext _ => ih next (htrees ▸ hnext))
      rw [HasDottedNames, CallTree.forall_occurs_iff]
      cases lower_eq_ok_iff.mp h with
      | @call callee _ _ hes =>
          have hcallee := all_has_identifier_dotted_name callee
          rw [Expr.all_iff]
          simp only [Expr.hasIdentifier, Expr.inside, List.append_nil, List.forall_mem_cons,
            hcallee, hall rfl hes, true_and]
          rfl
      | reference name =>
          rw [all_has_identifier_dotted_name]
          simp [hasDottedName, CallTree.inside]
      | literal | null => exact iff_of_true rfl ⟨rfl, List.forall_mem_nil _⟩
      | concat hes =>
          have hparts := forall_mem_iff_of_forall₂ (forall₂_imp_of_mem hes
            fun part hpart _ => all_has_identifier_of_lowers_part fun _ => ih part hpart)
          rw [Expr.all_iff]
          exact and_congr_right fun _ => hparts
      | @props properties _ hes =>
          have hkeys : ∀ key ∈ properties.map fun p => Expr.text p.key,
              key.all Expr.hasIdentifier = true := by
            intro key hkey
            obtain ⟨property, -, rfl⟩ := List.mem_map.mp hkey
            rfl
          rw [Expr.all_iff]
          refine and_congr_right fun _ => ?_
          rw [Expr.inside, List.forall_mem_append, and_iff_right hkeys]
          exact hall rfl hes
      | list hes =>
          rw [Expr.all_iff]
          exact and_congr_right fun _ => hall rfl hes
      | @interpolation value _ he =>
          unfold lowerValue at he
          split at he <;> cases he <;> simp [hasDottedName, CallTree.inside, Expr.all,
            Expr.hasIdentifier]

end Host

namespace Environment

open Host (lower)

variable {env : Environment} {source : String} {name : Option String} {before after : List Event}

/-- No interpolation occurs in a template from a text. -/
theorem not_occurs_interpolation {result : CallTree ι}
    (h : Yields (env.fromString source name) before result after) (x : ι) :
    ¬ (CallTree.interpolation x).Occurs result := by
  intro hoccurs
  have hvalues : ∀ x ∈ ([] : List ι), False := List.forall_mem_nil _
  exact (proper_of_yields_compile hvalues h).of_occurs hoccurs

/-- There is an expression for every template from a text. -/
theorem exists_lower_of_yields_from_string {result : CallTree Host.Value}
    (h : Yields (env.fromString source name) before result after) :
    ∃ e, lower result = .ok e := by
  refine (Host.exists_lower_iff result).mpr fun value hvalue => ?_
  exact absurd (CallTree.occurs_of_mem_interpolations hvalue) (not_occurs_interpolation h value)

/-- A template from a text calls nothing but the element factory, which has a dotted name. -/
theorem is_dotted_name_of_occurs_call {result : CallTree ι}
    (h : Yields (env.fromString source name) before result after) {callee : String}
    {arguments : List (CallTree ι)} (hcall : (CallTree.call callee arguments).Occurs result) :
    isDottedName callee = true := by
  obtain ⟨composition, composed, w, -, hcompile, -⟩ := yields_compile.mp h
  have houtcome : result.Outcome
      (Compiler.vocabulary env.options composition.lookup composition.root []) :=
    Compiler.outcome_of_yields_compile hcompile
  generalize hv : Compiler.vocabulary env.options composition.lookup composition.root [] = v
    at houtcome
  cases houtcome.is_child_of_occurs hcall with
  | element =>
      subst hv
      exact env.factory_dotted

/-- The names in a template from a text are dotted exactly if those are that it refers to. -/
theorem has_dotted_names_iff_of_yields_from_string {result : CallTree Host.Value}
    (h : Yields (env.fromString source name) before result after) :
    Host.HasDottedNames result ↔
      ∀ other, (CallTree.reference other).Occurs result → isDottedName other = true := by
  constructor
  · intro hnames other hother
    exact hnames _ hother
  · intro hreferences inner hinner
    cases inner with
    | call callee arguments => exact is_dotted_name_of_occurs_call h hinner
    | reference other => exact hreferences other hinner
    | interpolation value => exact absurd hinner (not_occurs_interpolation h value)
    | _ => rfl

/-- The names in a template from a text. The template calls nothing but a dotted name, the element
factory, and it refers to its components, the tags with a capital letter that are part of the
result. The name of a component is a dotted name exactly if all its characters may stand in an
identifier. There is always an expression for the template, and this has identifiers for all names
exactly if all components have such a name. -/
theorem from_string_references (env : Environment) (source : String) (name : Option String)
    (events : List Event) (result : CallTree Host.Value) (after : List Event)
    (h : (env.fromString source name).run.run events = (.ok result, after)) :
    ∃ composition composed e,
      (env.composition [source] 0 name).run.run events = (.ok composition, composed) ∧
      lower result = .ok e ∧
      (∀ callee arguments, (CallTree.call callee arguments).Occurs result →
        isDottedName callee = true) ∧
      (∀ other, (CallTree.reference other).Occurs result ↔
        Compiler.IsComponent composition.lookup composition.root other) ∧
      (∀ other, (CallTree.reference other).Occurs result →
        (isDottedName other = true ↔ ∀ c ∈ other.toList, Text.isIdentifierRest c = true)) ∧
      (e.all Host.Expr.hasIdentifier = true ↔
        ∀ other, Compiler.IsComponent composition.lookup composition.root other →
          ∀ c ∈ other.toList, Text.isIdentifierRest c = true) := by
  have hcompile : Yields (env.compile [source] (([] : List Host.Value).map .interpolation) name)
      events result after := h
  obtain ⟨composition, composed, w, hcomposition, hresult, -⟩ := yields_compile.mp hcompile
  have hblocks := all_extends_block_of_yields_composition hcomposition
  have htags := all_has_tag_name_of_yields_composition hcomposition
  have hrefers : Compiler.Refers composition.lookup composition.root result :=
    Compiler.refers_of_yields_compile hblocks.all_overrides hblocks.root hresult
  have hdotted : ∀ other, (CallTree.reference other).Occurs result →
      (isDottedName other = true ↔ ∀ c ∈ other.toList, Text.isIdentifierRest c = true) := by
    intro other hother
    -- A reference is the name of a tag, and these come from a scanner.
    obtain ⟨-, hkeeps⟩ := (hrefers other).mp hother
    exact is_dotted_name_iff (hkeeps.is_tag_name htags.all_overrides htags.root)
  obtain ⟨e, he⟩ := exists_lower_of_yields_from_string h
  refine ⟨composition, composed, e, hcomposition, he,
    fun _ _ => is_dotted_name_of_occurs_call h, hrefers, hdotted, ?_⟩
  rw [Host.all_has_identifier_iff he, has_dotted_names_iff_of_yields_from_string h]
  constructor
  · intro hnames other hother
    have hoccurs := (hrefers other).mpr hother
    exact (hdotted other hoccurs).mp (hnames other hoccurs)
  · intro hchars other hoccurs
    exact (hdotted other hoccurs).mpr (hchars other ((hrefers other).mp hoccurs))

/-- A component of an extended template, in which a block with a hyphen in the name of its component
is overridden. All components that are part of the result have identifiers for names. -/
theorem from_string_references_extended :
    let env : Environment := { default with
      loader := some (.table [("p.pug", "Page\n  block a\n    Old-Card\n  | x")]) }
    let source := "extends p.pug\nblock a\n  Card_1(a=1)"
    ∃ (result : CallTree Host.Value) (after : List Event) (composition : Composition)
        (composed : List Event),
      (env.fromString source none).run.run [] = (.ok result, after) ∧
      (env.composition [source] 0 none).run.run [] = (.ok composition, composed) ∧
      Compiler.IsComponent composition.lookup composition.root "Page" ∧
      ∀ other, Compiler.IsComponent composition.lookup composition.root other →
        ∀ c ∈ other.toList, Text.isIdentifierRest c = true := by
  intro env source
  let result : CallTree Host.Value := .call "React.createElement" [.reference "Page", .null,
    .call "React.createElement" [.reference "Card_1",
      .props [⟨"a", .literal (.integer 1), false⟩]], .literal (.text "x")]
  -- There is no interpolation in the result, so that it can be compared without looking at one.
  have hresult : ((env.fromString source none).run.run []).1 = .ok result := by
    classical decide +kernel
  have hoccurs : (CallTree.reference "Page").Occurs result := .inside List.mem_cons_self .whole
  obtain ⟨composition, composed, e, hcomposition, he, -, hrefers, -, hall⟩ :=
    from_string_references env source none [] result _ (eq_mk_of_fst_eq hresult)
  have hidentifiers : (lower result).toOption.any (·.all Host.Expr.hasIdentifier) = true := by
    decide +kernel
  rw [he] at hidentifiers
  exact ⟨result, _, composition, composed, eq_mk_of_fst_eq hresult, hcomposition,
    (hrefers _).mp hoccurs, hall.mp hidentifiers⟩

/-- A component with a hyphen in its name. The template refers to a name that is not dotted, and the
expression for the template has a name that is no identifier. -/
theorem from_string_hyphen :
    ∃ (result : CallTree Host.Value) (after : List Event) (e : Host.Expr),
      (default.fromString "Foo-Bar" none).run.run [] = (.ok result, after) ∧
      (CallTree.reference "Foo-Bar").Occurs result ∧ isDottedName "Foo-Bar" = false ∧
      lower result = .ok e ∧ e.all Host.Expr.hasIdentifier = false := by
  have hresult : ((default.fromString "Foo-Bar" none).run.run [] :
      Except Fault (CallTree Host.Value) × List Event).1 =
      .ok (.call "React.createElement" [.reference "Foo-Bar", .null]) := by classical decide +kernel
  have hrun : (default.fromString "Foo-Bar" none).run.run [] = _ := eq_mk_of_fst_eq hresult
  have hoccurs : (CallTree.reference "Foo-Bar").Occurs
      (.call "React.createElement" [.reference "Foo-Bar", .null] : CallTree Host.Value) :=
    .inside List.mem_cons_self .whole
  have hdotted : isDottedName "Foo-Bar" = false := by decide +kernel
  obtain ⟨e, he⟩ := exists_lower_of_yields_from_string hrun
  refine ⟨_, _, e, hrun, hoccurs, hdotted, he, Bool.eq_false_iff.mpr fun hall => ?_⟩
  have hname : isDottedName "Foo-Bar" = true := (Host.all_has_identifier_iff he).mp hall _ hoccurs
  rw [hdotted] at hname
  cases hname

end Environment

end ElementMarkup
