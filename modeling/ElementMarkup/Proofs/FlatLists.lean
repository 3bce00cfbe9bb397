import ElementMarkup.Proofs.Elements
import ElementMarkup.Proofs.Standalone

/-!
# Lists inside lists

The children of an element are flattened, so that no list is left inside a call. What the root of a
template becomes is not flattened: a region and an included template at the root become a list with
one item for each node, and of these items only those of elements are no lists. So lists nest in the
result exactly if one of the nodes that the root puts in its place stands for no element, as a text,
a region and an included template do not (`compile_lists`).
-/

namespace ElementMarkup

open Attempt

variable {ι : Type}

namespace CallTree

/-- The items of a list. Nothing else has items. -/
def items : CallTree ι → List (CallTree ι)
  | list items => items
  | _ => []

/-- No list that occurs in the tree has a list among its items. -/
def FlatLists (tree : CallTree ι) : Prop :=
  ∀ items, (CallTree.list items).Occurs tree → ∀ item ∈ items, item.isList = false

variable {v : Vocabulary ι}

/-- No list occurs in a child. -/
theorem IsChild.not_occurs_list {tree : CallTree ι} (h : tree.IsChild v)
    (items : List (CallTree ι)) : ¬ (CallTree.list items).Occurs tree := by
  intro hoccurs
  have hwithin : (CallTree.list items).WithinChild v :=
    hoccurs.of_inside (fun _ htree => htree.inside) (.child h)
  cases hwithin.is_list_eq_false

/-- Lists nest in what a node becomes only at its top. -/
theorem Outcome.flat_lists_iff {tree : CallTree ι} (h : tree.Outcome v) :
    tree.FlatLists ↔ ∀ item ∈ tree.items, item.isList = false := by
  cases h with
  | child h =>
      have hitems : tree.items = [] := by cases h <;> rfl
      rw [hitems]
      exact iff_of_true (fun items hoccurs => absurd hoccurs (h.not_occurs_list items))
        (List.forall_mem_nil _)
  | list hall =>
      refine ⟨fun hflat => hflat _ .whole, fun hsingle items hoccurs => ?_⟩
      cases hoccurs with
      | whole => exact hsingle
      | inside hnext hinner =>
          -- An item that is no list is a child, and no list occurs in it.
          have hnot := hsingle _ hnext
          cases hall _ hnext with
          | child hchild => exact absurd hinner (hchild.not_occurs_list items)
          | list => cases hnot

end CallTree

/-! ## Nodes that become elements -/

namespace Markup

/-- The node stands for a single element: it is a tag, it includes one, or it extends a template
whose first node stands for one. -/
def isSingle : Markup → Bool
  | tag _ _ _ _ _ => true
  | included _ _ tree => tree.isSingle
  | extended _ _ (block _ (first :: _)) => first.isSingle
  | _ => false

/-- The node is a block without a name. -/
def isBlock : Markup → Bool
  | block _ _ => true
  | _ => false

/-- A template that is extended is a block. -/
def extendsBlock : Markup → Bool
  | extended _ _ tree => tree.isBlock
  | _ => true

end Markup

namespace Compiler

open CallTree (Vocabulary)

/-- The nodes that a node puts in its place, whose results are the items of its own. A region puts
its nodes or those of its override there, and a template its nodes. -/
def spread (lookup : Lookup) : Markup → List Markup
  | .block _ nodes => nodes
  | .namedBlock _ name nodes => (lookup name).getD nodes
  | .included _ _ tree => spread lookup tree
  | .extended _ _ (.block _ (first :: _)) => spread lookup first
  | _ => []

/-- A result has lists where the node asks for them: it is a list itself unless the node stands for
an element, and there are lists among its items unless all nodes for them stand for elements. -/
structure Mirrors (lookup : Lookup) (node : Markup) (result : CallTree ι) : Prop where
  isList : result.isList = !node.isSingle
  items : (∀ item ∈ result.items, item.isList = false) ↔
    ∀ inner ∈ spread lookup node, inner.isSingle = true

variable {lookup : Lookup} {v : Vocabulary ι}

/-- There are no lists among the results of nodes exactly if all nodes stand for elements. -/
theorem forall_is_list_iff {nodes : List Markup} {items : List (CallTree ι)}
    (h : List.Forall₂ (Mirrors lookup) nodes items) :
    (∀ item ∈ items, item.isList = false) ↔ ∀ node ∈ nodes, node.isSingle = true := by
  induction h with
  | nil => exact iff_of_true (List.forall_mem_nil _) (List.forall_mem_nil _)
  | cons hitem _ ih =>
      rw [List.forall_mem_cons, List.forall_mem_cons, ih, hitem.isList, Bool.not_eq_false']

/-- The result mirrors the node, and if the node is a block, the items mirror its nodes. -/
def MirrorsDeep (lookup : Lookup) (node : Markup) (result : CallTree ι) : Prop :=
  Mirrors lookup node result ∧
  ∀ position nodes, node = .block position nodes →
    ∃ items, result = .list items ∧ List.Forall₂ (Mirrors lookup) nodes items

/-- What is kept of an extended template mirrors it. -/
theorem mirrors_first_result {position : Position} {path : Option String} {tree : Markup}
    {result : CallTree ι} (hblock : tree.isBlock = true) (h : MirrorsDeep lookup tree result) :
    Mirrors lookup (.extended position path tree) (firstResult result) := by
  cases tree with
  | block _ nodes =>
      obtain ⟨items, rfl, hitems⟩ := h.2 _ _ rfl
      cases hitems with
      | nil => exact ⟨rfl, iff_of_true (List.forall_mem_nil _) (List.forall_mem_nil _)⟩
      | cons hitem _ => exact ⟨hitem.isList, hitem.items⟩
  | _ => cases hblock

/-- A node becomes something that mirrors it if the nodes below it do. -/
theorem maintains_mirrors_compile_step {options : Options}
    (hlookup : AllOverrides Markup.extendsBlock lookup)
    {descend : Markup → Attempt (Workspace ι) (CallTree ι)}
    (hdescend : ∀ node, node.all Markup.extendsBlock = true →
      Maintains (Workspace.Holds v) (descend node) (MirrorsDeep lookup node))
    {node : Markup} (hnode : node.all Markup.extendsBlock = true) :
    Maintains (Workspace.Holds v) (compileStep options lookup descend node)
      (MirrorsDeep lookup node) := by
  have hbelow {nodes : List Markup} (hnodes : below lookup node = nodes) :
      Maintains (Workspace.Holds v) (nodes.mapM descend)
        (List.Forall₂ (Mirrors lookup) nodes) := by
    refine maintains_mapM fun inner hinner w item u hw h => ?_
    obtain ⟨hitem, hu⟩ := hdescend inner
      (all_of_mem_below hlookup hnode (hnodes ▸ hinner)) w item u hw h
    exact ⟨hitem.1, hu⟩
  cases node with
  | block position nodes =>
      refine maintains_bind (hbelow rfl) fun items hitems => maintains_pure ⟨⟨rfl, ?_⟩, ?_⟩
      · exact forall_is_list_iff hitems
      · rintro _ _ ⟨⟩
        exact ⟨items, rfl, hitems⟩
  | namedBlock position name nodes =>
      have hlist {inner : List Markup} (hinner : (lookup name).getD nodes = inner) :
          Maintains (Workspace.Holds v)
            (do return .list (← inner.mapM descend) : Attempt (Workspace ι) (CallTree ι))
            (MirrorsDeep lookup (.namedBlock position name nodes)) := by
        refine maintains_bind (hbelow hinner) fun items hitems => maintains_pure ⟨⟨rfl, ?_⟩, ?_⟩
        · rw [spread, hinner]
          exact forall_is_list_iff hitems
        · rintro _ _ ⟨⟩
      rw [compileStep]
      split
      · rename_i override hoverride
        exact maintains_bind (maintains_note _) fun _ _ => hlist (by rw [hoverride]; rfl)
      · rename_i hnone
        exact hlist (by rw [hnone]; rfl)
  | text position value =>
      refine maintains_bind (maintains_splice _ value) fun parts hparts =>
        maintains_pure ⟨⟨rfl, iff_of_true ?_ (List.forall_mem_nil _)⟩, ?_⟩
      · -- The parts of a text are texts and interpolations.
        rcases hparts with rfl | hpieces
        · exact List.forall_mem_singleton.mpr rfl
        · intro part hpart
          cases hpieces part hpart <;> rfl
      · rintro _ _ ⟨⟩
  | tag position name attributes blockPosition children =>
      refine maintains_bind (maintains_properties options attributes) fun _ _ => ?_
      refine maintains_bind (hbelow rfl) fun _ _ => maintains_pure ⟨⟨rfl, ?_⟩, ?_⟩
      · exact iff_of_true (List.forall_mem_nil _) (List.forall_mem_nil _)
      · rintro _ _ ⟨⟩
  | included position path tree =>
      intro w result u hw h
      have htree := all_of_mem_below hlookup hnode (List.mem_singleton_self tree)
      obtain ⟨⟨⟨hlist, hitems⟩, -⟩, hu⟩ := hdescend tree htree w result u hw h
      refine ⟨⟨⟨hlist, hitems⟩, ?_⟩, hu⟩
      rintro _ _ ⟨⟩
  | extended position path tree =>
      have htree := all_of_mem_below hlookup hnode (List.mem_singleton_self tree)
      have hblock := (Markup.all_iff.mp hnode).1
      refine maintains_bind (hdescend tree htree) fun result hresult =>
        maintains_pure ⟨mirrors_first_result hblock hresult, ?_⟩
      rintro _ _ ⟨⟩
  | foreign position kind => exact maintains_throw _

/-- A node becomes something that mirrors it, however deep nodes nest. -/
theorem maintains_mirrors_compile_within {options : Options}
    (hlookup : AllOverrides Markup.extendsBlock lookup) (room : Nat) {node : Markup}
    (hnode : node.all Markup.extendsBlock = true) :
    Maintains (Workspace.Holds v) (compileWithin options lookup room node)
      (MirrorsDeep lookup node) := by
  induction room generalizing node with
  | zero => exact maintains_mirrors_compile_step hlookup (fun _ _ => maintains_throw _) hnode
  | succ room ih => exact maintains_mirrors_compile_step hlookup (fun _ => ih) hnode

/-- Lists nest in what a tree becomes exactly if one of the nodes for its items stands for no
element. -/
theorem flat_lists_iff_of_yields_compile {options : Options} {tree : Markup} {xs : List ι}
    (hlookup : AllOverrides Markup.extendsBlock lookup)
    (htree : tree.all Markup.extendsBlock = true) {events : List Event} {result : CallTree ι}
    {w : Workspace ι}
    (h : Yields (compile options lookup tree) ⟨.ofList (xs.map .interpolation), events⟩ result w) :
    result.FlatLists ↔ ∀ inner ∈ spread lookup tree, inner.isSingle = true := by
  have hstart : Workspace.Holds (vocabulary options lookup tree xs) _ := holds_of_list xs events
  obtain ⟨⟨hmirrors, -⟩, -⟩ :=
    maintains_mirrors_compile_within hlookup _ htree _ result w hstart h
  exact (outcome_of_yields_compile h).flat_lists_iff.trans hmirrors.items

end Compiler

/-! ## Extended templates are blocks -/

/-- Putting in entries makes no others. -/
theorem Entries.mem_put_all {α : Type} {entries more : Entries α} {entry : String × α}
    (h : entry ∈ entries.putAll more) : entry ∈ entries ∨ entry ∈ more := by
  induction more generalizing entries with
  | nil => exact .inl h
  | cons first more ih =>
      rcases ih h with hput | hmore
      · rcases mem_put hput with rfl | hentries
        · exact .inr List.mem_cons_self
        · exact .inl hentries
      · exact .inr (List.mem_cons_of_mem _ hmore)

namespace Composition

variable {p : Markup → Bool}

/-- A property of all nodes of a composed template: of its root and of its overrides. -/
structure All (p : Markup → Bool) (c : Composition) : Prop where
  root : c.root.all p = true
  overrides : ∀ entry ∈ c.overrides, Markup.allOf p entry.2 = true

/-- The overrides of a composition with the property have it. -/
theorem All.all_overrides {c : Composition} (h : c.All p) : Compiler.AllOverrides p c.lookup :=
  fun _ _ hlookup => h.overrides _ (Entries.mem_of_get? hlookup)

/-- The blocks that are collected are among those that follow the extends line. -/
theorem all_of_collect_overrides {path : Option String} {siblings : List Markup}
    (hsiblings : Markup.allOf p siblings = true) {overrides result : Entries (List Markup)}
    (hoverrides : ∀ entry ∈ overrides, Markup.allOf p entry.2 = true)
    (h : collectOverrides path overrides siblings = .ok result) :
    ∀ entry ∈ result, Markup.allOf p entry.2 = true := by
  induction siblings generalizing overrides with
  | nil =>
      cases h
      exact hoverrides
  | cons sibling siblings ih =>
      rw [Markup.allOf, Bool.and_eq_true] at hsiblings
      obtain ⟨hsibling, hmore⟩ := hsiblings
      unfold collectOverrides at h
      split at h
      · cases ‹sibling :: siblings = []›
      · rename_i heq
        cases heq
        refine ih hmore (fun entry hentry => ?_) h
        rcases Entries.mem_put hentry with rfl | hentry
        · exact Markup.all_of_iff.mpr (Markup.all_iff.mp hsibling).2
        · exact hoverrides entry hentry
      · cases h
      · cases h

/-- The overrides of a derived template are put over those of its parent. -/
theorem All.put_all {c : Composition} (h : c.All p) {overrides : Entries (List Markup)}
    (hoverrides : ∀ entry ∈ overrides, Markup.allOf p entry.2 = true) :
    (⟨c.root, c.overrides.putAll overrides⟩ : Composition).All p :=
  ⟨h.root, fun entry hentry =>
    (Entries.mem_put_all hentry).elim (h.overrides entry) (hoverrides entry)⟩

/-- A template that is extended contributes nodes of its tree. -/
theorem all_of_of_parent {path : Option String} {siblings : List Markup} {tree : Markup}
    (htree : tree.all p = true) (hsiblings : Markup.allOf p siblings = true) {c : Composition}
    (h : ofParent path siblings tree = .ok c) : c.All p := by
  have hcollect {path : Option String} {siblings : List Markup}
      (hsiblings : Markup.allOf p siblings = true) {overrides : Entries (List Markup)}
      (h : collectOverrides path [] siblings = .ok overrides) :
      ∀ entry ∈ overrides, Markup.allOf p entry.2 = true :=
    all_of_collect_overrides hsiblings (List.forall_mem_nil _) h
  induction path, siblings, tree using ofParent.induct generalizing c with
  | case1 path siblings position grandPath grandParent ih =>
      rw [ofParent] at h
      obtain ⟨overrides, hoverrides, h⟩ := bind_eq_ok.mp h
      obtain ⟨inherited, hinherited, hend⟩ := bind_eq_ok.mp h
      cases hend
      have hparent := (Markup.all_iff.mp htree).2 _ (List.mem_singleton_self _)
      exact (ih hparent rfl hinherited).put_all (hcollect hsiblings hoverrides)
  | case2 path siblings position inner grandPath grandParent more ih =>
      rw [ofParent] at h
      obtain ⟨overrides, hoverrides, h⟩ := bind_eq_ok.mp h
      obtain ⟨inherited, hinherited, hend⟩ := bind_eq_ok.mp h
      cases hend
      obtain ⟨hextended, hmore⟩ := List.forall_mem_cons.mp (Markup.all_iff.mp htree).2
      have hparent := (Markup.all_iff.mp hextended).2 _ (List.mem_singleton_self _)
      exact (ih hparent (Markup.all_of_iff.mpr hmore) hinherited).put_all
        (hcollect hsiblings hoverrides)
  | case3 path siblings position =>
      rw [ofParent] at h
      obtain ⟨_, -, hend⟩ := bind_eq_ok.mp h
      cases hend
  | case4 path siblings position first tail hplain =>
      rw [ofParent] at h
      · obtain ⟨overrides, hoverrides, hend⟩ := bind_eq_ok.mp h
        cases hend
        exact ⟨(Markup.all_iff.mp htree).2 first List.mem_cons_self,
          hcollect hsiblings hoverrides⟩
      · exact hplain
  | case5 path siblings node hextended hderived hempty hblock =>
      rw [ofParent] at h
      · obtain ⟨overrides, hoverrides, hend⟩ := bind_eq_ok.mp h
        cases hend
        exact ⟨htree, hcollect hsiblings hoverrides⟩
      all_goals assumption

/-- The composition of a template consists of its nodes. -/
theorem all_of_yields_of_nodes {nodes : List Markup} (hnodes : Markup.allOf p nodes = true)
    {c : Composition} {before after : List Event} (h : Yields (ofNodes nodes) before c after) :
    c.All p := by
  rw [Markup.all_of_iff] at hnodes
  unfold ofNodes at h
  split at h
  · exact absurd h not_yields_throw
  · rename_i position path parent siblings
    obtain ⟨hextended, hsiblings⟩ := List.forall_mem_cons.mp hnodes
    obtain ⟨composition, _, hparent, h⟩ := yields_bind.mp h
    obtain ⟨_, _, -, hend⟩ := yields_bind.mp h
    obtain ⟨rfl, -⟩ := yields_pure.mp hend
    exact all_of_of_parent ((Markup.all_iff.mp hextended).2 _ (List.mem_singleton_self _))
      (Markup.all_of_iff.mpr hsiblings) (yields_lift_except.mp hparent).1
  · obtain ⟨rfl, -⟩ := yields_pure.mp h
    exact ⟨hnodes _ List.mem_cons_self, List.forall_mem_nil _⟩
  · exact absurd h not_yields_throw

end Composition

/-- A tree that is built with templates that are blocks extends nothing but blocks. -/
theorem Markup.BuiltWith.all_extends_block {loads : String → Markup → Prop}
    (hloads : ∀ path tree, loads path tree →
      tree.isBlock = true ∧ tree.all extendsBlock = true)
    {tree : Markup} (h : tree.BuiltWith loads) : tree.all extendsBlock = true := by
  induction h with
  | @plain node hplain _ ih =>
      refine all_iff.mpr ⟨?_, ih⟩
      cases node with
      | extended => cases hplain
      | _ => rfl
  | @loaded node _ _ hloaded h =>
      obtain ⟨hblock, hall⟩ := hloads _ _ h
      cases node with
      | included =>
          cases hloaded
          exact all_iff.mpr ⟨rfl, List.forall_mem_singleton.mpr hall⟩
      | extended =>
          cases hloaded
          exact all_iff.mpr ⟨hblock, List.forall_mem_singleton.mpr hall⟩
      | _ => cases hloaded

namespace Parser

/-- The tree of a token list is a block. -/
theorem is_block_of_yields_parse {context : Context} {tokens : List Token} {tree : Markup}
    {before after : List Event} (h : Yields (parse context tokens) before tree after) :
    tree.isBlock = true := by
  unfold parse at h
  dsimp only at h
  split at h
  · exact absurd h not_yields_throw
  · obtain ⟨_, _, -, hend⟩ := yields_bind.mp h
    obtain ⟨rfl, -⟩ := yields_pure.mp hend
    rfl

end Parser

namespace Environment

variable {env : Environment}

/-- A source becomes a block that extends nothing but blocks if the templates that it loads are
such. -/
theorem all_extends_block_of_yields_parse_source {name : Option String}
    {load : String → Logged Markup}
    (hload : ∀ path tree before after, Yields (load path) before tree after →
      tree.isBlock = true ∧ tree.all Markup.extendsBlock = true)
    {source : String} {tree : Markup} {before after : List Event}
    (h : Yields (parseSource name load source) before tree after) :
    tree.isBlock = true ∧ tree.all Markup.extendsBlock = true := by
  obtain ⟨tokens, _, -, hparse⟩ := yields_bind.mp h
  refine ⟨Parser.is_block_of_yields_parse hparse, ?_⟩
  have hbuilt : tree.BuiltWith
      fun _ tree => tree.isBlock = true ∧ tree.all Markup.extendsBlock = true :=
    (Parser.ends_parse_built (fun path _ => ⟨fun before tree after => hload path tree before after,
      fun _ _ _ _ => trivial⟩) tokens).value _ tree after hparse
  exact hbuilt.all_extends_block fun _ _ => id

/-- A source becomes a block that extends nothing but blocks, however many templates it loads. -/
theorem all_extends_block_of_yields_parse_within {room : Nat} {stack : List String}
    {name : Option String} {source : String} {tree : Markup} {before after : List Event}
    (h : Yields (env.parseWithin room stack name source) before tree after) :
    tree.isBlock = true ∧ tree.all Markup.extendsBlock = true :=
  of_yields_parse_within
    (p := fun tree => tree.isBlock = true ∧ tree.all Markup.extendsBlock = true)
    (fun hload => all_extends_block_of_yields_parse_source hload) h

/-- The composition of a template has a property if the tree of every source does. -/
theorem all_of_yields_composition {p : Markup → Bool}
    (hparse : ∀ {name : Option String} {source : String} {tree : Markup}
      {before after : List Event}, Yields (env.parse source name) before tree after →
      tree.all p = true)
    {fragments : List String} {count : Nat} {name : Option String} {c : Composition}
    {before after : List Event} (h : Yields (env.composition fragments count name) before c after) :
    c.All p := by
  obtain ⟨source, _, -, h⟩ := yields_bind.mp h
  obtain ⟨_, _, -, h⟩ := yields_bind.mp h
  obtain ⟨tree, _, htree, hcompose⟩ := yields_bind.mp h
  have hall := hparse htree
  refine Composition.all_of_yields_of_nodes ?_ hcompose
  obtain ⟨hblock, -⟩ := all_extends_block_of_yields_parse_within htree
  cases tree with
  | block _ nodes => exact Markup.all_of_iff.mpr (Markup.all_iff.mp hall).2
  | _ => cases hblock

/-- The composition of a template extends nothing but blocks. -/
theorem all_extends_block_of_yields_composition {fragments : List String} {count : Nat}
    {name : Option String} {c : Composition} {before after : List Event}
    (h : Yields (env.composition fragments count name) before c after) :
    c.All Markup.extendsBlock :=
  all_of_yields_composition (fun hparse => (all_extends_block_of_yields_parse_within hparse).2) h

/-- Where lists nest in a compiled template. No list is left inside a call. Lists nest in the result
as a whole exactly if one of the nodes that the root of the template puts in its place stands for no
element. -/
theorem compile_lists (env : Environment) (fragments : List String) (xs : List ι)
    (name : Option String) (events : List Event) (result : CallTree ι) (after : List Event)
    (h : (env.compile fragments (xs.map .interpolation) name).run.run events =
      (.ok result, after)) :
    (∀ callee arguments items, (CallTree.call callee arguments).Occurs result →
      ¬ (CallTree.list items).Occurs (.call callee arguments)) ∧
    ∃ composition composed,
      (env.composition fragments xs.length name).run.run events = (.ok composition, composed) ∧
      (result.FlatLists ↔
        ∀ node ∈ Compiler.spread composition.lookup composition.root, node.isSingle = true) := by
  obtain ⟨composition, composed, w, hcomposition, hcompile, -⟩ := yields_compile.mp h
  rw [List.length_map] at hcomposition
  have hall := all_extends_block_of_yields_composition hcomposition
  constructor
  · intro callee arguments items hcall
    exact ((Compiler.outcome_of_yields_compile hcompile).is_child_of_occurs hcall).not_occurs_list
      items
  · exact ⟨composition, composed, hcomposition,
      Compiler.flat_lists_iff_of_yields_compile hall.all_overrides hall.root hcompile⟩

/-- An included template that only extends another one becomes a list with one element, even though
there are texts and regions in this element. -/
theorem compile_lists_included :
    let env : Environment := { default with
      loader := some (.table [("p.pug", "section\n  block a\n    | x\n    | y"),
        ("t.pug", "extends p.pug")]) }
    ∃ result after,
      (env.compile ["include t.pug"] (([] : List Nat).map .interpolation) none).run.run [] =
        (.ok result, after) ∧
      result.FlatLists := by
  intro env
  have hok : ((env.compile ["include t.pug"] (([] : List Nat).map .interpolation) none).run.run
      []).1.isOk = true := by decide +kernel
  have hspread : ((env.composition ["include t.pug"] 0 none).run.run []).1.toOption.any
      (fun c => (Compiler.spread c.lookup c.root).all (·.isSingle)) = true := by decide +kernel
  rcases hrun : (env.compile ["include t.pug"] (([] : List Nat).map .interpolation) none).run.run []
    with ⟨_ | result, after⟩
  · rw [hrun] at hok
    cases hok
  · obtain ⟨-, composition, composed, hcomposition, hflat⟩ :=
      compile_lists env ["include t.pug"] [] none [] result after hrun
    rw [List.length_nil] at hcomposition
    rw [hcomposition] at hspread
    exact ⟨result, after, rfl, hflat.mpr (List.all_eq_true.mp hspread)⟩

/-- A region with a text at the root of a template becomes a list with a list in it. -/
theorem compile_region_nested :
    ∃ after, (default.compile ["block a\n  | x"] ([] : List (CallTree Nat)) none).run.run [] =
        (.ok (.list [.list [.literal (.text "x")]]), after) ∧
      ¬ (CallTree.list [.list [.literal (.text "x")]] : CallTree Nat).FlatLists := by
  have hnested : ((default.compile ["block a\n  | x"] ([] : List (CallTree Nat)) none).run.run
      []).1 = .ok (.list [.list [.literal (.text "x")]]) := by decide +kernel
  refine ⟨_, eq_mk_of_fst_eq hnested, fun hflat => ?_⟩
  cases hflat _ .whole _ List.mem_cons_self

end Environment

end ElementMarkup
