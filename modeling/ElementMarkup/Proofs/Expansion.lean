import ElementMarkup.Proofs.DepthLimit
import ElementMarkup.Proofs.Frame

/-!
# Trees without composition

Blocks, overrides and included templates can be eliminated from a tree before it is compiled.
`Expands lookup node nodes` says that the node comes to the tags and texts of `nodes`, a named block
standing for its override, if there is one. It has no rule for nodes that would go on for ever. Main
statement: `compile_expanded`, a tag that compiles has one expansion, and the expansion compiles
without overrides to the same call with the same interpolations taken and the same warnings. The
simulation is by induction on the room that is left: wrappers take some of it, and the expansion
has what they took to spare.
-/

namespace ElementMarkup

/-- The warnings among events. -/
def Event.warnings (events : List Event) : List Event :=
  events.filter fun event => event.level = .warning

/-- A node that does not extend a template. -/
def Markup.extendsNothing : Markup → Bool
  | extended _ _ _ => false
  | _ => true

namespace Compiler

open Attempt

mutual

/-- The tags and texts that a node comes to. -/
inductive Expands (lookup : Lookup) : Markup → List Markup → Prop where
  | tag (position name attributes blockPosition children expanded) :
      ExpandsAll lookup children expanded →
      Expands lookup (.tag position name attributes blockPosition children)
        [.tag position name attributes blockPosition expanded]
  | text (position value) : Expands lookup (.text position value) [.text position value]
  | block (position nodes expanded) :
      ExpandsAll lookup nodes expanded → Expands lookup (.block position nodes) expanded
  | included (position path tree expanded) :
      Expands lookup tree expanded → Expands lookup (.included position path tree) expanded
  | overridden (position name nodes override expanded) :
      lookup name = some override → ExpandsAll lookup override expanded →
      Expands lookup (.namedBlock position name nodes) expanded
  | namedBlock (position name nodes expanded) :
      lookup name = none → ExpandsAll lookup nodes expanded →
      Expands lookup (.namedBlock position name nodes) expanded

/-- The tags and texts that several nodes come to, in order. -/
inductive ExpandsAll (lookup : Lookup) : List Markup → List Markup → Prop where
  | nil : ExpandsAll lookup [] []
  | cons (node nodes expanded more) :
      Expands lookup node expanded → ExpandsAll lookup nodes more →
      ExpandsAll lookup (node :: nodes) (expanded ++ more)

end

variable {ι : Type} {lookup : Lookup}

mutual

/-- A node has at most one expansion. -/
theorem expands_unique {node : Markup} {expanded others : List Markup}
    (h : Expands lookup node expanded) (hother : Expands lookup node others) :
    expanded = others := by
  match h, hother with
  | .tag _ _ _ _ _ _ hnodes, .tag _ _ _ _ _ _ hothers => rw [expands_all_unique hnodes hothers]
  | .text _ _, .text _ _ => rfl
  | .block _ _ _ hnodes, .block _ _ _ hothers => exact expands_all_unique hnodes hothers
  | .included _ _ _ _ htree, .included _ _ _ _ hothers => exact expands_unique htree hothers
  | .overridden _ _ _ _ _ hlookup hnodes, .overridden _ _ _ _ _ hagain hothers =>
      obtain rfl := Option.some.inj (hlookup.symm.trans hagain)
      exact expands_all_unique hnodes hothers
  | .overridden _ _ _ _ _ hlookup _, .namedBlock _ _ _ _ hnone _ =>
      cases hlookup.symm.trans hnone
  | .namedBlock _ _ _ _ hnone _, .overridden _ _ _ _ _ hlookup _ =>
      cases hlookup.symm.trans hnone
  | .namedBlock _ _ _ _ _ hnodes, .namedBlock _ _ _ _ _ hothers =>
      exact expands_all_unique hnodes hothers

/-- Several nodes have at most one expansion. -/
theorem expands_all_unique {nodes expanded others : List Markup}
    (h : ExpandsAll lookup nodes expanded) (hother : ExpandsAll lookup nodes others) :
    expanded = others := by
  match h, hother with
  | .nil, .nil => rfl
  | .cons _ _ _ _ hnode hnodes, .cons _ _ _ _ hnode' hnodes' =>
      rw [expands_unique hnode hnode', expands_all_unique hnodes hnodes']

end

/-! ## Workspaces with the same warnings -/

/-- The frame in which workspaces are the same if their cursors and their warnings are. -/
def warningFrame : Frame (Workspace ι) where
  same w v := w.cursor = v.cursor ∧ Event.warnings w.events = Event.warnings v.events
  leads _ _ := True
  refl _ := trivial
  trans _ _ := trivial

/-- One more event is the last warning, if it is one. -/
theorem warnings_concat (events : List Event) (event : Event) :
    Event.warnings (events ++ [event]) =
      Event.warnings events ++ if event.level = .warning then [event] else [] := by
  simp only [Event.warnings, List.filter_append, List.filter_cons, List.filter_nil,
    decide_eq_true_eq]

/-- Taking interpolations keeps the warnings the same. -/
theorem is_cursor_frame_warning_frame : IsCursorFrame (warningFrame : Frame (Workspace ι)) where
  cursor_eq h := h.1
  keeps_cursor hsame _ := ⟨trivial, rfl, hsame.2⟩
  keeps_drop index available := by
    intro w other _ v hsame hnote
    obtain rfl := yields_note.mp hnote
    refine ⟨trivial, _, yields_note.mpr rfl, hsame.1, ?_⟩
    simp only [warnings_concat, hsame.2]

/-! ## Simulation -/

/-- From the workspace `other` the nodes become the given items, and the workspace that is left is
the same as `v`. -/
def Reproduces (g : Markup → Attempt (Workspace ι) (CallTree ι)) (nodes : List Markup)
    (other : Workspace ι) (items : List (CallTree ι)) (v : Workspace ι) : Prop :=
  ∃ trees final, Yields (nodes.mapM g) other trees final ∧ warningFrame.same v final ∧
    CallTree.flatten trees = items

/-- What `f` makes of a node that extends nothing, `g` makes of its expansion: the same items, with
the same interpolations taken and the same warnings. -/
def Simulated (lookup : Lookup) (f g : Markup → Attempt (Workspace ι) (CallTree ι)) : Prop :=
  ∀ node w tree v other, node.all Markup.extendsNothing = true → Yields (f node) w tree v →
    warningFrame.same w other →
    ∃ expanded, Expands lookup node expanded ∧ Reproduces g expanded other tree.flattenItem v

variable {options : Options} {f g : Markup → Attempt (Workspace ι) (CallTree ι)}
  {w v other : Workspace ι}

/-- A function that does the same and more makes the same items. -/
theorem Reproduces.refine {nodes : List Markup} {items : List (CallTree ι)}
    (h : Reproduces f nodes other items v) (hrefines : ∀ node, Refines (f node) (g node)) :
    Reproduces g nodes other items v := by
  obtain ⟨trees, final, htrees, hrest⟩ := h
  exact ⟨trees, final, (refinement _).rel_mapM hrefines nodes _ _ _ htrees, hrest⟩

/-- A single node gives its own items. -/
theorem reproduces_singleton {node : Markup} {tree : CallTree ι} {final : Workspace ι}
    (h : Yields (g node) other tree final) (hsame : warningFrame.same v final) :
    Reproduces g [node] other tree.flattenItem v := by
  refine ⟨[tree], final, yields_mapM_singleton.mpr ⟨tree, h, rfl⟩, hsame, ?_⟩
  rw [CallTree.flatten, CallTree.flatten, List.append_nil]

/-- Several nodes are simulated one after the other. -/
theorem Simulated.mapM (h : Simulated lookup f g) {nodes : List Markup}
    {items : List (CallTree ι)} (hnodes : Markup.allOf Markup.extendsNothing nodes = true)
    (hyields : Yields (nodes.mapM f) w items v) (hsame : warningFrame.same w other) :
    ∃ expanded, ExpandsAll lookup nodes expanded ∧
      Reproduces g expanded other (CallTree.flatten items) v := by
  induction nodes generalizing w other items with
  | nil =>
      obtain ⟨rfl, rfl⟩ := yields_mapM_nil.mp hyields
      exact ⟨[], .nil, [], other, yields_mapM_nil.mpr ⟨rfl, rfl⟩, hsame, rfl⟩
  | cons node nodes ih =>
      obtain ⟨hnode, hmore⟩ := List.forall_mem_cons.mp (Markup.all_of_iff.mp hnodes)
      obtain ⟨item, rest, u, hitem, hrest, rfl⟩ := yields_mapM_cons.mp hyields
      obtain ⟨expanded, hexpands, trees, between, htrees, hbetween, hflat⟩ :=
        h node w item u other hnode hitem hsame
      obtain ⟨expandedMore, hexpandsMore, treesMore, final, htreesMore, hfinal, hflatMore⟩ :=
        ih (Markup.all_of_iff.mpr hmore) hrest hbetween
      refine ⟨expanded ++ expandedMore, .cons _ _ _ _ hexpands hexpandsMore, trees ++ treesMore,
        final, yields_mapM_append htrees htreesMore, hfinal, ?_⟩
      rw [CallTree.flatten_append, hflat, hflatMore, CallTree.flatten]

/-- The nodes inside a wrapper are simulated. The wrapper is gone from the expansion. -/
theorem Simulated.list (h : Simulated lookup f g) {nodes : List Markup} {tree : CallTree ι}
    (hnodes : ∀ inner ∈ nodes, inner.all Markup.extendsNothing = true)
    (hyields : Yields (do return .list (← nodes.mapM f)) w tree v)
    (hsame : warningFrame.same w other) :
    ∃ expanded, ExpandsAll lookup nodes expanded ∧
      Reproduces g expanded other tree.flattenItem v := by
  obtain ⟨items, _, hitems, hend⟩ := yields_bind.mp hyields
  obtain ⟨rfl, rfl⟩ := yields_pure.mp hend
  exact h.mapM (Markup.all_of_iff.mpr hnodes) hitems hsame

/-- A text is compiled alike with or without overrides. -/
theorem reproduces_text {position : Position} {value : String} {tree : CallTree ι}
    (hyields : Yields (compileStep options lookup f (.text position value)) w tree v)
    (hsame : warningFrame.same w other) :
    Reproduces (compileStep options (fun _ => none) g) [.text position value] other
      tree.flattenItem v := by
  have hkeeps : Keeps warningFrame
      (do return .list (← splice options.strict value) : Attempt (Workspace ι) (CallTree ι)) :=
    keeps_bind (keeps_splice is_cursor_frame_warning_frame _ _) fun _ => keeps_pure _
  obtain ⟨-, final, hfinal, hsameFinal⟩ := hkeeps w other tree v hsame hyields
  exact reproduces_singleton hfinal hsameFinal

/-- A tag is compiled alike with its children expanded. -/
theorem Simulated.tag (h : Simulated lookup f g) {position : Position} {name : String}
    {attributes : List Attribute} {blockPosition : Option Position} {children : List Markup}
    (hchildren : ∀ inner ∈ children, inner.all Markup.extendsNothing = true) {tree : CallTree ι}
    (hyields : Yields (compileStep options lookup f
      (.tag position name attributes blockPosition children)) w tree v)
    (hsame : warningFrame.same w other) :
    ∃ expanded, ExpandsAll lookup children expanded ∧
      Reproduces (compileStep options (fun _ => none) g)
        [.tag position name attributes blockPosition expanded] other tree.flattenItem v := by
  obtain ⟨props, u, hprops, hyields⟩ := yields_bind.mp hyields
  obtain ⟨items, _, hitems, hend⟩ := yields_bind.mp hyields
  obtain ⟨rfl, rfl⟩ := yields_pure.mp hend
  obtain ⟨-, between, hbetween, hsameBetween⟩ :=
    keeps_properties is_cursor_frame_warning_frame options attributes w other props u hsame hprops
  obtain ⟨expanded, hexpands, trees, final, htrees, hfinal, hflat⟩ :=
    h.mapM (Markup.all_of_iff.mpr hchildren) hitems hsameBetween
  refine ⟨expanded, hexpands, reproduces_singleton ?_ hfinal⟩
  rw [← hflat]
  exact yields_bind.mpr ⟨props, between, hbetween, yields_bind.mpr ⟨trees, final, htrees, rfl⟩⟩

/-- A node is simulated with the nodes below it if the expansion has the room that wrappers take. -/
theorem Simulated.compile_step (h : Simulated lookup f g)
    (hlookup : AllOverrides Markup.extendsNothing lookup)
    (hroom : ∀ node, Refines (g node) (compileStep options (fun _ => none) g node)) :
    Simulated lookup (Compiler.compileStep options lookup f)
      (Compiler.compileStep options (fun _ => none) g) := by
  intro node w tree v other hnode hyields hsame
  have hbelow : ∀ inner ∈ below lookup node, inner.all Markup.extendsNothing = true :=
    fun inner hinner => all_of_mem_below hlookup hnode hinner
  cases node with
  | block position nodes =>
      obtain ⟨expanded, hexpands, hreproduces⟩ := h.list hbelow hyields hsame
      exact ⟨expanded, .block _ _ _ hexpands, hreproduces.refine hroom⟩
  | namedBlock position name nodes =>
      rw [Compiler.compileStep] at hyields
      cases hname : lookup name with
      | none =>
          rw [below, hname] at hbelow
          rw [hname] at hyields
          obtain ⟨expanded, hexpands, hreproduces⟩ := h.list hbelow hyields hsame
          exact ⟨expanded, .namedBlock _ _ _ _ hname hexpands, hreproduces.refine hroom⟩
      | some override =>
          rw [below, hname] at hbelow
          rw [hname] at hyields
          obtain ⟨_, u, hnote, hyields⟩ := yields_bind.mp hyields
          obtain rfl := yields_note.mp hnote
          -- That the block is overridden is reported, but not as a warning.
          have hquiet : warningFrame.same
              { w with events := w.events ++ [.blockOverridden name] } other := by
            refine ⟨hsame.1, ?_⟩
            rw [warnings_concat, ← hsame.2]
            exact List.append_nil _
          obtain ⟨expanded, hexpands, hreproduces⟩ := h.list hbelow hyields hquiet
          exact ⟨expanded, .overridden _ _ _ _ _ hname hexpands, hreproduces.refine hroom⟩
  | text position value => exact ⟨_, .text _ _, reproduces_text hyields hsame⟩
  | tag position name attributes blockPosition children =>
      obtain ⟨expanded, hexpands, hreproduces⟩ := h.tag hbelow hyields hsame
      exact ⟨_, .tag _ _ _ _ _ _ hexpands, hreproduces⟩
  | included position path inner =>
      obtain ⟨expanded, hexpands, hreproduces⟩ :=
        h inner w tree v other (hbelow inner List.mem_cons_self) hyields hsame
      exact ⟨expanded, .included _ _ _ _ hexpands, hreproduces.refine hroom⟩
  | extended => cases (Markup.all_iff.mp hnode).1
  | foreign => exact absurd hyields not_yields_throw

/-- With the same room the expansions of nodes are compiled as the nodes are. -/
theorem simulated_descend_within (options : Options)
    (hlookup : AllOverrides Markup.extendsNothing lookup) (room : Nat) :
    Simulated lookup (descendWithin options lookup room : Markup → Attempt (Workspace ι) _)
      (descendWithin options (fun _ => none) room) := by
  induction room with
  | zero =>
      -- Without room nothing is compiled that would have to be simulated.
      intro node w tree v other _ hyields
      exact absurd hyields not_yields_throw
  | succ room ih =>
      rw [descendWithin, descendWithin, compile_within_eq, compile_within_eq]
      refine ih.compile_step hlookup fun node => ?_
      rw [← compile_within_eq]
      exact refines_descend_within options (fun _ => none) options.maxDepth (Nat.le_succ room) node

/-- A tag becomes a call. -/
theorem eq_call_of_yields {position : Position} {name : String} {attributes : List Attribute}
    {blockPosition : Option Position} {children : List Markup} {w v : Workspace ι}
    {tree : CallTree ι} {room : Nat}
    (h : Yields (compileWithin options lookup room
      (.tag position name attributes blockPosition children)) w tree v) :
    ∃ arguments, tree = .call options.factory arguments := by
  rw [compile_within_eq] at h
  obtain ⟨props, u, -, h⟩ := yields_bind.mp h
  obtain ⟨items, _, -, hend⟩ := yields_bind.mp h
  exact ⟨_, (yields_pure.mp hend).1.symm⟩

/-- Composition can be eliminated. Where a tag with no extended template in it or in the overrides
compiles, it has exactly one expansion, a tag as well, and compiled without overrides from the same
interpolations the expansion gives the same call, takes the same interpolations and gives the same
warnings. -/
theorem compile_expanded (options : Options) (lookup : Lookup)
    (hlookup : AllOverrides Markup.extendsNothing lookup)
    (position : Position) (name : String) (attributes : List Attribute)
    (blockPosition : Option Position) (children : List Markup)
    (hchildren : Markup.allOf Markup.extendsNothing children = true)
    (w v : Workspace ι) (result : CallTree ι)
    (h : (compile options lookup
      (.tag position name attributes blockPosition children)).run.run w = (.ok result, v)) :
    ∃ expanded,
      (∀ nodes, Expands lookup (.tag position name attributes blockPosition children) nodes ↔
        nodes = [.tag position name attributes blockPosition expanded]) ∧
      ∃ final,
        (compile options (fun _ => none)
          (.tag position name attributes blockPosition expanded)).run.run w = (.ok result, final) ∧
        final.cursor = v.cursor ∧ Event.warnings final.events = Event.warnings v.events := by
  have htag : (Markup.tag position name attributes blockPosition children).all
      Markup.extendsNothing = true := by
    rw [Markup.all, hchildren]
    rfl
  obtain ⟨nodes, hexpands, trees, final, htrees, hsame, hflat⟩ :=
    simulated_descend_within options hlookup (options.maxDepth.toNat + 1) _ w result v w htag h
      ⟨rfl, rfl⟩
  cases hexpands with
  | tag _ _ _ _ _ expanded hall =>
      have hexpands := Expands.tag position name attributes blockPosition _ _ hall
      obtain ⟨tree, htree, rfl⟩ := yields_mapM_singleton.mp htrees
      refine ⟨expanded, ?_, final, ?_, hsame.1.symm, hsame.2.symm⟩
      · intro nodes
        constructor
        · intro hother
          exact expands_unique hother hexpands
        · rintro rfl
          exact hexpands
      · -- Both results are calls, which stand for themselves among the items.
        obtain ⟨arguments, rfl⟩ := eq_call_of_yields h
        obtain ⟨others, rfl⟩ := eq_call_of_yields htree
        have heq : CallTree.call options.factory others = .call options.factory arguments :=
          List.singleton_inj.mp hflat
        exact heq ▸ htree

/-- A tag with an included template and with a block whose override holds another block, and with a
placeholder that is met twice. -/
theorem compile_expanded_overridden :
    let options : Options := ⟨"h", [], false, 4⟩
    let paragraph : Markup := .tag ⟨0, 0⟩ "p" [] none [.text ⟨0, 0⟩ "x"]
    let first : Markup := .text ⟨0, 0⟩ "/~0~/"
    let last : Markup := .text ⟨0, 0⟩ "y /~0~/"
    let lookup := overriding "a" [paragraph, .namedBlock ⟨0, 0⟩ "b" [last]]
    let tag (children : List Markup) : Markup := .tag ⟨0, 0⟩ "div" [] none children
    let w : Workspace Nat := ⟨.ofList [.interpolation 5], []⟩
    ∃ result v,
      (compile options lookup (tag [.included ⟨0, 0⟩ none (.block ⟨0, 0⟩ [first]),
        .namedBlock ⟨0, 0⟩ "a" []])).run.run w = (.ok result, v) ∧
      Event.warnings v.events = [.placeholderDropped 0 1] ∧
      ∃ final,
        (compile options (fun _ => none) (tag [first, paragraph, last])).run.run w =
          (.ok result, final) ∧
        final.cursor = v.cursor ∧ Event.warnings final.events = Event.warnings v.events := by
  intro options paragraph first last lookup tag w
  have hlookup : AllOverrides Markup.extendsNothing lookup := all_overrides_overriding rfl
  have hoverride : ExpandsAll lookup [paragraph, .namedBlock ⟨0, 0⟩ "b" [last]]
      [paragraph, last] :=
    .cons _ _ [paragraph] [last]
      (.tag _ _ _ _ _ _ (.cons _ _ [.text ⟨0, 0⟩ "x"] [] (.text _ _) .nil))
      (.cons _ _ [last] [] (.namedBlock _ _ _ _ rfl (.cons _ _ [last] [] (.text _ _) .nil)) .nil)
  have hexpands : Expands lookup (tag [.included ⟨0, 0⟩ none (.block ⟨0, 0⟩ [first]),
      .namedBlock ⟨0, 0⟩ "a" []]) [tag [first, paragraph, last]] :=
    .tag _ _ _ _ _ _ (.cons _ _ [first] [paragraph, last]
      (.included _ _ _ _ (.block _ _ _ (.cons _ _ [first] [] (.text _ _) .nil)))
      (.cons _ _ [paragraph, last] [] (.overridden _ _ _ _ _ rfl hoverride) .nil))
  have hrun : (match (compile options lookup (tag [.included ⟨0, 0⟩ none
      (.block ⟨0, 0⟩ [first]), .namedBlock ⟨0, 0⟩ "a" []])).run.run w with
    | (.ok _, v) => decide (Event.warnings v.events = [.placeholderDropped 0 1])
    | (.error _, _) => false) = true := by decide +kernel
  cases hcompile : (compile options lookup (tag [.included ⟨0, 0⟩ none (.block ⟨0, 0⟩ [first]),
      .namedBlock ⟨0, 0⟩ "a" []])).run.run w with
  | mk outcome v =>
      cases outcome with
      | error fault =>
          rw [hcompile] at hrun
          cases hrun
      | ok result =>
          rw [hcompile] at hrun
          obtain ⟨expanded, hunique, hfinal⟩ :=
            compile_expanded options lookup hlookup _ _ _ _ _ rfl w v result hcompile
          have heq : tag [first, paragraph, last] = tag expanded :=
            List.singleton_inj.mp ((hunique _).mp hexpands)
          rw [← show tag expanded = .tag ⟨0, 0⟩ "div" [] none expanded from rfl, ← heq] at hfinal
          exact ⟨result, v, rfl, of_decide_eq_true hrun, hfinal⟩

end Compiler

end ElementMarkup
