import ElementMarkup.Proofs.Loading

/-!
# What a parser builds

A parser makes nodes out of tokens in a few ways: texts, empty regions and tags with inline content
come from tokens, a template comes from the loader, and content is added to a node that is there
already. `Closed` says of a property that each of these ways leads to nodes with the property, as
long as the names of tags and the templates are as they should be. Then all nodes of the state have
it after every token (`ends_step_of_closed`), and so has the tree (`ends_parse_of_closed`), also if
the templates in it are loaded in the same way (`of_yields_parse_within`).
-/

namespace ElementMarkup

open Attempt

namespace Parser

variable {context : Context} {names : String → Prop} {loads : String → Markup → Prop}
  {p : Markup → Prop}

/-- A property that the nodes have which a parser builds, if the names of tags are among `names` and
`loads` relates the paths of templates to them. -/
structure Closed (names : String → Prop) (loads : String → Markup → Prop)
    (p : Markup → Prop) : Prop where
  text (position : Position) (value : String) : p (textNode position value)
  namedBlock (position : Position) (name : String) : p (.namedBlock position name [])
  tag {tag : OpenTag} {inline : List Markup} :
    names tag.name → (∀ node ∈ inline, p node) → p (tag.close inline)
  attach {context : Context} {node result : Markup} {content : List Markup} :
    p node → (∀ inner ∈ content, p inner) → attach context node content = .ok result → p result
  included {position : Position} {path : String} {tree : Markup} :
    loads path tree → p (.included position (some path) tree)
  extended {position : Position} {path : String} {tree : Markup} :
    loads path tree → p (.extended position (some path) tree)
  root {nodes : List Markup} : (∀ node ∈ nodes, p node) → p (.block ⟨1, 0⟩ nodes)

/-- If the token starts a tag, the name of the tag is one of the names. -/
def HasName (names : String → Prop) (t : Token) : Prop :=
  ∀ name, t.lexeme = .tagName name → names name

/-- The nodes of the current line. -/
def Phase.chain : Phase → List Markup
  | lineStart => []
  | afterColon chain => chain
  | inTag _ chain => chain
  | afterDot _ chain => chain
  | afterTag chain => chain
  | lineEnd chain => chain
  | afterLine chain => chain

/-- The tag that is being read. -/
def Phase.openTag? : Phase → Option OpenTag
  | inTag tag _ => some tag
  | afterDot tag _ => some tag
  | _ => none

/-- The nodes of the current line have the property, and the tag that is being read has one of the
names. -/
structure Phase.Has (names : String → Prop) (p : Markup → Prop) (phase : Phase) : Prop where
  chain : ∀ node ∈ phase.chain, p node
  name : ∀ tag ∈ phase.openTag?, names tag.name

/-- All nodes that the construction has so far have the property. -/
structure State.Has (names : String → Prop) (p : Markup → Prop) (state : State) : Prop where
  openLines : ∀ line ∈ state.openLines, (∀ node ∈ line.chain, p node) ∧ ∀ node ∈ line.before, p node
  nodes : ∀ node ∈ state.nodes, p node
  phase : state.phase.Has names p

/-- A phase in which no tag is being read. -/
theorem Phase.Has.of_chain {phase : Phase} (htag : phase.openTag? = none)
    (h : ∀ node ∈ phase.chain, p node) : phase.Has names p :=
  ⟨h, fun _ hmem => by rw [htag] at hmem; cases hmem⟩

section

variable (hp : Closed names loads p)

include hp

/-- The nodes of a line have the property when they are inside each other. -/
theorem nest_of_closed {inner result : Markup} {chain : List Markup} (hinner : p inner)
    (hchain : ∀ node ∈ chain, p node) (h : nest context inner chain = .ok result) : p result := by
  induction chain generalizing inner with
  | nil =>
      cases h
      exact hinner
  | cons outer chain ih =>
      obtain ⟨houter, hmore⟩ := List.forall_mem_cons.mp hchain
      obtain ⟨node, hattach, hnest⟩ := bind_eq_ok.mp h
      exact ih (hp.attach houter (List.forall_mem_singleton.mpr hinner) hattach) hmore hnest

/-- The node of a line has the property when its content is inside it. -/
theorem close_line_of_closed {chain content closed : List Markup} (hchain : ∀ node ∈ chain, p node)
    (hcontent : ∀ node ∈ content, p node) (h : closeLine context chain content = .ok closed) :
    ∀ node ∈ closed, p node := by
  cases chain with
  | nil =>
      cases h
      exact List.forall_mem_nil _
  | cons inner outer =>
      obtain ⟨hinner, houter⟩ := List.forall_mem_cons.mp hchain
      obtain ⟨node, hattach, h⟩ := bind_eq_ok.mp h
      obtain ⟨result, hnest, hend⟩ := bind_eq_ok.mp h
      cases hend
      exact List.forall_mem_singleton.mpr
        (nest_of_closed hp (hp.attach hinner hcontent hattach) houter hnest)

omit hp in
/-- The end of a line does not change its nodes. -/
theorem has_end_line {chain : List Markup} {t : Token} {phase : Phase}
    (hchain : ∀ node ∈ chain, p node) (h : endLine context chain t = .ok phase) :
    phase.Has names p := by
  unfold endLine at h
  split at h <;> cases h
  exact .of_chain rfl hchain

omit hp in
/-- What follows a tag does not change the nodes of the line. -/
theorem has_after_tag {chain : List Markup} {t : Token} {phase : Phase}
    (hchain : ∀ node ∈ chain, p node) (h : afterTag context chain t = .ok phase) :
    phase.Has names p := by
  unfold afterTag at h
  split at h
  · cases h
    exact .of_chain rfl hchain
  · exact has_end_line hchain h

/-- What follows the dot of a tag closes the tag. -/
theorem has_after_dot {tag : OpenTag} {chain : List Markup} {t : Token} {phase : Phase}
    (hname : names tag.name) (hchain : ∀ node ∈ chain, p node)
    (h : afterDot context tag chain t = .ok phase) : phase.Has names p := by
  unfold afterDot at h
  split at h
  · cases h
    refine .of_chain rfl (List.forall_mem_cons.mpr ⟨hp.tag hname ?_, hchain⟩)
    exact List.forall_mem_singleton.mpr (hp.text _ _)
  · refine has_after_tag (List.forall_mem_cons.mpr ⟨hp.tag hname ?_, hchain⟩) h
    exact List.forall_mem_nil _

/-- What follows a tag name goes into the tag or closes it. -/
theorem has_in_tag {tag : OpenTag} {chain : List Markup} {t : Token} {phase : Phase}
    (hname : names tag.name) (hchain : ∀ node ∈ chain, p node)
    (h : inTag context tag chain t = .ok phase) : phase.Has names p := by
  have hopen {attributes : List Attribute} :
      ∀ other ∈ some { tag with attributes }, names other.name := by
    rintro _ ⟨⟩
    exact hname
  unfold inTag at h
  split at h
  · cases h
    exact ⟨hchain, hopen⟩
  · cases h
    exact ⟨hchain, hopen⟩
  · cases h
    exact ⟨hchain, hopen⟩
  · cases h
    exact ⟨hchain, hopen⟩
  · exact has_after_dot hp hname hchain h

variable (hload : ∀ path line, Ends (context.load path line) (loads path) fun _ => True)

include hload

/-- The first token of an item makes a node, or starts a tag, with the template that is loaded if it
asks for one. -/
theorem ends_begin_item_of_closed {nested : Bool} {chain : List Markup}
    (hchain : ∀ node ∈ chain, p node) {t : Token} (ht : HasName names t) :
    Ends (beginItem context nested chain t) (Phase.Has names p) fun _ => True := by
  have hcons {node : Markup} (hnode : p node) : Phase.Has names p (.lineEnd (node :: chain)) :=
    .of_chain rfl (List.forall_mem_cons.mpr ⟨hnode, hchain⟩)
  unfold beginItem
  split
  · rename_i name hlexeme
    refine ends_pure ⟨hchain, ?_⟩
    rintro _ ⟨⟩
    exact ht name hlexeme
  · exact ends_pure (hcons (hp.text _ _))
  · split
    · exact ends_pure (hcons (hp.namedBlock _ _))
    · exact ends_throw trivial
  · exact ends_throw trivial
  · have hextends (path : String) : Ends (do
        let tree ← context.load path t.position.line
        return .lineEnd (.extended t.position (some path) tree :: chain) : Logged Phase)
        (Phase.Has names p) fun _ => True :=
      ends_bind (hload _ _) fun tree htree => ends_pure (hcons (hp.extended htree))
    dsimp only
    split
    · rw [throw_bind]
      exact ends_throw trivial
    · exact hextends _
  · exact ends_bind (hload _ _) fun tree htree => ends_pure (hcons (hp.included htree))
  · exact ends_throw trivial

/-- A token that starts a line or ends a level leaves all nodes with the property. -/
theorem ends_begin_line_of_closed {openLines : List OpenLine} {nodes : List Markup}
    (hopen : ∀ line ∈ openLines, (∀ node ∈ line.chain, p node) ∧ ∀ node ∈ line.before, p node)
    (hnodes : ∀ node ∈ nodes, p node) {t : Token} (ht : HasName names t) :
    Ends (beginLine context openLines nodes t) (State.Has names p) fun _ => True := by
  have hstart : Phase.Has names p .lineStart := .of_chain rfl (List.forall_mem_nil _)
  have hitem : Ends
      (do return ⟨openLines, nodes, ← beginItem context (!openLines.isEmpty) [] t⟩ : Logged State)
      (State.Has names p) fun _ => True :=
    ends_bind (ends_begin_item_of_closed hp hload (List.forall_mem_nil _) ht) fun _ hphase =>
      ends_pure ⟨hopen, hnodes, hphase⟩
  unfold beginLine
  split
  · exact ends_throw trivial
  · rename_i line openLines _
    obtain ⟨⟨hchain, hbefore⟩, hmore⟩ := List.forall_mem_cons.mp hopen
    refine ends_bind (ends_lift_except (fun _ h => close_line_of_closed hp hchain hnodes h)
      fun _ _ => trivial) fun closed hclosed => ends_pure ⟨hmore, ?_, hstart⟩
    exact List.forall_mem_append.mpr ⟨hbefore, hclosed⟩
  · exact ends_throw trivial
  · exact ends_pure ⟨hopen, hnodes, hstart⟩
  · exact ends_throw trivial
  · dsimp only
    split
    · rw [throw_bind]
      exact ends_throw trivial
    · exact hitem
  · exact hitem

/-- One more token leaves all nodes with the property. -/
theorem ends_step_of_closed {state : State} (h : state.Has names p) {t : Token}
    (ht : HasName names t) :
    Ends (step context state t) (State.Has names p) fun _ => True := by
  obtain ⟨openLines, nodes, phase⟩ := state
  obtain ⟨hopen, hnodes, hchain, hname⟩ := h
  -- Inside a line only the phase changes.
  have hphase {result : Except Fault Phase}
      (hresult : ∀ next, result = .ok next → next.Has names p) :
      Ends (do return ⟨openLines, nodes, ← liftExcept result⟩ : Logged State)
        (State.Has names p) fun _ => True :=
    ends_bind (ends_lift_except hresult fun _ _ => trivial) fun _ hnext =>
      ends_pure ⟨hopen, hnodes, hnext⟩
  cases phase with
  | lineStart => exact ends_begin_line_of_closed hp hload hopen hnodes ht
  | afterColon chain =>
      exact ends_bind (ends_begin_item_of_closed hp hload hchain ht) fun _ hnext =>
        ends_pure ⟨hopen, hnodes, hnext⟩
  | inTag tag chain => exact hphase fun _ => has_in_tag hp (hname tag rfl) hchain
  | afterDot tag chain => exact hphase fun _ => has_after_dot hp (hname tag rfl) hchain
  | afterTag chain => exact hphase fun _ => has_after_tag hchain
  | lineEnd chain => exact hphase fun _ => has_end_line hchain
  | afterLine chain =>
      unfold step
      dsimp only
      split
      · exact ends_pure ⟨List.forall_mem_cons.mpr ⟨⟨hchain, hnodes⟩, hopen⟩,
          List.forall_mem_nil _, .of_chain rfl (List.forall_mem_nil _)⟩
      · refine ends_bind (ends_lift_except
          (fun _ h => close_line_of_closed hp hchain (List.forall_mem_nil _) h) fun _ _ => trivial)
          fun closed hclosed => ?_
        exact ends_begin_line_of_closed hp hload hopen
          (List.forall_mem_append.mpr ⟨hnodes, hclosed⟩) ht

/-- Tokens leave all nodes with the property. -/
theorem ends_foldlM_of_closed {tokens : List Token} (htokens : ∀ t ∈ tokens, HasName names t)
    {state : State} (h : state.Has names p) :
    Ends (tokens.foldlM (step context) state) (State.Has names p) fun _ => True := by
  induction tokens generalizing state with
  | nil => exact ends_pure h
  | cons t tokens ih =>
      obtain ⟨ht, hmore⟩ := List.forall_mem_cons.mp htokens
      rw [List.foldlM_cons]
      exact ends_bind (ends_step_of_closed hp hload h ht) fun _ hnext => ih hmore hnext

omit hp hload in
/-- The tokens up to the end of the source are tokens of the source. -/
theorem mem_of_mem_up_to_end {tokens : List Token} {t : Token} (h : t ∈ upToEnd tokens) :
    t ∈ tokens := by
  unfold upToEnd at h
  split at h
  · rename_i last _ hlast
    rcases List.mem_append.mp h with h | h
    · exact (List.takeWhile_prefix _).subset h
    · obtain rfl := List.mem_singleton.mp h
      exact List.mem_of_find?_eq_some hlast
  · rename_i last _ hlast
    rcases List.mem_append.mp h with h | h
    · exact h
    · rw [List.eq_of_mem_replicate h]
      exact List.mem_of_getLast? hlast
  · cases h

/-- The tree of a token list has the property. -/
theorem ends_parse_of_closed {tokens : List Token} (htokens : ∀ t ∈ tokens, HasName names t) :
    Ends (parse context tokens) p fun _ => True := by
  have hstart : State.Has names p .start :=
    ⟨List.forall_mem_nil _, List.forall_mem_nil _, .of_chain rfl (List.forall_mem_nil _)⟩
  have hrest : Ends
      (do return .block ⟨1, 0⟩ (← (upToEnd tokens).foldlM (step context) .start).nodes :
        Logged Markup) p fun _ => True :=
    ends_bind (ends_foldlM_of_closed hp hload (fun t ht => htokens t (mem_of_mem_up_to_end ht))
      hstart) fun _ hfinal => ends_pure (hp.root hfinal.nodes)
  unfold parse
  dsimp only
  split
  · rw [throw_bind]
    exact ends_throw trivial
  · exact hrest

end

end Parser

namespace Environment

variable {env : Environment}

/-- A property of the tree of every source holds however many templates are loaded, if it holds
whenever it holds of the templates that the source asks for. -/
theorem of_yields_parse_within {p : Markup → Prop}
    (hsource : ∀ {name : Option String} {load : String → Logged Markup} {source : String}
      {tree : Markup} {before after : List Event},
      (∀ path tree before after, Yields (load path) before tree after → p tree) →
      Yields (parseSource name load source) before tree after → p tree)
    {room : Nat} {stack : List String} {name : Option String} {source : String} {tree : Markup}
    {before after : List Event}
    (h : Yields (env.parseWithin room stack name source) before tree after) : p tree := by
  induction room generalizing stack name source tree before after with
  | zero =>
      refine hsource (fun path tree before after hload => ?_) h
      obtain ⟨-, _, _, _, hnext, -⟩ := exists_of_yields_load hload
      cases hnext
  | succ room ih =>
      refine hsource (fun path tree before after hload => ?_) h
      obtain ⟨-, _, _, _, hnext, -, hparse⟩ := exists_of_yields_load hload
      cases hnext
      exact ih hparse

end Environment

end ElementMarkup
