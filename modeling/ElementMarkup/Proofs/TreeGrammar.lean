import ElementMarkup.Proofs.Grammar
import ElementMarkup.Proofs.Print.RoundTrip

/-!
# Trees and their tokens

A grammar that says which tree a list of tokens stands for, without a state. A line is a chain of
nodes, each inside the one before it (`LineOf`), and the lines of a level are siblings, with a
deeper level inside the last node of the line above it (`LevelOf`). Templates are loaded in the
order of the tokens, so each relation also tells the events before and after. Main statement:
`yields_parse_iff`, the parser gives exactly the trees of this grammar. One direction follows the
parser token by token with the invariant `StateOf`, the other one goes by induction on the grammar.
-/

namespace ElementMarkup

/-- The attribute that a lexeme gives to a tag. -/
def Lexeme.attribute? : Lexeme → Option Attribute
  | .idName value => some ⟨"id", value⟩
  | .className value => some ⟨"class", value⟩
  | .attributePair name value => some ⟨name, value⟩
  | _ => none

namespace Parser

open Attempt Print

/-! ## The grammar -/

/-- The attributes that tokens give to a tag. -/
def attributesOf (tokens : List Token) : List Attribute :=
  tokens.filterMap fun t => t.lexeme.attribute?

/-- A node and the same node with content behind what it holds already. Only tags and named blocks
can hold content. -/
inductive Holds : Markup → List Markup → Markup → Prop where
  | nothing (node : Markup) : Holds node [] node
  | tag {position : Position} {name : String} {attributes : List Attribute}
      {blockPosition : Option Position} {children content : List Markup} (h : content ≠ []) :
      Holds (.tag position name attributes blockPosition children) content
        (.tag position name attributes (some ⟨position.line, 0⟩) (children ++ content))
  | region {position : Position} {name : String} {nodes content : List Markup} (h : content ≠ []) :
      Holds (.namedBlock position name nodes) content (.namedBlock position name (nodes ++ content))

/-- The nodes of a line with the outermost first, some content, and the node that results: each node
of the line holds the next one, and the last one holds the content. -/
inductive Hangs : List Markup → List Markup → Markup → Prop where
  | last {node result : Markup} {content : List Markup} (h : Holds node content result) :
      Hangs [node] content result
  | outer {node inner result : Markup} {chain content : List Markup}
      (hinner : Hangs chain content inner) (h : Holds node [inner] result) :
      Hangs (node :: chain) content result

/-- The dot of a tag, if there is one. -/
def IsOptionalDot (tokens : List Token) : Prop :=
  tokens = [] ∨ ∃ dot : Token, tokens = [dot] ∧ dot.lexeme = .dot

/-- The inline text of a tag, if there is one, and its node. -/
inductive InlineOf : List Token → List Markup → Prop where
  | nothing : InlineOf [] []
  | text {t : Token} {value : String} (h : t.lexeme = .text value) :
      InlineOf [t] [.text t.position value]

/-- The tokens of a tag: its name, its attributes, perhaps a dot, and its inline text, which is its
first child. -/
inductive TagOf : List Token → Markup → Prop where
  | intro {start : Token} {name : String} {attributes dot inline : List Token}
      {children : List Markup} (hname : start.lexeme = .tagName name)
      (hattributes : ∀ t ∈ attributes, t.lexeme.isAttribute = true) (hdot : IsOptionalDot dot)
      (hinline : InlineOf inline children) :
      TagOf (start :: attributes ++ dot ++ inline)
        (.tag start.position name (attributesOf attributes) (some ⟨start.position.line, 0⟩)
          children)

/-- The tokens of a line without its end, and its nodes with the outermost first. A colon after a
tag puts the rest of the line inside the tag. The line extends another template only if it is the
first one of all. -/
inductive LineOf (context : Context) :
    Bool → List Event → List Token → List Markup → List Event → Prop where
  | tag {first : Bool} {events : List Event} {tokens : List Token} {node : Markup}
      (h : TagOf tokens node) : LineOf context first events tokens [node] events
  | text {first : Bool} {events : List Event} {t : Token} {value : String}
      (h : t.lexeme = .text value) :
      LineOf context first events [t] [.text t.position value] events
  | region {first : Bool} {events : List Event} {t : Token} {name : String}
      (h : t.lexeme = .blockName (.text name)) (hname : isBlockName name.toList = true) :
      LineOf context first events [t] [.namedBlock t.position name []] events
  | included {first : Bool} {before after : List Event} {t : Token} {path : String} {tree : Markup}
      (h : t.lexeme = .includePath path)
      (hload : Yields (context.load path t.position.line) before tree after) :
      LineOf context first before [t] [.included t.position (some path) tree] after
  | extended {before after : List Event} {t : Token} {path : String} {tree : Markup}
      (h : t.lexeme = .extendsPath path)
      (hload : Yields (context.load path t.position.line) before tree after) :
      LineOf context true before [t] [.extended t.position (some path) tree] after
  | expansion {first : Bool} {before after : List Event} {tokens more : List Token} {colon : Token}
      {node : Markup} {chain : List Markup} (h : TagOf tokens node)
      (hcolon : colon.lexeme = .colon) (hmore : LineOf context false before more chain after) :
      LineOf context first before (tokens ++ colon :: more) (node :: chain) after

/-- The tokens of a level and its nodes. Each line is a node of its own, which holds the level that
is indented below the line, if there is one. -/
inductive LevelOf (context : Context) :
    Bool → List Event → List Token → List Markup → List Event → Prop where
  | nil {top : Bool} {events : List Event} : LevelOf context top events [] [] events
  | line {top : Bool} {before between after : List Event} {above tokens : List Token}
      {newline : Token} {nodes chain : List Markup} {node : Markup}
      (habove : LevelOf context top before above nodes between)
      (hline : LineOf context (top && nodes.isEmpty) between tokens chain after)
      (hnewline : newline.lexeme = .newline) (hnode : Hangs chain [] node) :
      LevelOf context top before (above ++ tokens ++ [newline]) (nodes ++ [node]) after
  | nested {top : Bool} {before between inside after : List Event}
      {above tokens below : List Token} {newline indent outdent : Token}
      {nodes chain content : List Markup} {node : Markup}
      (habove : LevelOf context top before above nodes between)
      (hline : LineOf context (top && nodes.isEmpty) between tokens chain inside)
      (hnewline : newline.lexeme = .newline) (hindent : indent.lexeme.isIndent = true)
      (hbelow : LevelOf context false inside below content after)
      (houtdent : outdent.lexeme.isOutdent = true) (hnode : Hangs chain content node) :
      LevelOf context top before (above ++ tokens ++ newline :: indent :: below ++ [outdent])
        (nodes ++ [node]) after

/-! ## Chains -/

variable {context : Context}

/-- Content is put inside a node exactly if the node can hold it. -/
theorem attach_eq_ok_iff {node result : Markup} {content : List Markup} :
    attach context node content = .ok result ↔ Holds node content result := by
  constructor
  · intro h
    unfold attach at h
    split at h
    · cases h
      exact .nothing node
    · rename_i hne
      cases h
      exact .tag hne
    · rename_i hne
      cases h
      exact .region hne
    · cases h
  · intro h
    cases h with
    | nothing => rfl
    | tag hne =>
        obtain ⟨first, more, rfl⟩ := List.exists_cons_of_ne_nil hne
        rfl
    | region hne =>
        obtain ⟨first, more, rfl⟩ := List.exists_cons_of_ne_nil hne
        rfl

/-- The outermost node of a line is the last one that is put around the others. -/
theorem nest_concat_eq_ok_iff {inner outer result : Markup} {chain : List Markup} :
    nest context inner (chain ++ [outer]) = .ok result ↔
      ∃ node, nest context inner chain = .ok node ∧ attach context outer [node] = .ok result := by
  induction chain generalizing inner with
  | nil =>
      show (attach context outer [inner] >>= fun node => .ok node) = .ok result ↔ _
      rw [bind_eq_ok]
      constructor
      · rintro ⟨node, hnode, heq⟩
        cases heq
        exact ⟨inner, rfl, hnode⟩
      · rintro ⟨node, heq, hnode⟩
        cases heq
        exact ⟨result, hnode, rfl⟩
  | cons next chain ih =>
      simp only [List.cons_append, nest, bind_eq_ok, ih]
      constructor
      · rintro ⟨first, hfirst, node, hnode, hresult⟩
        exact ⟨node, ⟨first, hfirst, hnode⟩, hresult⟩
      · rintro ⟨node, ⟨first, hfirst, hnode⟩, hresult⟩
        exact ⟨first, hfirst, node, hnode, hresult⟩

/-- A line is closed with one node. -/
theorem close_line_cons_eq_ok_iff {inner : Markup} {outer content closed : List Markup} :
    closeLine context (inner :: outer) content = .ok closed ↔
      ∃ node result, attach context inner content = .ok node ∧
        nest context node outer = .ok result ∧ closed = [result] := by
  simp only [closeLine, bind_eq_ok]
  constructor
  · rintro ⟨node, hnode, result, hresult, heq⟩
    cases heq
    exact ⟨node, result, hnode, hresult, rfl⟩
  · rintro ⟨node, result, hnode, hresult, rfl⟩
    exact ⟨node, hnode, result, hresult, rfl⟩

/-- A line is closed with exactly the node that its nodes make up. -/
theorem close_line_reverse_eq_ok_iff {chain content closed : List Markup} (h : chain ≠ []) :
    closeLine context chain.reverse content = .ok closed ↔
      ∃ node, Hangs chain content node ∧ closed = [node] := by
  induction chain generalizing closed with
  | nil => exact absurd rfl h
  | cons node chain ih =>
      cases chain with
      | nil =>
          rw [List.reverse_singleton, close_line_cons_eq_ok_iff]
          constructor
          · rintro ⟨first, result, hfirst, hresult, rfl⟩
            cases hresult
            exact ⟨first, .last (attach_eq_ok_iff.mp hfirst), rfl⟩
          · rintro ⟨result, hhangs, rfl⟩
            cases hhangs with
            | last hholds => exact ⟨result, result, attach_eq_ok_iff.mpr hholds, rfl, rfl⟩
            | outer hinner _ => cases hinner
      | cons next chain =>
          -- The line without its outermost node is not empty, so that the induction applies to it.
          obtain ⟨inner, outer, hreverse⟩ := List.exists_cons_of_ne_nil
            (List.reverse_ne_nil_iff.mpr (List.cons_ne_nil next chain))
          have hchain (node : Markup) := @ih [node] (List.cons_ne_nil next chain)
          simp only [hreverse, close_line_cons_eq_ok_iff, List.cons.injEq, and_true] at hchain
          rw [List.reverse_cons, hreverse, List.cons_append, close_line_cons_eq_ok_iff]
          simp only [nest_concat_eq_ok_iff]
          constructor
          · rintro ⟨first, result, hfirst, ⟨middle, hmiddle, hresult⟩, rfl⟩
            obtain ⟨_, hhangs, rfl⟩ := (hchain middle).mp ⟨first, middle, hfirst, hmiddle, rfl⟩
            exact ⟨result, .outer hhangs (attach_eq_ok_iff.mp hresult), rfl⟩
          · rintro ⟨result, hhangs, rfl⟩
            cases hhangs with
            | outer hinner hholds =>
                obtain ⟨first, _, hfirst, hmiddle, rfl⟩ := (hchain _).mpr ⟨_, hinner, rfl⟩
                exact ⟨first, result, hfirst, ⟨_, hmiddle, attach_eq_ok_iff.mpr hholds⟩, rfl⟩

/-! ## What has been read -/

/-- Tags with a colon after each of them, and their nodes with the innermost first. -/
inductive OuterOf : List Token → List Markup → Prop where
  | nil : OuterOf [] []
  | cons {tokens more : List Token} {colon : Token} {node : Markup} {chain : List Markup}
      (h : OuterOf tokens chain) (htag : TagOf more node) (hcolon : colon.lexeme = .colon) :
      OuterOf (tokens ++ more ++ [colon]) (node :: chain)

/-- How far a line has been read, and the tokens that have been read of it. -/
inductive PhaseOf (context : Context) (first : Bool) (before : List Event) :
    List Token → Phase → List Event → Prop where
  | lineStart : PhaseOf context first before [] .lineStart before
  | afterColon {tokens : List Token} {chain : List Markup} (h : OuterOf tokens chain)
      (hne : chain ≠ []) : PhaseOf context first before tokens (.afterColon chain) before
  | inTag {tokens attributes : List Token} {start : Token} {name : String} {chain : List Markup}
      (h : OuterOf tokens chain) (hname : start.lexeme = .tagName name)
      (hattributes : ∀ t ∈ attributes, t.lexeme.isAttribute = true) :
      PhaseOf context first before (tokens ++ start :: attributes)
        (.inTag ⟨start.position, name, attributesOf attributes⟩ chain) before
  | afterDot {tokens attributes : List Token} {start dot : Token} {name : String}
      {chain : List Markup} (h : OuterOf tokens chain) (hname : start.lexeme = .tagName name)
      (hattributes : ∀ t ∈ attributes, t.lexeme.isAttribute = true) (hdot : dot.lexeme = .dot) :
      PhaseOf context first before (tokens ++ (start :: attributes ++ [dot]))
        (.afterDot ⟨start.position, name, attributesOf attributes⟩ chain) before
  | afterTag {tokens more : List Token} {node : Markup} {chain : List Markup}
      (h : OuterOf tokens chain) (htag : TagOf more node) :
      PhaseOf context first before (tokens ++ more) (.afterTag (node :: chain)) before
  | lineEnd {tokens : List Token} {chain : List Markup} {after : List Event}
      (h : LineOf context first before tokens chain after) :
      PhaseOf context first before tokens (.lineEnd chain.reverse) after
  | afterLine {tokens : List Token} {newline : Token} {chain : List Markup} {after : List Event}
      (h : LineOf context first before tokens chain after)
      (hnewline : newline.lexeme = .newline) :
      PhaseOf context first before (tokens ++ [newline]) (.afterLine chain.reverse) after

/-- The lines that are open with the innermost first, and the tokens up to the level below them. -/
inductive OpenOf (context : Context) (before : List Event) :
    List Token → List OpenLine → List Event → Prop where
  | nil : OpenOf context before [] [] before
  | cons {outer above tokens : List Token} {newline indent : Token} {openLines : List OpenLine}
      {nodes chain : List Markup} {between inside after : List Event}
      (houter : OpenOf context before outer openLines between)
      (habove : LevelOf context openLines.isEmpty between above nodes inside)
      (hline : LineOf context (openLines.isEmpty && nodes.isEmpty) inside tokens chain after)
      (hnewline : newline.lexeme = .newline) (hindent : indent.lexeme.isIndent = true) :
      OpenOf context before (outer ++ (above ++ tokens ++ [newline, indent]))
        (⟨chain.reverse, nodes⟩ :: openLines) after

/-- The state of the parser and the tokens that have been read. -/
inductive StateOf (context : Context) (before : List Event) :
    List Token → State → List Event → Prop where
  | intro {outer above tokens : List Token} {openLines : List OpenLine} {nodes : List Markup}
      {phase : Phase} {between inside after : List Event}
      (houter : OpenOf context before outer openLines between)
      (habove : LevelOf context openLines.isEmpty between above nodes inside)
      (hphase : PhaseOf context (openLines.isEmpty && nodes.isEmpty) inside tokens phase after) :
      StateOf context before (outer ++ above ++ tokens) ⟨openLines, nodes, phase⟩ after

variable {first : Bool} {before between after : List Event} {tokens more : List Token} {t : Token}
  {chain outer nodes : List Markup} {phase : Phase}

/-- A line has at least one node. -/
theorem LineOf.ne_nil (h : LineOf context first before tokens chain after) : chain ≠ [] := by
  cases h <;> exact List.cons_ne_nil _ _

/-- The rest of a line is put inside the tags before it. -/
theorem OuterOf.line_of (houter : OuterOf tokens outer)
    (h : LineOf context (first && outer.isEmpty) before more chain after) :
    LineOf context first before (tokens ++ more) (outer.reverse ++ chain) after := by
  induction houter generalizing more chain with
  | nil => simpa using h
  | cons _ htag hcolon ih =>
      have hmore := ih (.expansion htag hcolon (by simpa using h))
      simpa using hmore

/-- The first token of an item. -/
theorem phase_of_begin_item {nested : Bool} (houter : OuterOf tokens outer)
    (hfirst : ∀ path, t.lexeme = .extendsPath path → nested = false → outer = [] → first = true)
    (h : Yields (beginItem context nested outer t) before phase after) :
    PhaseOf context first before (tokens ++ [t]) phase after := by
  have hitem {node : Markup} {after : List Event}
      (hline : LineOf context (first && outer.isEmpty) before [t] [node] after) :
      PhaseOf context first before (tokens ++ [t]) (.lineEnd (node :: outer)) after := by
    simpa using PhaseOf.lineEnd (houter.line_of hline)
  unfold beginItem at h
  split at h
  · rename_i name hlexeme
    obtain ⟨rfl, rfl⟩ := yields_pure.mp h
    exact .inTag houter hlexeme (List.forall_mem_nil _)
  · rename_i value hlexeme
    obtain ⟨rfl, rfl⟩ := yields_pure.mp h
    exact hitem (.text hlexeme)
  · rename_i name hlexeme
    split at h
    · rename_i hname
      obtain ⟨rfl, rfl⟩ := yields_pure.mp h
      exact hitem (.region hlexeme hname)
    · exact absurd h not_yields_throw
  · exact absurd h not_yields_throw
  · rename_i path hlexeme
    split at h
    · exact absurd h not_yields_throw
    · rename_i hallowed
      obtain ⟨hnested, hchain⟩ : nested = false ∧ outer = [] := by simpa using hallowed
      obtain ⟨tree, _, hload, hpure⟩ := yields_bind.mp h
      obtain ⟨rfl, rfl⟩ := yields_pure.mp hpure
      obtain rfl := hfirst path hlexeme hnested hchain
      subst hchain
      exact hitem (.extended hlexeme hload)
  · rename_i path hlexeme
    obtain ⟨tree, _, hload, hpure⟩ := yields_bind.mp h
    obtain ⟨rfl, rfl⟩ := yields_pure.mp hpure
    exact hitem (.included hlexeme hload)
  · exact absurd h not_yields_throw

/-- What follows a complete tag. -/
theorem phase_of_after_tag {node : Markup} (houter : OuterOf tokens outer) (htag : TagOf more node)
    (h : Parser.afterTag context (node :: outer) t = .ok phase) :
    PhaseOf context first before (tokens ++ more ++ [t]) phase before := by
  unfold Parser.afterTag at h
  split at h
  · rename_i hcolon
    cases h
    exact .afterColon (.cons houter htag hcolon) (List.cons_ne_nil _ _)
  · unfold endLine at h
    split at h
    · rename_i hnewline
      cases h
      have hline := houter.line_of (LineOf.tag htag : LineOf context (first && _) before _ _ _)
      simpa using PhaseOf.afterLine hline hnewline
    · cases h

/-- What follows a tag name with its attributes, and perhaps a dot. -/
theorem phase_of_after_dot {start : Token} {name : String} {attributes dot : List Token}
    (houter : OuterOf tokens outer) (hname : start.lexeme = .tagName name)
    (hattributes : ∀ t ∈ attributes, t.lexeme.isAttribute = true) (hdot : IsOptionalDot dot)
    (h : Parser.afterDot context ⟨start.position, name, attributesOf attributes⟩ outer t =
      .ok phase) :
    PhaseOf context first before (tokens ++ (start :: attributes ++ dot) ++ [t]) phase before := by
  unfold Parser.afterDot at h
  split at h
  · rename_i value htext
    cases h
    have htag := TagOf.intro hname hattributes hdot (.text htext)
    rw [List.append_assoc]
    exact .afterTag houter htag
  · have htag := TagOf.intro hname hattributes hdot .nothing
    rw [List.append_nil] at htag
    exact phase_of_after_tag houter htag h

/-- What follows a tag name or an attribute. -/
theorem phase_of_in_tag {start : Token} {name : String} {attributes : List Token}
    (houter : OuterOf tokens outer) (hname : start.lexeme = .tagName name)
    (hattributes : ∀ t ∈ attributes, t.lexeme.isAttribute = true)
    (h : Parser.inTag context ⟨start.position, name, attributesOf attributes⟩ outer t = .ok phase) :
    PhaseOf context first before (tokens ++ start :: attributes ++ [t]) phase before := by
  have hmore {a : Attribute} (hattribute : t.lexeme.attribute? = some a)
      (hlexeme : t.lexeme.isAttribute = true) :
      PhaseOf context first before (tokens ++ start :: attributes ++ [t])
        (.inTag ⟨start.position, name, attributesOf attributes ++ [a]⟩ outer) before := by
    have hall : ∀ u ∈ attributes ++ [t], u.lexeme.isAttribute = true := by
      intro u hu
      rcases List.mem_append.mp hu with hu | hu
      · exact hattributes u hu
      · rwa [List.mem_singleton.mp hu]
    have hphase : PhaseOf context first before _ _ before := .inTag houter hname hall
    simpa [attributesOf, hattribute] using hphase
  unfold Parser.inTag at h
  simp only at h
  split at h
  · rename_i value hlexeme
    cases h
    exact hmore (by rw [hlexeme]; rfl) (by rw [hlexeme]; rfl)
  · rename_i value hlexeme
    cases h
    exact hmore (by rw [hlexeme]; rfl) (by rw [hlexeme]; rfl)
  · rename_i other value hlexeme
    cases h
    exact hmore (by rw [hlexeme]; rfl) (by rw [hlexeme]; rfl)
  · rename_i hdot
    cases h
    rw [List.append_assoc]
    exact .afterDot houter hname hattributes hdot
  · have hphase : PhaseOf context first before _ _ before :=
      phase_of_after_dot houter hname hattributes (.inl rfl) h
    simpa using hphase

/-- A token that starts a line or ends a level. -/
theorem state_of_begin_line {openLines : List OpenLine} {state : State} {inside : List Event}
    {above : List Token} (houter : OpenOf context before tokens openLines between)
    (habove : LevelOf context openLines.isEmpty between above nodes inside)
    (hend : t.lexeme ≠ .endOfSource)
    (h : Yields (beginLine context openLines nodes t) inside state after) :
    StateOf context before (tokens ++ above ++ [t]) state after := by
  have hitem (hfirst : ∀ path, t.lexeme = .extendsPath path → nodes = [])
      (h : Yields (do return ⟨openLines, nodes, ← beginItem context (!openLines.isEmpty) [] t⟩)
        inside state after) : StateOf context before (tokens ++ above ++ [t]) state after := by
    obtain ⟨phase, _, hphase, hpure⟩ := yields_bind.mp h
    obtain ⟨rfl, rfl⟩ := yields_pure.mp hpure
    refine .intro houter habove (phase_of_begin_item .nil ?_ hphase)
    intro path hpath hnested _
    rw [hfirst path hpath]
    simpa using hnested
  unfold beginLine at h
  split at h
  · exact absurd h not_yields_throw
  · rename_i line rest hlexeme
    obtain ⟨closed, _, hlift, hpure⟩ := yields_bind.mp h
    obtain ⟨hclosed, rfl⟩ := yields_lift_except.mp hlift
    obtain ⟨rfl, rfl⟩ := yields_pure.mp hpure
    cases houter with
    | cons houter hlevel hline hnewline hindent =>
        obtain ⟨node, hhangs, rfl⟩ := (close_line_reverse_eq_ok_iff hline.ne_nil).mp hclosed
        have houtdent : t.lexeme.isOutdent = true := by rw [hlexeme]; rfl
        have hnode := LevelOf.nested hlevel hline hnewline hindent habove houtdent hhangs
        simpa using StateOf.intro houter hnode .lineStart
  · exact absurd h not_yields_throw
  · rename_i hlexeme
    exact absurd hlexeme hend
  · exact absurd h not_yields_throw
  · rename_i path hlexeme
    split at h
    · exact absurd h not_yields_throw
    · rename_i hnodes
      exact hitem (fun _ _ => by simpa using hnodes) h
  · rename_i hextends _ _ _ _
    exact hitem (fun path hpath => absurd hpath (hextends path)) h

/-- The state that one more token leads to has read that token. -/
theorem StateOf.step {state final : State} (hstate : StateOf context before tokens state between)
    (hend : t.lexeme ≠ .endOfSource)
    (h : Yields (Parser.step context state t) between final after) :
    StateOf context before (tokens ++ [t]) final after := by
  obtain ⟨houter, habove, hphase⟩ := hstate
  unfold Parser.step at h
  cases hphase with
  | lineStart =>
      rw [List.append_nil]
      exact state_of_begin_line houter habove hend h
  | afterColon houter' hne =>
      obtain ⟨phase, _, hbegin, hpure⟩ := yields_bind.mp h
      obtain ⟨rfl, rfl⟩ := yields_pure.mp hpure
      rw [List.append_assoc]
      exact .intro houter habove
        (phase_of_begin_item houter' (fun _ _ _ hnil => absurd hnil hne) hbegin)
  | inTag houter' hname hattributes =>
      obtain ⟨phase, _, hlift, hpure⟩ := yields_bind.mp h
      obtain ⟨hphase, rfl⟩ := yields_lift_except.mp hlift
      obtain ⟨rfl, rfl⟩ := yields_pure.mp hpure
      rw [List.append_assoc]
      exact .intro houter habove (phase_of_in_tag houter' hname hattributes hphase)
  | afterDot houter' hname hattributes hdot =>
      obtain ⟨phase, _, hlift, hpure⟩ := yields_bind.mp h
      obtain ⟨hphase, rfl⟩ := yields_lift_except.mp hlift
      obtain ⟨rfl, rfl⟩ := yields_pure.mp hpure
      rw [List.append_assoc]
      exact .intro houter habove
        (phase_of_after_dot houter' hname hattributes (.inr ⟨_, rfl, hdot⟩) hphase)
  | afterTag houter' htag =>
      obtain ⟨phase, _, hlift, hpure⟩ := yields_bind.mp h
      obtain ⟨hphase, rfl⟩ := yields_lift_except.mp hlift
      obtain ⟨rfl, rfl⟩ := yields_pure.mp hpure
      rw [List.append_assoc]
      exact .intro houter habove (phase_of_after_tag houter' htag hphase)
  | lineEnd hline =>
      obtain ⟨phase, _, hlift, hpure⟩ := yields_bind.mp h
      obtain ⟨hphase, rfl⟩ := yields_lift_except.mp hlift
      obtain ⟨rfl, rfl⟩ := yields_pure.mp hpure
      unfold endLine at hphase
      split at hphase
      · rename_i hnewline
        cases hphase
        rw [List.append_assoc]
        exact .intro houter habove (.afterLine hline hnewline)
      · cases hphase
  | afterLine hline hnewline =>
      simp only at h
      split at h
      · rename_i hindent
        obtain ⟨rfl, rfl⟩ := yields_pure.mp h
        have hopen := OpenOf.cons houter habove hline hnewline
          (show t.lexeme.isIndent = true by rw [hindent]; rfl)
        simpa using StateOf.intro hopen .nil .lineStart
      · obtain ⟨closed, _, hlift, hbegin⟩ := yields_bind.mp h
        obtain ⟨hclosed, rfl⟩ := yields_lift_except.mp hlift
        obtain ⟨node, hhangs, rfl⟩ := (close_line_reverse_eq_ok_iff hline.ne_nil).mp hclosed
        have hlevel := LevelOf.line habove hline hnewline hhangs
        simpa using state_of_begin_line houter hlevel hend hbegin

/-- The state that a run leads to has read the tokens of the run. -/
theorem StateOf.foldlM {state final : State} (hstate : StateOf context before tokens state between)
    (hend : ∀ t ∈ more, t.lexeme ≠ .endOfSource)
    (h : Yields (more.foldlM (Parser.step context) state) between final after) :
    StateOf context before (tokens ++ more) final after := by
  induction more generalizing tokens state between with
  | nil =>
      obtain ⟨rfl, rfl⟩ := yields_pure.mp h
      rwa [List.append_nil]
  | cons t more ih =>
      rw [List.foldlM_cons] at h
      obtain ⟨next, _, hnext, hrest⟩ := yields_bind.mp h
      rw [List.append_cons]
      exact ih (hstate.step (hend t List.mem_cons_self) hnext)
        (fun u hu => hend u (List.mem_cons_of_mem t hu)) hrest

/-- At the end of the source all that has been read is one level. -/
theorem StateOf.level_of {state final : State}
    (hstate : StateOf context before tokens state between) (hend : t.lexeme = .endOfSource)
    (h : Yields (Parser.step context state t) between final after) :
    LevelOf context true before tokens final.nodes after := by
  obtain ⟨houter, habove, hphase⟩ := hstate
  have hbegin {openLines : List OpenLine} {nodes : List Markup} {inside : List Event}
      (h : Yields (beginLine context openLines nodes t) inside final after) :
      openLines = [] ∧ final.nodes = nodes ∧ inside = after := by
    cases openLines with
    | nil =>
        simp only [beginLine, hend] at h
        obtain ⟨rfl, rfl⟩ := yields_pure.mp h
        exact ⟨rfl, rfl, rfl⟩
    | cons line openLines =>
        simp only [beginLine, hend] at h
        exact absurd h not_yields_throw
  unfold Parser.step at h
  cases hphase with
  | lineStart =>
      obtain ⟨rfl, hnodes, rfl⟩ := hbegin h
      cases houter
      rw [hnodes]
      simpa using habove
  | afterLine hline hnewline =>
      simp only [hend] at h
      obtain ⟨closed, _, hlift, hlast⟩ := yields_bind.mp h
      obtain ⟨hclosed, rfl⟩ := yields_lift_except.mp hlift
      obtain ⟨node, hhangs, rfl⟩ := (close_line_reverse_eq_ok_iff hline.ne_nil).mp hclosed
      obtain ⟨rfl, hnodes, rfl⟩ := hbegin hlast
      cases houter
      rw [hnodes]
      simpa using LevelOf.line habove hline hnewline hhangs
  | afterColon =>
      obtain ⟨_, _, hitem, _⟩ := yields_bind.mp h
      simp only [beginItem, hend] at hitem
      exact absurd hitem not_yields_throw
  | inTag | afterDot | afterTag | lineEnd =>
      obtain ⟨_, _, hlift, _⟩ := yields_bind.mp h
      simp [Parser.inTag, Parser.afterDot, Parser.afterTag, endLine, hend] at hlift

/-! ## Runs of the grammar -/

/-- The next token that can start an item does so, inside the given nodes of the line. -/
def Begins (context : Context) (state : State) (openLines : List OpenLine)
    (nodes chain : List Markup) : Prop :=
  ∀ t : Token, t.lexeme.isInside = true →
    (∀ path, t.lexeme = .extendsPath path → openLines = [] ∧ nodes = [] ∧ chain = []) →
    Parser.step context state t = do
      return ⟨openLines, nodes, ← beginItem context (!openLines.isEmpty) chain t⟩

variable {state : State} {openLines : List OpenLine}

/-- A state that rests begins a line. -/
theorem begins_of_rests (h : Rests context state openLines nodes) :
    Begins context state openLines nodes [] := by
  intro t hinside hextends
  have hindent : ∀ width, t.lexeme ≠ .indent width := by
    intro width hwidth
    rw [hwidth] at hinside
    cases hinside
  rw [h t hindent]
  cases hlexeme : t.lexeme with
  | indent | outdent | newline | endOfSource =>
      rw [hlexeme] at hinside
      cases hinside
  | extendsPath path =>
      obtain ⟨rfl, rfl, -⟩ := hextends path hlexeme
      simp only [beginLine, hlexeme]
      rfl
  | _ => simp only [beginLine, hlexeme]

/-- A colon begins the rest of a line. -/
theorem begins_after_colon (openLines : List OpenLine) (nodes chain : List Markup) :
    Begins context ⟨openLines, nodes, .afterColon chain⟩ openLines nodes chain :=
  fun _ _ _ => rfl

/-- A state after a line rests with the node of the line. -/
theorem rests_after_line_of_hangs {node : Markup} (hne : chain ≠ []) (h : Hangs chain [] node)
    (openLines : List OpenLine) (nodes : List Markup) :
    Rests context ⟨openLines, nodes, .afterLine chain.reverse⟩ openLines (nodes ++ [node]) := by
  intro t ht
  have hclosed : closeLine context chain.reverse [] = .ok [node] :=
    (close_line_reverse_eq_ok_iff hne).mpr ⟨node, h, rfl⟩
  cases hlexeme : t.lexeme with
  | indent width => exact absurd hlexeme (ht width)
  | _ =>
      simp only [Parser.step, hlexeme, hclosed]
      rfl

/-- The token after a dot leads to the next phase of the line. -/
theorem step_after_dot {tag : OpenTag} (h : Parser.afterDot context tag chain t = .ok phase) :
    Parser.step context ⟨openLines, nodes, .afterDot tag chain⟩ t =
      pure ⟨openLines, nodes, phase⟩ := by
  simp only [Parser.step, h]
  rfl

/-- The token inside a tag leads to the next phase of the line. -/
theorem step_in_tag {tag : OpenTag} (h : Parser.inTag context tag chain t = .ok phase) :
    Parser.step context ⟨openLines, nodes, .inTag tag chain⟩ t =
      pure ⟨openLines, nodes, phase⟩ := by
  simp only [Parser.step, h]
  rfl

/-- Attributes are added to the tag in order. -/
theorem foldlM_attributes_of (h : ∀ t ∈ tokens, t.lexeme.isAttribute = true) (tag : OpenTag) :
    tokens.foldlM (Parser.step context) ⟨openLines, nodes, .inTag tag chain⟩ =
      pure ⟨openLines, nodes,
        .inTag { tag with attributes := tag.attributes ++ attributesOf tokens } chain⟩ := by
  induction tokens generalizing tag with
  | nil => simp [attributesOf]
  | cons t tokens ih =>
      have hattribute := h t List.mem_cons_self
      obtain ⟨a, ha, hstep⟩ : ∃ a, t.lexeme.attribute? = some a ∧
          Parser.step context ⟨openLines, nodes, .inTag tag chain⟩ t =
            pure ⟨openLines, nodes,
              .inTag { tag with attributes := tag.attributes ++ [a] } chain⟩ := by
        cases hlexeme : t.lexeme with
        | idName | className | attributePair =>
            refine ⟨_, rfl, step_in_tag ?_⟩
            simp only [Parser.inTag, hlexeme]
        | _ =>
            rw [hlexeme] at hattribute
            cases hattribute
      rw [List.foldlM_cons, hstep, pure_bind, ih fun u hu => h u (List.mem_cons_of_mem t hu)]
      simp [attributesOf, ha]

/-- The inline text of a tag, if there is one, and the token behind it. A tag without a dot goes on
in the same way as one with a dot. -/
theorem foldlM_inline_of {children : List Markup} (h : InlineOf tokens children)
    (hnext : t.lexeme = .colon ∨ t.lexeme = .newline) (tag : OpenTag)
    (hphase : Parser.afterTag context (tag.close children :: chain) t = .ok phase)
    (openLines : List OpenLine) (nodes : List Markup) :
    (tokens ++ [t]).foldlM (Parser.step context) ⟨openLines, nodes, .afterDot tag chain⟩ =
        pure ⟨openLines, nodes, phase⟩ ∧
      (tokens ++ [t]).foldlM (Parser.step context) ⟨openLines, nodes, .inTag tag chain⟩ =
        pure ⟨openLines, nodes, phase⟩ := by
  cases h with
  | nothing =>
      have hdot : Parser.afterDot context tag chain t = .ok phase := by
        rcases hnext with hnext | hnext <;> simpa only [Parser.afterDot, hnext] using hphase
      have htag : Parser.inTag context tag chain t = .ok phase := by
        rcases hnext with hnext | hnext <;> simpa only [Parser.inTag, hnext] using hdot
      rw [List.nil_append, List.foldlM_cons, List.foldlM_cons, step_after_dot hdot,
        step_in_tag htag]
      exact ⟨rfl, rfl⟩
  | text htext =>
      rename_i u value
      have hdot : Parser.afterDot context tag chain u =
          .ok (.afterTag (tag.close [.text u.position value] :: chain)) := by
        simp only [Parser.afterDot, htext]
        rfl
      have htag : Parser.inTag context tag chain u =
          .ok (.afterTag (tag.close [.text u.position value] :: chain)) := by
        simpa only [Parser.inTag, htext] using hdot
      have hlast : Parser.step context
          ⟨openLines, nodes, .afterTag (tag.close [.text u.position value] :: chain)⟩ t =
            pure ⟨openLines, nodes, phase⟩ := by
        simp only [Parser.step, hphase]
        rfl
      rw [List.cons_append, List.foldlM_cons, List.foldlM_cons, step_after_dot hdot,
        step_in_tag htag, pure_bind, List.nil_append, List.foldlM_cons, hlast]
      exact ⟨rfl, rfl⟩

/-- The tokens of a tag and the token behind it. -/
theorem foldlM_tag_of {node : Markup} (htag : TagOf tokens node)
    (hbegins : Begins context state openLines nodes chain)
    (hnext : t.lexeme = .colon ∨ t.lexeme = .newline)
    (hphase : Parser.afterTag context (node :: chain) t = .ok phase) :
    (tokens ++ [t]).foldlM (Parser.step context) state = pure ⟨openLines, nodes, phase⟩ := by
  obtain ⟨hname, hattributes, hdot, hinline⟩ := htag
  rename_i start name attributes dot inline children
  have hstart : Parser.step context state start =
      pure ⟨openLines, nodes, .inTag ⟨start.position, name, []⟩ chain⟩ := by
    rw [hbegins start (by rw [hname]; rfl) (by simp [hname])]
    simp only [beginItem, hname]
    rfl
  obtain ⟨hafterDot, hinTag⟩ := foldlM_inline_of hinline hnext
    ⟨start.position, name, attributesOf attributes⟩ hphase openLines nodes
  rw [List.cons_append, List.cons_append, List.cons_append, List.foldlM_cons, hstart, pure_bind,
    List.append_assoc, List.append_assoc, List.foldlM_append, foldlM_attributes_of hattributes,
    pure_bind, List.nil_append]
  rcases hdot with rfl | ⟨d, rfl, hd⟩
  · exact hinTag
  · have hstep : Parser.step context
        ⟨openLines, nodes, .inTag ⟨start.position, name, attributesOf attributes⟩ chain⟩ d =
        pure ⟨openLines, nodes,
          .afterDot ⟨start.position, name, attributesOf attributes⟩ chain⟩ := by
      refine step_in_tag ?_
      simp only [Parser.inTag, hd]
    rw [List.cons_append, List.foldlM_cons, hstep, pure_bind, List.nil_append]
    exact hafterDot

/-- The tokens of a line and its end. -/
theorem LineOf.yields {newline : Token} (h : LineOf context first before tokens chain after)
    (hbegins : Begins context state openLines nodes outer)
    (hfirst : first = true → openLines = [] ∧ nodes = [] ∧ outer = [])
    (hnewline : newline.lexeme = .newline) :
    Yields ((tokens ++ [newline]).foldlM (Parser.step context) state) before
      ⟨openLines, nodes, .afterLine (chain.reverse ++ outer)⟩ after := by
  have hitem {t : Token} {node : Markup} {outer : List Markup} {state : State}
      {before after : List Event}
      (hstep : Parser.step context state t = do
        return ⟨openLines, nodes, ← beginItem context (!openLines.isEmpty) outer t⟩)
      (hnode : Yields (beginItem context (!openLines.isEmpty) outer t) before
        (.lineEnd (node :: outer)) after) :
      Yields (([t] ++ [newline]).foldlM (Parser.step context) state) before
        ⟨openLines, nodes, .afterLine (node :: outer)⟩ after := by
    simp only [List.cons_append, List.nil_append, List.foldlM_cons, List.foldlM_nil, hstep]
    refine yields_bind.mpr ⟨_, after, yields_bind.mpr ⟨_, after, hnode,
      yields_pure.mpr ⟨rfl, rfl⟩⟩, ?_⟩
    rw [step_newline hnewline, pure_bind]
    exact yields_pure.mpr ⟨rfl, rfl⟩
  induction h generalizing state outer with
  | tag htag =>
      have hphase {node : Markup} : Parser.afterTag context (node :: outer) newline =
          .ok (.afterLine (node :: outer)) := by
        simp only [Parser.afterTag, endLine, hnewline]
      rw [foldlM_tag_of htag hbegins (.inr hnewline) hphase]
      exact yields_pure.mpr ⟨rfl, rfl⟩
  | text hlexeme =>
      refine hitem (hbegins _ (by rw [hlexeme]; rfl) (by simp [hlexeme])) ?_
      simp only [beginItem, hlexeme]
      exact yields_pure.mpr ⟨rfl, rfl⟩
  | region hlexeme hname =>
      refine hitem (hbegins _ (by rw [hlexeme]; rfl) (by simp [hlexeme])) ?_
      simp only [beginItem, hlexeme, hname, if_true]
      exact yields_pure.mpr ⟨rfl, rfl⟩
  | included hlexeme hload =>
      refine hitem (hbegins _ (by rw [hlexeme]; rfl) (by simp [hlexeme])) ?_
      simp only [beginItem, hlexeme]
      exact yields_bind.mpr ⟨_, _, hload, yields_pure.mpr ⟨rfl, rfl⟩⟩
  | extended hlexeme hload =>
      obtain ⟨rfl, rfl, rfl⟩ := hfirst rfl
      refine hitem (hbegins _ (by rw [hlexeme]; rfl) fun _ _ => ⟨rfl, rfl, rfl⟩) ?_
      simp only [beginItem, hlexeme]
      exact yields_bind.mpr ⟨_, _, hload, yields_pure.mpr ⟨rfl, rfl⟩⟩
  | expansion htag hcolon hmore ih =>
      have hphase {node : Markup} {colon : Token} (hcolon : colon.lexeme = .colon) :
          Parser.afterTag context (node :: outer) colon = .ok (.afterColon (node :: outer)) := by
        simp only [Parser.afterTag, hcolon]
      rw [List.append_assoc, List.cons_append, List.append_cons, List.foldlM_append,
        foldlM_tag_of htag hbegins (.inl hcolon) (hphase hcolon), pure_bind]
      simpa using ih (begins_after_colon _ _ _) (by simp)

/-- An indentation opens the line above it. -/
theorem step_of_is_indent (h : t.lexeme.isIndent = true) :
    Parser.step context ⟨openLines, nodes, .afterLine chain⟩ t =
      pure ⟨⟨chain, nodes⟩ :: openLines, [], .lineStart⟩ := by
  cases hlexeme : t.lexeme with
  | indent width => simp only [Parser.step, hlexeme]
  | _ =>
      rw [hlexeme] at h
      cases h

/-- The end of a level puts its nodes inside the line that was open. -/
theorem step_of_is_outdent {node : Markup} {content : List Markup} (h : t.lexeme.isOutdent = true)
    (hne : chain ≠ []) (hnode : Hangs chain content node)
    (hrests : Rests context state (⟨chain.reverse, nodes⟩ :: openLines) content) :
    Parser.step context state t = pure ⟨openLines, nodes ++ [node], .lineStart⟩ := by
  have hclosed : closeLine context chain.reverse content = .ok [node] :=
    (close_line_reverse_eq_ok_iff hne).mpr ⟨node, hnode, rfl⟩
  cases hlexeme : t.lexeme with
  | outdent width =>
      rw [hrests t (by simp [hlexeme])]
      simp only [beginLine, hlexeme, hclosed]
      rfl
  | _ =>
      rw [hlexeme] at h
      cases h

/-- The tokens of a level. -/
theorem LevelOf.yields {top : Bool} (h : LevelOf context top before tokens nodes after)
    (htop : top = openLines.isEmpty) :
    ∃ final, Yields (tokens.foldlM (Parser.step context) ⟨openLines, [], .lineStart⟩) before final
      after ∧ Rests context final openLines nodes := by
  induction h generalizing openLines with
  | nil => exact ⟨_, yields_pure.mpr ⟨rfl, rfl⟩, rests_line_start _ _⟩
  | line habove hline hnewline hnode ih =>
      obtain ⟨middle, hmiddle, hrests⟩ := ih htop
      have hrun := hline.yields (begins_of_rests hrests) (by simp [htop]) hnewline
      rw [List.append_nil] at hrun
      refine ⟨_, ?_, rests_after_line_of_hangs hline.ne_nil hnode _ _⟩
      rw [List.append_assoc, List.foldlM_append]
      exact yields_bind.mpr ⟨middle, _, hmiddle, hrun⟩
  | @nested _ _ _ _ _ above tokens below newline indent outdent nodes chain _ node _ hline hnewline
      hindent _ houtdent hnode ih ihbelow =>
      obtain ⟨middle, hmiddle, hrests⟩ := ih htop
      have hrun := hline.yields (begins_of_rests hrests) (by simp [htop]) hnewline
      rw [List.append_nil] at hrun
      obtain ⟨inner, hinner, hinside⟩ := @ihbelow (⟨chain.reverse, nodes⟩ :: openLines) rfl
      have htokens : above ++ tokens ++ newline :: indent :: below ++ [outdent] =
          above ++ ((tokens ++ [newline]) ++ (indent :: (below ++ [outdent]))) := by simp
      refine ⟨⟨openLines, nodes ++ [node], .lineStart⟩, ?_, rests_line_start _ _⟩
      rw [htokens, List.foldlM_append]
      refine yields_bind.mpr ⟨middle, _, hmiddle, ?_⟩
      rw [List.foldlM_append]
      refine yields_bind.mpr ⟨_, _, hrun, ?_⟩
      rw [List.foldlM_cons, step_of_is_indent hindent, pure_bind, List.foldlM_append]
      refine yields_bind.mpr ⟨inner, _, hinner, ?_⟩
      rw [List.foldlM_cons, step_of_is_outdent houtdent hline.ne_nil hnode hinside, pure_bind]
      exact yields_pure.mpr ⟨rfl, rfl⟩

/-- The tokens up to the end of the source are those before the first end, and that end. -/
theorem exists_up_to_end_eq (h : ∃ t ∈ tokens, t.isEnd = true) :
    ∃ last : Token, last.lexeme = .endOfSource ∧
      upToEnd tokens = (tokens.takeWhile fun t => !t.isEnd) ++ [last] := by
  obtain ⟨last, hlast⟩ := Option.isSome_iff_exists.mp (List.find?_isSome.mpr h)
  refine ⟨last, by simpa [Token.isEnd] using List.find?_some hlast, ?_⟩
  rw [upToEnd, hlast]

/-- The parser gives exactly the trees of the grammar. -/
theorem yields_parse_iff {tree : Markup} (h : ∃ t ∈ tokens, t.isEnd = true) :
    Yields (Parser.parse context tokens) before tree after ↔
      ∃ nodes, tree = .block ⟨1, 0⟩ nodes ∧
        LevelOf context true before (tokens.takeWhile fun t => !t.isEnd) nodes after := by
  obtain ⟨last, hlast, hupToEnd⟩ := exists_up_to_end_eq h
  have hnonempty : tokens.isEmpty = false := by
    obtain ⟨t, ht, -⟩ := h
    exact List.isEmpty_eq_false_iff.mpr (List.ne_nil_of_mem ht)
  have hparse : Parser.parse context tokens = (do
      let state ← (tokens.takeWhile fun t => !t.isEnd).foldlM (Parser.step context) .start
      let final ← Parser.step context state last
      return .block ⟨1, 0⟩ final.nodes) := by
    rw [Parser.parse, hnonempty, hupToEnd, List.foldlM_append]
    simp
  rw [hparse]
  constructor
  · intro hyields
    obtain ⟨state, _, hstate, hrest⟩ := yields_bind.mp hyields
    obtain ⟨final, _, hfinal, hpure⟩ := yields_bind.mp hrest
    obtain ⟨rfl, rfl⟩ := yields_pure.mp hpure
    have hstart : StateOf context before [] .start before := .intro .nil .nil .lineStart
    have hread := hstart.foldlM (fun t ht => ?_) hstate
    · exact ⟨final.nodes, rfl, hread.level_of hlast hfinal⟩
    · have hopen := List.mem_takeWhile_imp ht
      simpa [Token.isEnd] using hopen
  · rintro ⟨nodes, rfl, hlevel⟩
    obtain ⟨state, hstate, hrests⟩ :=
      @LevelOf.yields context before after _ nodes [] true hlevel rfl
    refine yields_bind.mpr ⟨state, after, hstate, ?_⟩
    rw [step_end_of_source hlast hrests, pure_bind]
    exact yields_pure.mpr ⟨rfl, rfl⟩

end Parser

end ElementMarkup
