import ElementMarkup.Environment
import ElementMarkup.Proofs.Print.SourceTokens

/-!
# Reading written markup

The tree of a written source is the tree that was written, except for the places of its nodes. The
parser keeps the lines whose content is still being read on a stack; `Rests` says that everything
above a given stack has been closed, so that the next line belongs to its innermost level. Each
node takes a state that rests to one that rests with one more node (`foldlM_lexemes`).
-/

namespace ElementMarkup.Print

open ElementMarkup.Parser

/-! ## Trees up to places -/

mutual

/-- The node with the places of its nodes left out. The trees of other templates stay as they
are. -/
def unplaced : Markup → Markup
  | .block _ nodes => .block .unknown (unplacedAll nodes)
  | .namedBlock _ name nodes => .namedBlock .unknown name (unplacedAll nodes)
  | .text _ value => .text .unknown value
  | .tag _ name attributes blockPosition children =>
    .tag .unknown name attributes (blockPosition.map fun _ => .unknown) (unplacedAll children)
  | .included _ path tree => .included .unknown path tree
  | .extended _ path tree => .extended .unknown path tree
  | .foreign position kind => .foreign (position.map fun _ => .unknown) kind

/-- The nodes with the places of their nodes left out. -/
def unplacedAll : List Markup → List Markup
  | [] => []
  | node :: nodes => unplaced node :: unplacedAll nodes

end

mutual

/-- The node with the tree of each included template taken from a resolver. -/
def withTrees (resolve : String → Markup) : Markup → Markup
  | .block position nodes => .block position (withTreesAll resolve nodes)
  | .namedBlock position name nodes => .namedBlock position name (withTreesAll resolve nodes)
  | .text position value => .text position value
  | .tag position name attributes blockPosition children =>
    .tag position name attributes blockPosition (withTreesAll resolve children)
  | .included position (some path) _ => .included position (some path) (resolve path)
  | .included position none tree => .included position none tree
  | .extended position path tree => .extended position path tree
  | .foreign position kind => .foreign position kind

/-- The nodes with the tree of each included template taken from a resolver. -/
def withTreesAll (resolve : String → Markup) : List Markup → List Markup
  | [] => []
  | node :: nodes => withTrees resolve node :: withTreesAll resolve nodes

end

mutual

/-- The paths of the templates that a node includes. -/
def paths : Markup → List String
  | .block _ nodes => pathsOf nodes
  | .namedBlock _ _ nodes => pathsOf nodes
  | .tag _ _ _ _ children => pathsOf children
  | .included _ path _ => path.toList
  | .text _ _ => []
  | .extended _ _ _ => []
  | .foreign _ _ => []

/-- The paths of the templates that several nodes include. -/
def pathsOf : List Markup → List String
  | [] => []
  | node :: nodes => paths node ++ pathsOf nodes

end

mutual

/-- A node that includes no template needs no resolver. -/
theorem with_trees_eq_self (resolve : String → Markup) {node : Markup} (h : paths node = []) :
    withTrees resolve node = node := by
  match node with
  | .block _ nodes => rw [withTrees, with_trees_all_eq_self resolve h]
  | .namedBlock _ _ nodes => rw [withTrees, with_trees_all_eq_self resolve h]
  | .tag _ _ _ _ children => rw [withTrees, with_trees_all_eq_self resolve h]
  | .included _ (some path) _ => cases h
  | .included _ none _ => rfl
  | .text _ _ => rfl
  | .extended _ _ _ => rfl
  | .foreign _ _ => rfl

/-- Nodes that include no template need no resolver. -/
theorem with_trees_all_eq_self (resolve : String → Markup) {nodes : List Markup}
    (h : pathsOf nodes = []) : withTreesAll resolve nodes = nodes := by
  match nodes with
  | [] => rfl
  | node :: nodes =>
      obtain ⟨hfirst, hmore⟩ := List.append_eq_nil_iff.mp h
      rw [withTreesAll, with_trees_eq_self resolve hfirst, with_trees_all_eq_self resolve hmore]

end

/-! ## Lexemes of tokens -/

/-- A lexeme that is no change of indentation is known from its shape. -/
theorem lexeme_of_shape {l : Lexeme} {m : Lexeme} (h : shape l = m) (hindent : m ≠ .indent none)
    (houtdent : m ≠ .outdent none) : l = m := by
  cases l with
  | indent _ => exact absurd h.symm hindent
  | outdent _ => exact absurd h.symm houtdent
  | _ => exact h

/-- The first of the lexemes belongs to the first token. -/
theorem shapes_eq_cons {tokens : List Token} {l : Lexeme} {rest : List Lexeme}
    (h : shapes tokens = l :: rest) :
    ∃ t more, tokens = t :: more ∧ shape t.lexeme = l ∧ shapes more = rest := by
  obtain ⟨t, more, rfl, hl, hrest⟩ := List.map_eq_cons_iff.mp h
  exact ⟨t, more, rfl, hl, hrest⟩

/-- Lexemes in a row belong to tokens in a row. -/
theorem shapes_eq_append {tokens : List Token} {first second : List Lexeme}
    (h : shapes tokens = first ++ second) :
    ∃ front back, tokens = front ++ back ∧ shapes front = first ∧ shapes back = second := by
  obtain ⟨front, back, rfl, hfirst, hsecond⟩ := List.map_eq_append_iff.mp h
  exact ⟨front, back, rfl, hfirst, hsecond⟩

/-! ## Lines -/

variable {context : Context}

/-- The state takes the start of a line, the end of a level or the end of the source as if all
lines above it were closed and the given nodes were those of the current level. -/
def Rests (context : Context) (state : State) (openLines : List OpenLine)
    (nodes : List Markup) : Prop :=
  ∀ t : Token, (∀ width, t.lexeme ≠ .indent width) →
    step context state t = beginLine context openLines nodes t

/-- A state at the start of a line rests. -/
theorem rests_line_start (openLines : List OpenLine) (nodes : List Markup) :
    Rests context ⟨openLines, nodes, .lineStart⟩ openLines nodes :=
  fun _ _ => rfl

/-- A state after a line with one node rests with this node. -/
theorem rests_after_line (openLines : List OpenLine) (nodes : List Markup) (node : Markup) :
    Rests context ⟨openLines, nodes, .afterLine [node]⟩ openLines (nodes ++ [node]) := by
  intro t ht
  have hclosed : closeLine context [node] [] = .ok [node] := rfl
  cases hlexeme : t.lexeme with
  | indent width => exact absurd hlexeme (ht width)
  | _ =>
      simp only [step, hlexeme, hclosed]
      rfl

/-- Attributes are added to the tag in order. -/
theorem foldlM_attributes {as : List Attribute} {tokens : List Token}
    (h : shapes tokens = as.map fun a => .attributePair a.name a.value)
    (openLines : List OpenLine) (nodes : List Markup) (tag : OpenTag) :
    tokens.foldlM (step context) ⟨openLines, nodes, .inTag tag []⟩ =
      pure ⟨openLines, nodes,
        .inTag { tag with attributes := tag.attributes ++ as } []⟩ := by
  induction as generalizing tokens tag with
  | nil =>
      rw [List.map_eq_nil_iff.mp h, List.append_nil]
      rfl
  | cons a as ih =>
      obtain ⟨t, more, rfl, ht, hmore⟩ := shapes_eq_cons h
      have hlexeme := lexeme_of_shape ht (by simp) (by simp)
      have hstep : step context ⟨openLines, nodes, .inTag tag []⟩ t =
          pure ⟨openLines, nodes,
            .inTag { tag with attributes := tag.attributes ++ [a] } []⟩ := by
        simp only [step, inTag, hlexeme]
        rfl
      rw [List.foldlM_cons, hstep, pure_bind, ih hmore, List.append_assoc]
      rfl

/-- The line of a tag leaves the tag without children. -/
theorem foldlM_tag_head {name : String} {as : List Attribute} {tokens : List Token}
    (h : shapes tokens = .tagName name ::
      (as.map fun a => .attributePair a.name a.value) ++ [.newline])
    {state : State} {openLines : List OpenLine} {nodes : List Markup}
    (hrests : Rests context state openLines nodes) :
    ∃ position, tokens.foldlM (step context) state =
      pure ⟨openLines, nodes,
        .afterLine [.tag position name as (some ⟨position.line, 0⟩) []]⟩ := by
  obtain ⟨t, more, rfl, ht, hmore⟩ := shapes_eq_cons h
  obtain ⟨front, back, rfl, hfront, hback⟩ := shapes_eq_append hmore
  obtain ⟨ending, none, rfl, hending, hnone⟩ := shapes_eq_cons hback
  obtain rfl := List.map_eq_nil_iff.mp hnone
  have htag := lexeme_of_shape ht (by simp) (by simp)
  have hnewline := lexeme_of_shape hending (by simp) (by simp)
  refine ⟨t.position, ?_⟩
  have hbegin : step context state t =
      pure ⟨openLines, nodes, .inTag ⟨t.position, name, []⟩ []⟩ := by
    rw [hrests t (by simp [htag])]
    simp only [beginLine, beginItem, htag]
    rfl
  have hend (tag : OpenTag) : step context ⟨openLines, nodes, .inTag tag []⟩ ending =
      pure ⟨openLines, nodes, .afterLine [tag.close []]⟩ := by
    simp only [step, inTag, afterDot, afterTag, endLine, hnewline]
    rfl
  rw [List.foldlM_cons, hbegin, pure_bind, List.foldlM_append, foldlM_attributes hfront,
    pure_bind, List.foldlM_cons, hend, pure_bind]
  rfl

/-- The end of a line leaves the nodes of the line. -/
theorem step_newline {ending : Token} (h : ending.lexeme = .newline) (openLines : List OpenLine)
    (nodes chain : List Markup) :
    step context ⟨openLines, nodes, .lineEnd chain⟩ ending =
      pure ⟨openLines, nodes, .afterLine chain⟩ := by
  simp only [step, endLine, h]
  rfl

/-- A line that holds a single item leaves its node. -/
theorem foldlM_item (node : Position → Markup) {l : Lexeme} {tokens : List Token}
    (h : shapes tokens = [l, .newline]) (hindent : ∀ width, l ≠ .indent width)
    (houtdent : l ≠ .outdent none) {state : State} {openLines : List OpenLine} {nodes : List Markup}
    (hitem : ∀ position, beginLine context openLines nodes ⟨l, position⟩ =
      pure ⟨openLines, nodes, .lineEnd [node position]⟩)
    (hrests : Rests context state openLines nodes) :
    ∃ position, tokens.foldlM (step context) state =
      pure ⟨openLines, nodes, .afterLine [node position]⟩ := by
  obtain ⟨t, more, rfl, ht, hmore⟩ := shapes_eq_cons h
  obtain ⟨ending, none, rfl, hending, hnone⟩ := shapes_eq_cons hmore
  obtain rfl := List.map_eq_nil_iff.mp hnone
  obtain ⟨lexeme, position⟩ := t
  obtain rfl := lexeme_of_shape ht (hindent none) houtdent
  have hnewline := lexeme_of_shape hending (by simp) (by simp)
  refine ⟨position, ?_⟩
  rw [List.foldlM_cons, hrests _ hindent, hitem, pure_bind, List.foldlM_cons,
    step_newline hnewline]
  rfl

/-! ## Forests -/

/-- An indentation opens the line above it. -/
theorem step_indent {opening : Token} (h : shape opening.lexeme = .indent none)
    (openLines : List OpenLine) (nodes chain : List Markup) :
    step context ⟨openLines, nodes, .afterLine chain⟩ opening =
      pure ⟨⟨chain, nodes⟩ :: openLines, [], .lineStart⟩ := by
  obtain ⟨width, hindent⟩ : ∃ width, opening.lexeme = .indent width := by
    cases hl : opening.lexeme <;> simp_all [shape]
  simp only [step, hindent]

/-- The end of a level puts its nodes inside the node of the line that was open. -/
theorem step_outdent {closing : Token} (h : shape closing.lexeme = .outdent none)
    {node result : Markup} {content : List Markup}
    (hattach : attach context node content = .ok result) {state : State}
    {openLines : List OpenLine} {nodes : List Markup}
    (hrests : Rests context state (⟨[node], nodes⟩ :: openLines) content) :
    step context state closing = pure ⟨openLines, nodes ++ [result], .lineStart⟩ := by
  obtain ⟨width, houtdent⟩ : ∃ width, closing.lexeme = .outdent width := by
    cases hl : closing.lexeme <;> simp_all [shape]
  have hclosed : closeLine context [node] content = .ok [result] := by
    simp only [closeLine, hattach]
    rfl
  rw [hrests closing (by simp [houtdent])]
  simp only [beginLine, houtdent, hclosed]
  rfl

/-- The content below a line is put inside the node of the line. -/
theorem foldlM_nested (node : List Markup → Markup) (Inside : List Markup → Prop)
    (hattach : ∀ content, attach context (node []) content = .ok (node content))
    {children : List Markup} {tokens : List Token} (h : shapes tokens = nestedLexemes children)
    {openLines : List OpenLine} {nodes : List Markup}
    (hnone : children = [] → Inside [])
    (hchildren : children ≠ [] → ∀ tokens, shapes tokens = lexemesOf children →
      ∃ content state,
        tokens.foldlM (step context) ⟨⟨[node []], nodes⟩ :: openLines, [], .lineStart⟩ =
          pure state ∧
        Rests context state (⟨[node []], nodes⟩ :: openLines) content ∧ Inside content) :
    ∃ content state,
      tokens.foldlM (step context) ⟨openLines, nodes, .afterLine [node []]⟩ = pure state ∧
      Rests context state openLines (nodes ++ [node content]) ∧ Inside content := by
  cases children with
  | nil =>
      rw [List.map_eq_nil_iff.mp h]
      exact ⟨[], _, rfl, rests_after_line _ _ _, hnone rfl⟩
  | cons child children =>
      obtain ⟨opening, more, rfl, hopening, hmore⟩ := shapes_eq_cons h
      obtain ⟨front, back, rfl, hfront, hback⟩ := shapes_eq_append hmore
      obtain ⟨closing, last, rfl, hclosing, hlast⟩ := shapes_eq_cons hback
      obtain rfl := List.map_eq_nil_iff.mp hlast
      obtain ⟨content, state, hfold, hrests, hinside⟩ :=
        hchildren (List.cons_ne_nil _ _) front hfront
      -- The end of the level finds the node still empty, whatever state the last line left.
      refine ⟨content, ⟨openLines, nodes ++ [node content], .lineStart⟩, ?_,
        rests_line_start _ _, hinside⟩
      rw [List.foldlM_cons, step_indent hopening, pure_bind, List.foldlM_append, hfold, pure_bind,
        List.foldlM_cons, step_outdent hclosing (hattach content) hrests]
      rfl

/-- The content that is put inside a tag becomes its children. -/
theorem attach_tag (position : Position) (name : String) (as : List Attribute)
    (content : List Markup) :
    attach context (.tag position name as (some ⟨position.line, 0⟩) []) content =
      .ok (.tag position name as (some ⟨position.line, 0⟩) content) := by
  cases content <;> rfl

/-- The content that is put inside a named block becomes its body. -/
theorem attach_named_block (position : Position) (name : String) (content : List Markup) :
    attach context (.namedBlock position name []) content =
      .ok (.namedBlock position name content) := by
  cases content <;> rfl

variable {resolve : String → Markup}

mutual

/-- The lexemes of a node add the node to the current level, with the trees of the templates that
it includes. -/
theorem foldlM_lexemes (node : Markup) (h : isPrintable node = true)
    (hload : ∀ path ∈ paths node, ∀ line, context.load path line = pure (resolve path))
    {tokens : List Token} (htokens : shapes tokens = lexemes node) {state : State}
    {openLines : List OpenLine} {nodes : List Markup}
    (hrests : Rests context state openLines nodes) :
    ∃ parsed final, tokens.foldlM (step context) state = pure final ∧
      Rests context final openLines (nodes ++ [parsed]) ∧
      unplaced parsed = unplaced (withTrees resolve node) := by
  match node, h with
  | .tag place name as blockPosition children, h =>
      simp only [isPrintable, Bool.and_eq_true] at h
      obtain ⟨⟨_, hblock⟩, hchildren⟩ := h
      obtain ⟨blockPlace, rfl⟩ := Option.isSome_iff_exists.mp hblock
      rw [lexemes, List.append_cons] at htokens
      obtain ⟨front, back, rfl, hfront, hback⟩ := shapes_eq_append htokens
      obtain ⟨position, hhead⟩ := foldlM_tag_head hfront hrests
      obtain ⟨content, final, hfold, hfinal, hcontent⟩ :=
        foldlM_nested (fun content => .tag position name as (some ⟨position.line, 0⟩) content)
          (fun content => unplacedAll content = unplacedAll (withTreesAll resolve children))
          (attach_tag position name as) hback (fun hnone => by rw [hnone]; rfl)
          fun _ inner hinner => foldlM_lexemes_of children hchildren hload hinner
            (rests_line_start _ _)
      refine ⟨_, final, ?_, hfinal, ?_⟩
      · rw [List.foldlM_append, hhead, pure_bind, hfold]
      · rw [withTrees, unplaced, unplaced, hcontent]
        rfl
  | .text place value, _ =>
      obtain ⟨position, hfold⟩ := foldlM_item (fun position => .text position value) htokens
        (by simp) (by simp) (fun _ => rfl) hrests
      exact ⟨_, _, hfold, rests_after_line _ _ _, rfl⟩
  | .namedBlock place name inside, h =>
      simp only [isPrintable, Bool.and_eq_true] at h
      obtain ⟨hname, hinside⟩ := h
      change shapes tokens = [.blockName (.text name), .newline] ++ nestedLexemes inside at htokens
      obtain ⟨front, back, rfl, hfront, hback⟩ := shapes_eq_append htokens
      obtain ⟨position, hhead⟩ :=
        foldlM_item (fun position => .namedBlock position name []) hfront (by simp) (by simp)
          (fun _ => by simp [beginLine, beginItem, hname]) hrests
      obtain ⟨content, final, hfold, hfinal, hcontent⟩ :=
        foldlM_nested (fun content => .namedBlock position name content)
          (fun content => unplacedAll content = unplacedAll (withTreesAll resolve inside))
          (attach_named_block position name) hback (fun hnone => by rw [hnone]; rfl)
          fun _ inner hinner => foldlM_lexemes_of inside hinside hload hinner
            (rests_line_start _ _)
      refine ⟨_, final, ?_, hfinal, ?_⟩
      · rw [List.foldlM_append, hhead, pure_bind, hfold]
      · rw [withTrees, unplaced, unplaced, hcontent]
  | .included place (some path) tree, _ =>
      have hloaded := hload path (List.mem_singleton_self path)
      obtain ⟨position, hfold⟩ :=
        foldlM_item (fun position => .included position (some path) (resolve path)) htokens
          (by simp) (by simp) (fun _ => by simp [beginLine, beginItem, hloaded]) hrests
      exact ⟨_, _, hfold, rests_after_line _ _ _, rfl⟩

/-- The lexemes of several nodes add the nodes to the current level. -/
theorem foldlM_lexemes_of (forest : List Markup) (h : arePrintable forest = true)
    (hload : ∀ path ∈ pathsOf forest, ∀ line, context.load path line = pure (resolve path))
    {tokens : List Token} (htokens : shapes tokens = lexemesOf forest) {state : State}
    {openLines : List OpenLine} {nodes : List Markup}
    (hrests : Rests context state openLines nodes) :
    ∃ parsed final, tokens.foldlM (step context) state = pure final ∧
      Rests context final openLines (nodes ++ parsed) ∧
      unplacedAll parsed = unplacedAll (withTreesAll resolve forest) := by
  match forest, h with
  | [], _ =>
      rw [List.map_eq_nil_iff.mp htokens]
      exact ⟨[], state, rfl, by rwa [List.append_nil], rfl⟩
  | node :: forest, h =>
      rw [arePrintable, Bool.and_eq_true] at h
      rw [lexemesOf] at htokens
      obtain ⟨front, back, rfl, hfront, hback⟩ := shapes_eq_append htokens
      obtain ⟨parsed, between, hfirst, hbetween, hparsed⟩ :=
        foldlM_lexemes node h.1 (fun path hpath => hload path (List.mem_append_left _ hpath))
          hfront hrests
      obtain ⟨more, final, hrest, hfinal, hmore⟩ :=
        foldlM_lexemes_of forest h.2 (fun path hpath => hload path (List.mem_append_right _ hpath))
          hback hbetween
      refine ⟨parsed :: more, final, ?_, ?_, ?_⟩
      · rw [List.foldlM_append, hfirst, pure_bind, hrest]
      · rwa [List.append_assoc] at hfinal
      · rw [withTreesAll, unplacedAll, unplacedAll, hparsed, hmore]

end

/-! ## Sources -/

mutual

/-- A node does not end the source. -/
theorem end_of_source_not_mem_lexemes (node : Markup) : .endOfSource ∉ lexemes node := by
  match node with
  | .tag _ _ _ _ children => simp [lexemes, end_of_source_not_mem_nested_lexemes children]
  | .text _ _ => simp [lexemes]
  | .namedBlock _ _ nodes => simp [lexemes, end_of_source_not_mem_nested_lexemes nodes]
  | .included _ _ _ => simp [lexemes]
  | .extended _ _ _ => simp [lexemes]
  | .block _ nodes => exact end_of_source_not_mem_lexemes_of nodes
  | .foreign _ _ => simp [lexemes]

/-- The nodes inside another one do not end the source. -/
theorem end_of_source_not_mem_nested_lexemes (nodes : List Markup) :
    .endOfSource ∉ nestedLexemes nodes := by
  match nodes with
  | [] => simp [nestedLexemes]
  | node :: nodes =>
      simp [nestedLexemes, end_of_source_not_mem_lexemes node,
        end_of_source_not_mem_lexemes_of nodes]

/-- Several nodes do not end the source. -/
theorem end_of_source_not_mem_lexemes_of (nodes : List Markup) :
    .endOfSource ∉ lexemesOf nodes := by
  match nodes with
  | [] => simp [lexemesOf]
  | node :: nodes =>
      simp [lexemesOf, end_of_source_not_mem_lexemes node, end_of_source_not_mem_lexemes_of nodes]

end

/-- Tokens that end with the only end of the source are taken as they are. -/
theorem up_to_end_of_ends {front : List Token} {last : Token}
    (hfront : .endOfSource ∉ shapes front) (hlast : last.lexeme = .endOfSource) :
    upToEnd (front ++ [last]) = front ++ [last] := by
  have hopen : ∀ t ∈ front, t.isEnd = false := by
    intro t ht
    rw [Token.isEnd, beq_eq_false_iff_ne]
    intro hend
    exact hfront (List.mem_map.mpr ⟨t, ht, by rw [hend]; rfl⟩)
  have hend : last.isEnd = true := by
    rw [Token.isEnd, hlast]
    rfl
  have hfind : (front ++ [last]).find? Token.isEnd = some last := by
    rw [List.find?_append, List.find?_eq_none.mpr (by simpa using hopen)]
    simp [hend]
  have htake : (front ++ [last]).takeWhile (fun t => !t.isEnd) = front := by
    rw [List.takeWhile_append_of_pos (by simpa using hopen)]
    simp [hend]
  rw [upToEnd, hfind, htake]

/-- The end of the source leaves the nodes that have been read. -/
theorem parse_of_ends {front : List Token} {last : Token} (hfront : .endOfSource ∉ shapes front)
    (hlast : last.lexeme = .endOfSource) :
    Parser.parse context (front ++ [last]) = (do
      let state ← front.foldlM (step context) .start
      let final ← step context state last
      return .block ⟨1, 0⟩ final.nodes) := by
  have hnonempty : (front ++ [last]).isEmpty = false := by simp
  rw [Parser.parse, hnonempty, up_to_end_of_ends hfront hlast, List.foldlM_append]
  simp

/-- The end of the source is taken at the outermost level. -/
theorem step_end_of_source {last : Token} (h : last.lexeme = .endOfSource) {state : State}
    {nodes : List Markup} (hrests : Rests context state [] nodes) :
    step context state last = pure ⟨[], nodes, .lineStart⟩ := by
  rw [hrests last (by simp [h])]
  simp only [beginLine, h]

/-- Parsing the tokens of printable nodes gives the nodes, except for their places. -/
theorem parse_shapes {nodes : List Markup} (h : arePrintable nodes = true)
    (hload : ∀ path ∈ pathsOf nodes, ∀ line, context.load path line = pure (resolve path))
    {tokens : List Token} (htokens : shapes tokens = lexemesOf nodes ++ [.endOfSource]) :
    ∃ parsed, Parser.parse context tokens = pure (.block ⟨1, 0⟩ parsed) ∧
      unplacedAll parsed = unplacedAll (withTreesAll resolve nodes) := by
  obtain ⟨front, back, rfl, hfront, hback⟩ := shapes_eq_append htokens
  obtain ⟨last, none, rfl, hlast, hnone⟩ := shapes_eq_cons hback
  obtain rfl := List.map_eq_nil_iff.mp hnone
  have hend := lexeme_of_shape hlast (by simp) (by simp)
  obtain ⟨parsed, final, hfold, hfinal, hparsed⟩ :=
    foldlM_lexemes_of nodes h hload hfront (rests_line_start [] [])
  have hfront' : .endOfSource ∉ shapes front := by
    rw [hfront]
    exact end_of_source_not_mem_lexemes_of nodes
  refine ⟨parsed, ?_, hparsed⟩
  rw [parse_of_ends hfront' hend, State.start, hfold, pure_bind, step_end_of_source hend hfinal]
  rfl

/-- The source of printable nodes is read as the tree of these nodes, given how the templates that
they include are loaded. -/
theorem parse_source_of_loads {unit : Nat} (hunit : 0 < unit) (name : Option String)
    {load : String → Logged Markup} {nodes : List Markup} (h : arePrintable nodes = true)
    (hload : ∀ path ∈ pathsOf nodes, load path = pure (resolve path)) :
    ∃ parsed,
      Environment.parseSource name load (source unit nodes) = pure (.block ⟨1, 0⟩ parsed) ∧
      unplacedAll parsed = unplacedAll (withTreesAll resolve nodes) := by
  obtain ⟨tokens, hscan, htokens⟩ := scan_source hunit h
  let context : Context := ⟨name, some (source unit nodes), fun path _ => load path⟩
  have hcontext : ∀ path ∈ pathsOf nodes, ∀ line, context.load path line = pure (resolve path) :=
    fun path hpath _ => hload path hpath
  obtain ⟨parsed, hparse, hparsed⟩ := parse_shapes h hcontext htokens
  refine ⟨parsed, ?_, hparsed⟩
  have hsource : Token.ofSource (source unit nodes) name = .ok tokens := by
    rw [Token.ofSource, hscan]
    rfl
  rw [Environment.parseSource, hsource]
  exact hparse

/-- The source of printable nodes that include no template is read in any environment. -/
theorem parse_source_of_paths_eq_nil (env : Environment) {unit : Nat} (hunit : 0 < unit)
    (name : Option String) {nodes : List Markup} (h : arePrintable nodes = true)
    (hpaths : pathsOf nodes = []) :
    ∃ parsed, env.parse (source unit nodes) name = pure (.block ⟨1, 0⟩ parsed) ∧
      unplacedAll parsed = unplacedAll nodes := by
  obtain ⟨load, hload⟩ : ∃ load, env.parse (source unit nodes) name =
      Environment.parseSource name load (source unit nodes) := by
    unfold Environment.parse
    cases env.maxDepth - name.toList.length with
    | zero => exact ⟨_, rfl⟩
    | succ room => exact ⟨_, rfl⟩
  let resolve : String → Markup := fun path => .text .unknown path
  have hnone : ∀ path ∈ pathsOf nodes, load path = pure (resolve path) := by
    rw [hpaths]
    intro path hpath
    cases hpath
  obtain ⟨parsed, hparse, hparsed⟩ := parse_source_of_loads hunit name h hnone
  rw [with_trees_all_eq_self resolve hpaths] at hparsed
  exact ⟨parsed, hload.trans hparse, hparsed⟩

/-- Parsing undoes printing: the source of printable nodes, indented by any unit of spaces, is read
as a block of the same nodes except for their places, each included template having the tree that
the resolver gives for its path. -/
theorem parse_source_source {unit : Nat} (hunit : 0 < unit) (resolve : String → Markup)
    (name : Option String) (nodes : List Markup) (h : arePrintable nodes = true) :
    ∃ parsed,
      Environment.parseSource name (fun path => pure (resolve path)) (source unit nodes) =
        pure (.block ⟨1, 0⟩ parsed) ∧
      unplacedAll parsed = unplacedAll (withTreesAll resolve nodes) :=
  parse_source_of_loads hunit name h fun _ _ => rfl

/-- A tag with quotes and backslashes among its attributes, with a text, an empty named block and
an included template inside it, and with a tag named like a directive after it. -/
theorem parse_source_source_nested :
    let nodes : List Markup :=
      [.tag ⟨7, 3⟩ "svg:g-2" [⟨"title", .text "a \"b\" \\"⟩, ⟨"data-n", .integer (-12)⟩,
          ⟨"@on", .boolean true⟩] (some ⟨0, 9⟩)
        [.text ⟨0, 0⟩ "  | é", .namedBlock ⟨0, 0⟩ "side-bar" [],
          .included ⟨0, 0⟩ (some "x y.pug") (.text ⟨0, 0⟩ "old")],
        .tag ⟨0, 0⟩ "include" [] (some ⟨0, 0⟩) []]
    let resolve : String → Markup := fun path => .text ⟨0, 0⟩ path
    arePrintable nodes = true ∧
      ∃ parsed,
        Environment.parseSource none (fun path => pure (resolve path)) (source 3 nodes) =
          pure (.block ⟨1, 0⟩ parsed) ∧
        unplacedAll parsed = unplacedAll (withTreesAll resolve nodes) :=
  have hprintable := by decide +kernel
  ⟨hprintable, parse_source_source (by decide) _ none _ hprintable⟩

end ElementMarkup.Print
