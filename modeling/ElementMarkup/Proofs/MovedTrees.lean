import ElementMarkup.Proofs.Congruence
import ElementMarkup.Proofs.Print.RoundTrip

/-!
# Trees of moved tokens

The parser looks at the lines of tokens, never at their columns or at the widths of indentations. If
tokens are moved within their lines, so are the nodes of their tree, and nothing else changes. Main
statement: `mirrors_parse`. Where the one run fails, the other one fails with the same problem on
the same line.
-/

namespace ElementMarkup

/-! ## Two runs with corresponding values -/

/-- The fault without its column and the source that it quotes. -/
def Fault.atLine : Fault → Fault
  | template (.badSyntax stage fault) =>
    template (.badSyntax stage { fault with column := none, source := none })
  | fault => fault

namespace Attempt

variable {σ α β γ δ : Type}

/-- Two outcomes in the same state: a value and its image, or faults of the same kind on the same
line. -/
inductive Mirror (f : α → β) : Except Fault α × σ → Except Fault β × σ → Prop where
  | value (a : α) (s : σ) : Mirror f (.ok a, s) (.ok (f a), s)
  | fault {first second : Fault} (s : σ) :
      first.atLine = second.atLine → Mirror f (.error first, s) (.error second, s)

/-- Two attempts whose outcomes correspond from every state. -/
def Mirrors (f : α → β) (x : Attempt σ α) (y : Attempt σ β) : Prop :=
  ∀ s, Mirror f (x.run.run s) (y.run.run s)

variable {f : α → β} {x : Attempt σ α} {y : Attempt σ β}

/-- A value and its image correspond. -/
theorem mirrors_pure (f : α → β) (a : α) : Mirrors f (pure a : Attempt σ α) (pure (f a)) :=
  fun s => .value a s

/-- Faults of the same kind on the same line correspond. -/
theorem mirrors_throw {first second : Fault} (h : first.atLine = second.atLine) :
    Mirrors f (throw first : Attempt σ α) (throw second) :=
  fun s => .fault s h

/-- An attempt corresponds to itself. -/
theorem mirrors_refl (x : Attempt σ α) : Mirrors id x x := by
  intro s
  obtain ⟨result, t⟩ := x.run.run s
  cases result with
  | ok a => exact .value a t
  | error fault => exact .fault t rfl

/-- Steps in a row correspond if each of them does. -/
theorem mirrors_bind {g : γ → δ} {next : α → Attempt σ γ} {other : β → Attempt σ δ}
    (hfirst : Mirrors f x y) (hnext : ∀ a, Mirrors g (next a) (other (f a))) :
    Mirrors g (x >>= next) (y >>= other) := by
  intro s
  rw [run_bind, run_bind]
  have h := hfirst s
  generalize x.run.run s = first, y.run.run s = second at h ⊢
  cases h with
  | value a t => exact hnext a t
  | fault t hfault => exact .fault t hfault

/-- Folds over corresponding items correspond step by step. -/
theorem mirrors_foldlM {item : γ → δ} {step : α → γ → Attempt σ α} {other : β → δ → Attempt σ β}
    (hstep : ∀ a c, Mirrors f (step a c) (other (f a) (item c))) (items : List γ) (a : α) :
    Mirrors f (items.foldlM step a) ((items.map item).foldlM other (f a)) := by
  induction items generalizing a with
  | nil => exact mirrors_pure f a
  | cons c items ih =>
      rw [List.map_cons, List.foldlM_cons, List.foldlM_cons]
      exact mirrors_bind (hstep a c) ih

end Attempt

open Attempt

/-! ## Moved tokens and nodes -/

/-- The token with other widths and places. What closes or opens a level, and what ends the source,
stays where it is. -/
def Token.rescaled (width : Nat → Nat) (place : Position → Position) (t : Token) : Token :=
  match t.lexeme with
  | .indent level => ⟨.indent (level.map width), t.position⟩
  | .outdent level => ⟨.outdent (level.map width), t.position⟩
  | .endOfSource => t
  | lexeme => ⟨lexeme, place t.position⟩

namespace Markup

mutual

/-- The node with the nodes of its template at other places. Blocks stay where they are, and so do
the trees of other templates. -/
def moved (place : Position → Position) : Markup → Markup
  | block position nodes => block position (movedAll place nodes)
  | namedBlock position name nodes => namedBlock (place position) name (movedAll place nodes)
  | text position value => text (place position) value
  | tag position name attributes blockPosition children =>
    tag (place position) name attributes blockPosition (movedAll place children)
  | included position path tree => included (place position) path tree
  | extended position path tree => extended (place position) path tree
  | foreign position kind => foreign position kind

/-- The nodes with their nodes at other places. -/
def movedAll (place : Position → Position) : List Markup → List Markup
  | [] => []
  | node :: nodes => moved place node :: movedAll place nodes

end

/-- Nodes are moved one by one. -/
theorem moved_all_eq_map (place : Position → Position) (nodes : List Markup) :
    movedAll place nodes = nodes.map (moved place) := by
  induction nodes with
  | nil => rfl
  | cons node nodes ih => rw [movedAll, ih, List.map_cons]

/-- A moved node is of the same kind. -/
theorem kind_moved (place : Position → Position) (node : Markup) :
    (node.moved place).kind = node.kind := by
  cases node <;> simp only [moved, kind]

mutual

/-- A moved tree is the same up to the places of its nodes. -/
theorem unplaced_moved (place : Position → Position) :
    ∀ node : Markup, Print.unplaced (node.moved place) = Print.unplaced node
  | block _ nodes => by
      rw [moved, Print.unplaced, Print.unplaced, unplaced_all_moved_all place nodes]
  | namedBlock _ _ nodes => by
      rw [moved, Print.unplaced, Print.unplaced, unplaced_all_moved_all place nodes]
  | text _ _ => by rw [moved, Print.unplaced, Print.unplaced]
  | tag _ _ _ _ children => by
      rw [moved, Print.unplaced, Print.unplaced, unplaced_all_moved_all place children]
  | included _ _ _ => by rw [moved, Print.unplaced, Print.unplaced]
  | extended _ _ _ => by rw [moved, Print.unplaced, Print.unplaced]
  | foreign _ _ => by rw [moved]

/-- Moved nodes are the same up to the places of their nodes. -/
theorem unplaced_all_moved_all (place : Position → Position) :
    ∀ nodes : List Markup, Print.unplacedAll (movedAll place nodes) = Print.unplacedAll nodes
  | [] => by rw [movedAll]
  | node :: nodes => by
      rw [movedAll, Print.unplacedAll, Print.unplacedAll, unplaced_moved place node,
        unplaced_all_moved_all place nodes]

end

end Markup

/-! ## The parser -/

namespace Parser

open Markup (moved)

/-- The tag at another place. -/
def OpenTag.moved (place : Position → Position) (t : OpenTag) : OpenTag :=
  { t with position := place t.position }

/-- The open line with its nodes at other places. -/
def OpenLine.moved (place : Position → Position) (line : OpenLine) : OpenLine :=
  ⟨line.chain.map (Markup.moved place), line.before.map (Markup.moved place)⟩

/-- The phase with its nodes at other places. -/
def Phase.moved (place : Position → Position) : Phase → Phase
  | lineStart => lineStart
  | afterColon chain => afterColon (chain.map (Markup.moved place))
  | inTag tag chain => inTag (tag.moved place) (chain.map (Markup.moved place))
  | afterDot tag chain => afterDot (tag.moved place) (chain.map (Markup.moved place))
  | afterTag chain => afterTag (chain.map (Markup.moved place))
  | lineEnd chain => lineEnd (chain.map (Markup.moved place))
  | afterLine chain => afterLine (chain.map (Markup.moved place))

/-- The state with its nodes at other places. -/
def State.moved (place : Position → Position) (state : State) : State :=
  ⟨state.openLines.map (OpenLine.moved place), state.nodes.map (Markup.moved place),
    state.phase.moved place⟩

variable {context : Context} {source : Option String} {width : Nat → Nat}
  {place : Position → Position}

/-- A problem gives faults that differ at most in their columns and in the source that they
quote. -/
theorem at_line_fault {position other : Position} (h : position.line = other.line)
    (problem : Problem) :
    (context.fault problem position).atLine =
      ({ context with source }.fault problem other).atLine := by
  unfold Context.fault
  rw [h]
  rfl

section

variable (hplace : ∀ position, (place position).line = position.line)

include hplace

/-- A moved token stays on its line. -/
theorem line_rescaled (width : Nat → Nat) (t : Token) :
    (t.rescaled width place).position.line = t.position.line := by
  obtain ⟨lexeme, position⟩ := t
  cases lexeme <;> simp only [Token.rescaled, hplace]

/-- A moved node stays on its line. -/
theorem line_moved (node : Markup) : (node.moved place).position.line = node.position.line := by
  cases node <;> simp only [Markup.moved, Markup.position, hplace]

/-- A moved tag with inline content. -/
theorem close_moved (tag : OpenTag) (inline : List Markup) :
    (tag.moved place).close (inline.map (moved place)) = (tag.close inline).moved place := by
  unfold OpenTag.close OpenTag.moved
  rw [moved, Markup.moved_all_eq_map, hplace]

/-- Adding content to a moved node. -/
theorem mirrors_attach (node : Markup) (content : List Markup) :
    Mirrors (moved place) (liftExcept (attach context node content) : Logged Markup)
      (liftExcept (attach { context with source } (node.moved place)
        (content.map (moved place)))) := by
  cases content with
  | nil =>
      rw [List.map_nil, attach, attach]
      exact mirrors_pure _ node
  | cons first content =>
      have hfault : (context.fault (.nestedContent node.kind) ⟨node.position.line + 1, 0⟩).atLine =
          ({ context with source }.fault (.nestedContent (node.moved place).kind)
            ⟨(node.moved place).position.line + 1, 0⟩).atLine := by
        rw [Markup.kind_moved, line_moved hplace]
        exact at_line_fault rfl _
      cases node with
      | tag position name attributes blockPosition children =>
          have himage : (Markup.tag position name attributes (some ⟨position.line, 0⟩)
              (children ++ first :: content)).moved place =
              .tag (place position) name attributes (some ⟨(place position).line, 0⟩)
                (Markup.movedAll place children ++ (first :: content).map (moved place)) := by
            rw [moved, hplace, Markup.moved_all_eq_map, Markup.moved_all_eq_map, List.map_append]
          rw [moved, List.map_cons, attach, attach, ← List.map_cons, ← himage]
          · exact mirrors_pure _ _
          all_goals exact List.cons_ne_nil _ _
      | namedBlock position name nodes =>
          have himage : (Markup.namedBlock position name (nodes ++ first :: content)).moved place =
              .namedBlock (place position) name
                (Markup.movedAll place nodes ++ (first :: content).map (moved place)) := by
            rw [moved, Markup.moved_all_eq_map, Markup.moved_all_eq_map, List.map_append]
          rw [moved, List.map_cons, attach, attach, ← List.map_cons, ← himage]
          · exact mirrors_pure _ _
          all_goals exact List.cons_ne_nil _ _
      | block _ _ => exact mirrors_throw hfault
      | text _ _ => exact mirrors_throw hfault
      | included _ _ _ => exact mirrors_throw hfault
      | extended _ _ _ => exact mirrors_throw hfault
      | foreign _ _ => exact mirrors_throw hfault

/-- Putting the moved nodes of a line inside each other. -/
theorem mirrors_nest (inner : Markup) (chain : List Markup) :
    Mirrors (moved place) (liftExcept (nest context inner chain) : Logged Markup)
      (liftExcept (nest { context with source } (inner.moved place)
        (chain.map (moved place)))) := by
  induction chain generalizing inner with
  | nil => exact mirrors_pure _ inner
  | cons outer chain ih =>
      rw [List.map_cons, nest, nest, lift_except_bind, lift_except_bind]
      exact mirrors_bind (mirrors_attach hplace outer [inner]) ih

/-- Closing a moved line. -/
theorem mirrors_close_line (chain content : List Markup) :
    Mirrors (List.map (moved place)) (liftExcept (closeLine context chain content) : Logged _)
      (liftExcept (closeLine { context with source } (chain.map (moved place))
        (content.map (moved place)))) := by
  cases chain with
  | nil => exact mirrors_pure _ []
  | cons inner outer =>
      rw [List.map_cons, closeLine, closeLine, lift_except_bind, lift_except_bind]
      refine mirrors_bind (mirrors_attach hplace inner content) fun node => ?_
      rw [lift_except_bind, lift_except_bind]
      exact mirrors_bind (mirrors_nest hplace node outer) fun node => mirrors_pure _ [node]

/-- A problem with a moved token. -/
theorem mirrors_fault {α β : Type} (f : α → β) (problem : Problem) (t : Token) :
    Mirrors f (throw (context.fault problem t.position) : Logged α)
      (throw ({ context with source }.fault problem (t.rescaled width place).position)) :=
  mirrors_throw (at_line_fault (line_rescaled hplace width t).symm problem)

/-- The moved first token of an item. -/
theorem mirrors_begin_item (nested : Bool) (chain : List Markup) (t : Token) :
    Mirrors (Phase.moved place) (beginItem context nested chain t)
      (beginItem { context with source } nested (chain.map (moved place))
        (t.rescaled width place)) := by
  obtain ⟨lexeme, position⟩ := t
  have hload (path : String) :
      Mirrors id (context.load path position.line) (context.load path (place position).line) := by
    rw [hplace]
    exact mirrors_refl _
  cases lexeme with
  | tagName name => exact mirrors_pure _ _
  | text value => exact mirrors_pure _ _
  | blockName name =>
      cases name with
      | text name =>
          show Mirrors _ (if isBlockName name.toList then _ else _)
            (if isBlockName name.toList then _ else _)
          split
          · exact mirrors_pure _ _
          · exact mirrors_fault hplace _ _ ⟨.blockName (.text name), position⟩
      | _ => exact mirrors_throw rfl
  | extendsPath path =>
      show Mirrors _ (if nested || !chain.isEmpty then _ else _)
        (if nested || !(chain.map (moved place)).isEmpty then _ else _)
      rw [List.isEmpty_map]
      split
      · exact mirrors_fault hplace _ _ ⟨.extendsPath path, position⟩
      · exact mirrors_bind (hload path) fun tree => mirrors_pure _ _
  | includePath path => exact mirrors_bind (hload path) fun tree => mirrors_pure _ _
  | _ => exact mirrors_fault hplace _ _ ⟨_, position⟩

/-- The moved first token of a line. -/
theorem mirrors_begin_line (openLines : List OpenLine) (nodes : List Markup) (t : Token) :
    Mirrors (State.moved place) (beginLine context openLines nodes t)
      (beginLine { context with source } (openLines.map (OpenLine.moved place))
        (nodes.map (moved place)) (t.rescaled width place)) := by
  have hitem : Mirrors (State.moved place)
      (do return ⟨openLines, nodes, ← beginItem context (!openLines.isEmpty) [] t⟩ : Logged State)
      (do return ⟨openLines.map (OpenLine.moved place), nodes.map (moved place),
        ← beginItem { context with source } (!(openLines.map (OpenLine.moved place)).isEmpty) []
          (t.rescaled width place)⟩) := by
    rw [List.isEmpty_map]
    exact mirrors_bind (mirrors_begin_item hplace _ [] t) fun phase =>
      mirrors_pure _ (State.mk openLines nodes phase)
  obtain ⟨lexeme, position⟩ := t
  cases lexeme with
  | outdent level =>
      cases openLines with
      | nil => exact mirrors_fault hplace _ _ ⟨.outdent level, position⟩
      | cons line openLines =>
          refine mirrors_bind (mirrors_close_line hplace line.chain nodes) fun closed => ?_
          have himage := mirrors_pure (σ := List Event) (State.moved place)
            ⟨openLines, line.before ++ closed, .lineStart⟩
          rw [State.moved, List.map_append] at himage
          exact himage
  | endOfSource =>
      cases openLines with
      | nil => exact mirrors_pure _ (State.mk [] nodes .lineStart)
      | cons line openLines => exact mirrors_fault hplace _ _ ⟨.endOfSource, position⟩
  | indent level => exact mirrors_fault hplace _ _ ⟨.indent level, position⟩
  | extendsPath path =>
      show Mirrors _ (if !nodes.isEmpty then _ else _)
        (if !(nodes.map (moved place)).isEmpty then _ else _)
      rw [List.isEmpty_map]
      split
      · exact mirrors_fault hplace _ _ ⟨.extendsPath path, position⟩
      · exact hitem
  | _ => exact hitem

/-- The end of a moved line. -/
theorem mirrors_end_line (chain : List Markup) (t : Token) :
    Mirrors (Phase.moved place) (liftExcept (endLine context chain t) : Logged Phase)
      (liftExcept (endLine { context with source } (chain.map (moved place))
        (t.rescaled width place))) := by
  obtain ⟨lexeme, position⟩ := t
  cases lexeme with
  | newline => exact mirrors_pure _ _
  | _ => exact mirrors_fault hplace _ _ ⟨_, position⟩

/-- A moved token after a complete tag. -/
theorem mirrors_after_tag (chain : List Markup) (t : Token) :
    Mirrors (Phase.moved place) (liftExcept (afterTag context chain t) : Logged Phase)
      (liftExcept (afterTag { context with source } (chain.map (moved place))
        (t.rescaled width place))) := by
  have hend := @mirrors_end_line context source width place hplace chain t
  obtain ⟨lexeme, position⟩ := t
  cases lexeme with
  | colon => exact mirrors_pure _ _
  | _ => exact hend

/-- A moved token after the dot of a tag. -/
theorem mirrors_after_dot (tag : OpenTag) (chain : List Markup) (t : Token) :
    Mirrors (Phase.moved place) (liftExcept (afterDot context tag chain t) : Logged Phase)
      (liftExcept (afterDot { context with source } (tag.moved place) (chain.map (moved place))
        (t.rescaled width place))) := by
  have hafter := @mirrors_after_tag context source width place hplace (tag.close [] :: chain) t
  rw [List.map_cons, ← close_moved hplace, List.map_nil] at hafter
  obtain ⟨lexeme, position⟩ := t
  cases lexeme with
  | text value =>
      have himage := mirrors_pure (σ := List Event) (Phase.moved place)
        (.afterTag (tag.close [textNode position value] :: chain))
      rw [Phase.moved, List.map_cons, ← close_moved hplace] at himage
      exact himage
  | _ => exact hafter

/-- A moved token inside a tag. -/
theorem mirrors_in_tag (tag : OpenTag) (chain : List Markup) (t : Token) :
    Mirrors (Phase.moved place) (liftExcept (inTag context tag chain t) : Logged Phase)
      (liftExcept (inTag { context with source } (tag.moved place) (chain.map (moved place))
        (t.rescaled width place))) := by
  have hafter := @mirrors_after_dot context source width place hplace tag chain t
  obtain ⟨lexeme, position⟩ := t
  cases lexeme with
  | idName value => exact mirrors_pure _ _
  | className value => exact mirrors_pure _ _
  | attributePair name value => exact mirrors_pure _ _
  | dot => exact mirrors_pure _ _
  | _ => exact hafter

/-- One more moved token. -/
theorem mirrors_step (state : State) (t : Token) :
    Mirrors (State.moved place) (step context state t)
      (step { context with source } (state.moved place) (t.rescaled width place)) := by
  obtain ⟨openLines, nodes, phase⟩ := state
  have hphase {x y : Logged Phase} (h : Mirrors (Phase.moved place) x y) :
      Mirrors (State.moved place) (do return ⟨openLines, nodes, ← x⟩)
        (do return ⟨openLines.map (OpenLine.moved place), nodes.map (moved place), ← y⟩) :=
    mirrors_bind h fun phase => mirrors_pure _ (State.mk openLines nodes phase)
  cases phase with
  | lineStart => exact mirrors_begin_line hplace openLines nodes t
  | afterColon chain =>
      refine hphase ?_
      show Mirrors _ (beginItem context (!openLines.isEmpty) chain t)
        (beginItem _ (!(openLines.map (OpenLine.moved place)).isEmpty) _ _)
      rw [List.isEmpty_map]
      exact mirrors_begin_item hplace _ chain t
  | inTag tag chain => exact hphase (mirrors_in_tag hplace tag chain t)
  | afterDot tag chain => exact hphase (mirrors_after_dot hplace tag chain t)
  | afterTag chain => exact hphase (mirrors_after_tag hplace chain t)
  | lineEnd chain => exact hphase (mirrors_end_line hplace chain t)
  | afterLine chain =>
      have hclose : Mirrors (State.moved place)
          (do
            let closed ← liftExcept (closeLine context chain [])
            beginLine context openLines (nodes ++ closed) t)
          (do
            let closed ← liftExcept (closeLine { context with source } (chain.map (moved place)) [])
            beginLine { context with source } (openLines.map (OpenLine.moved place))
              (nodes.map (moved place) ++ closed) (t.rescaled width place)) := by
        refine mirrors_bind (mirrors_close_line hplace chain []) fun closed => ?_
        rw [← List.map_append]
        exact mirrors_begin_line hplace openLines (nodes ++ closed) t
      obtain ⟨lexeme, position⟩ := t
      cases lexeme with
      | indent level =>
          exact mirrors_pure _ (State.mk (⟨chain, nodes⟩ :: openLines) [] .lineStart)
      | _ => exact hclose

omit hplace in
/-- Moved tokens end where the tokens do. -/
theorem up_to_end_map (tokens : List Token) :
    upToEnd (tokens.map (Token.rescaled width place)) =
      (upToEnd tokens).map (Token.rescaled width place) := by
  have hend : Token.isEnd ∘ Token.rescaled width place = Token.isEnd := by
    funext t
    obtain ⟨lexeme, position⟩ := t
    cases lexeme <;> rfl
  have hinside : (fun t => !Token.isEnd t) ∘ Token.rescaled width place = fun t => !t.isEnd :=
    funext fun t => congrArg not (congrFun hend t)
  unfold upToEnd
  rw [List.find?_map, hend, List.getLast?_map, List.takeWhile_map, hinside, List.length_map]
  cases tokens.find? Token.isEnd with
  | some last => simp
  | none =>
      cases tokens.getLast? with
      | some last => simp
      | none => rfl

/-- Moved tokens have the moved tree. -/
theorem mirrors_parse (tokens : List Token) :
    Mirrors (moved place) (parse context tokens)
      (parse { context with source } (tokens.map (Token.rescaled width place))) := by
  have hrest : Mirrors (moved place)
      (do return .block ⟨1, 0⟩ (← (upToEnd tokens).foldlM (step context) .start).nodes :
        Logged Markup)
      (do return .block ⟨1, 0⟩ (← (upToEnd (tokens.map (Token.rescaled width place))).foldlM
        (step { context with source }) .start).nodes) := by
    rw [up_to_end_map]
    refine mirrors_bind (mirrors_foldlM (mirrors_step hplace) _ .start) fun final => ?_
    have himage := mirrors_pure (σ := List Event) (moved place) (.block ⟨1, 0⟩ final.nodes)
    rw [moved, Markup.moved_all_eq_map] at himage
    exact himage
  unfold parse
  dsimp only
  rw [List.isEmpty_map]
  split
  · exact mirrors_throw rfl
  · exact hrest

end

end Parser

end ElementMarkup
