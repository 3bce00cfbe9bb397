import ElementMarkup.Proofs.Attempt
import ElementMarkup.Proofs.Grammar
import ElementMarkup.Proofs.Print.RoundTrip

/-!
# Parsing the tokens of a source

The lexer and the parser fit together. `Reads` is a triple over a run of tokens: read from a state
with one property they lead to a state with another one, unless the run fails with one of the faults
that are to be expected. A state is described by the number of its open lines and the kind of its
phase, so that each token of the grammar has one lemma, and a stream is read by induction. Main
statement: `parse_scanned`, the tokens of a source never meet the parser unprepared.
-/

namespace ElementMarkup

/-- The path of the template that a lexeme asks for. -/
def Lexeme.path? : Lexeme → Option String
  | extendsPath path => some path
  | includePath path => some path
  | _ => none

/-- A problem with what a template says and not with the tokens it is made of. -/
def Problem.isOfContent : Problem → Bool
  | extendsNotFirst => true
  | extendsNotTopLevel => true
  | invalidBlockName _ => true
  | nestedContent _ => true
  | _ => false

namespace Parser

open Attempt Token

/-- A fault that parsing well-formed tokens can end with: a problem of content, or a fault of
loading a template that one of the tokens asks for. -/
def IsExpected (context : Context) (tokens : List Token) (fault : Fault) : Prop :=
  (∃ problem position, problem.isOfContent = true ∧ fault = context.fault problem position) ∨
  ∃ t ∈ tokens, ∃ path, t.lexeme.path? = some path ∧
    ∃ before after, Fails (context.load path t.position.line) before fault after

variable {context : Context} {tokens : List Token}

/-- A problem of content is expected. -/
theorem IsExpected.of_problem {problem : Problem} (h : problem.isOfContent = true)
    (position : Position) : IsExpected context tokens (context.fault problem position) :=
  .inl ⟨problem, position, h, rfl⟩

/-- A fault of loading a template that a token asks for is expected. -/
theorem ends_load {t : Token} (ht : t ∈ tokens) {path : String}
    (hpath : t.lexeme.path? = some path) :
    Ends (context.load path t.position.line) (fun _ => True) (IsExpected context tokens) where
  value _ _ _ _ := trivial
  fault before _ after h := .inr ⟨t, ht, path, hpath, before, after, h⟩

/-! ## Closing lines -/

/-- Content is refused only by a node that cannot hold any. -/
theorem attach_error {node : Markup} {content : List Markup} {fault : Fault}
    (h : attach context node content = .error fault) : IsExpected context tokens fault := by
  unfold attach at h
  split at h
  · cases h
  · cases h
  · cases h
  · cases h
    exact .of_problem rfl _

/-- The nodes of a line are put inside each other unless one cannot hold content. -/
theorem nest_error {inner : Markup} {chain : List Markup} {fault : Fault}
    (h : nest context inner chain = .error fault) : IsExpected context tokens fault := by
  induction chain generalizing inner with
  | nil => cases h
  | cons outer chain ih =>
      rw [nest] at h
      cases hnode : attach context outer [inner] with
      | error other =>
          rw [hnode] at h
          cases h
          exact attach_error hnode
      | ok node =>
          rw [hnode] at h
          exact ih h

/-- Closing a line fails only if a node on it cannot hold content. -/
theorem ends_close_line (chain content : List Markup) :
    Ends (liftExcept (closeLine context chain content) : Logged (List Markup)) (fun _ => True)
      (IsExpected context tokens) := by
  refine ends_lift_except (fun _ _ => trivial) ?_
  intro fault h
  cases chain with
  | nil => cases h
  | cons inner outer =>
      rw [closeLine] at h
      cases hnode : attach context inner content with
      | error other =>
          rw [hnode] at h
          cases h
          exact attach_error hnode
      | ok node =>
          rw [hnode] at h
          cases hline : nest context node outer with
          | error other =>
              have heq : other = fault := by simpa [bind, Except.bind, hline] using h
              exact heq ▸ nest_error hline
          | ok line => simp [bind, Except.bind, hline, pure, Except.pure] at h

/-! ## Phases -/

namespace Phase

/-- Between two lines. -/
def isBetween : Phase → Bool
  | lineStart => true
  | afterLine _ => true
  | _ => false

/-- Right after a line. -/
def isAfterLine : Phase → Bool
  | afterLine _ => true
  | _ => false

/-- Where an item of a line is to come. -/
def isBeforeItem : Phase → Bool
  | lineStart => true
  | afterColon _ => true
  | afterLine _ => true
  | _ => false

/-- Where an attribute can come. -/
def isInTag : Phase → Bool
  | inTag _ _ => true
  | _ => false

/-- After the dot of a tag. -/
def isAfterDot : Phase → Bool
  | afterDot _ _ => true
  | _ => false

/-- Where a line can end. -/
def canEnd : Phase → Bool
  | inTag _ _ => true
  | afterDot _ _ => true
  | afterTag _ => true
  | lineEnd _ => true
  | _ => false

/-- An item can come between two lines. -/
theorem is_before_item_of_is_between {phase : Phase} (h : phase.isBetween = true) :
    phase.isBeforeItem = true := by
  cases phase with
  | lineStart | afterLine => rfl
  | _ => cases h

/-- Right after a line is between two. -/
theorem is_between_of_is_after_line {phase : Phase} (h : phase.isAfterLine = true) :
    phase.isBetween = true := by
  cases phase with
  | afterLine => rfl
  | _ => cases h

/-- A line can end after its last attribute. -/
theorem can_end_of_is_in_tag {phase : Phase} (h : phase.isInTag = true) : phase.canEnd = true := by
  cases phase with
  | inTag => rfl
  | _ => cases h

/-- A line can end after its dot. -/
theorem can_end_of_is_after_dot {phase : Phase} (h : phase.isAfterDot = true) :
    phase.canEnd = true := by
  cases phase with
  | afterDot => rfl
  | _ => cases h

end Phase

/-- The number of open lines is `depth`, and the phase is of a kind. -/
def State.At (depth : Nat) (kind : Phase → Bool) (state : State) : Prop :=
  state.openLines.length = depth ∧ kind state.phase = true

/-- A phase of one kind is of another. -/
theorem State.At.imp {depth : Nat} {kind other : Phase → Bool} {state : State}
    (h : state.At depth kind) (himp : ∀ {phase : Phase}, kind phase = true → other phase = true) :
    state.At depth other :=
  ⟨h.1, himp h.2⟩

/-! ## Triples -/

/-- Read from a state with the property `start` the tokens of a run lead to one with the property
`stop`, unless reading them fails with a fault that is to be expected of all the tokens. -/
def Reads (context : Context) (tokens : List Token) (start : State → Prop) (run : List Token)
    (stop : State → Prop) : Prop :=
  ∀ state, start state →
    Ends (run.foldlM (step context) state) stop (IsExpected context tokens)

variable {start middle stop : State → Prop}

/-- Reading nothing leaves the state. -/
theorem Reads.nil (h : ∀ state, start state → stop state) :
    Reads context tokens start [] stop := by
  intro state hstate
  exact ends_pure (h state hstate)

/-- One token after another. -/
theorem Reads.append {first second : List Token} (hfirst : Reads context tokens start first middle)
    (hsecond : Reads context tokens middle second stop) :
    Reads context tokens start (first ++ second) stop := by
  intro state hstate
  rw [List.foldlM_append]
  exact ends_bind (hfirst state hstate) hsecond

/-- A token and then others. -/
theorem Reads.cons {t : Token} {run : List Token}
    (ht : ∀ state, start state → Ends (step context state t) middle (IsExpected context tokens))
    (hrun : Reads context tokens middle run stop) :
    Reads context tokens start (t :: run) stop := by
  intro state hstate
  rw [List.foldlM_cons]
  exact ends_bind (ht state hstate) hrun

/-- A triple holds from fewer states. -/
theorem Reads.weaken {run : List Token} (hrun : Reads context tokens middle run stop)
    (h : ∀ state, start state → middle state) : Reads context tokens start run stop :=
  fun state hstate => hrun state (h state hstate)

/-! ## Steps -/

/-- A lexeme that an item of a line can start with. -/
def startsItem : Lexeme → Bool
  | .tagName _ => true
  | .text _ => true
  | .blockName (.text _) => true
  | .extendsPath _ => true
  | .includePath _ => true
  | _ => false

/-- The kind of phase after the first token of an item. -/
def afterItem : Lexeme → Phase → Bool
  | .tagName _ => Phase.isInTag
  | _ => Phase.canEnd

/-- The first token of an item starts the item. -/
theorem ends_begin_item {t : Token} (ht : t ∈ tokens) (hitem : startsItem t.lexeme = true)
    (nested : Bool) (chain : List Markup) :
    Ends (beginItem context nested chain t) (fun phase => afterItem t.lexeme phase = true)
      (IsExpected context tokens) := by
  unfold beginItem
  cases hlexeme : t.lexeme with
  | tagName name => exact ends_pure rfl
  | text value => exact ends_pure rfl
  | blockName name =>
      rw [hlexeme] at hitem
      cases name with
      | text name =>
          dsimp only
          split
          · exact ends_pure rfl
          · exact ends_throw (.of_problem rfl _)
      | _ => cases hitem
  | extendsPath path =>
      dsimp only
      split
      · exact ends_bind (ends_throw (.of_problem rfl _)) fun _ (h : False) => h.elim
      · exact ends_bind (ends_load ht (by rw [hlexeme]; rfl)) fun _ _ => ends_pure rfl
  | includePath path =>
      exact ends_bind (ends_load ht (by rw [hlexeme]; rfl)) fun _ _ => ends_pure rfl
  | _ =>
      rw [hlexeme] at hitem
      cases hitem

/-- The first token of an item starts a line. -/
theorem ends_begin_line {t : Token} (ht : t ∈ tokens) (hitem : startsItem t.lexeme = true)
    (openLines : List OpenLine) (nodes : List Markup) :
    Ends (beginLine context openLines nodes t) (State.At openLines.length (afterItem t.lexeme))
      (IsExpected context tokens) := by
  have hline : Ends (do
      let phase ← beginItem context (!openLines.isEmpty) [] t
      return (⟨openLines, nodes, phase⟩ : State)) (State.At openLines.length (afterItem t.lexeme))
      (IsExpected context tokens) :=
    ends_bind (ends_begin_item ht hitem _ []) fun _ h => ends_pure ⟨rfl, h⟩
  unfold beginLine
  cases hlexeme : t.lexeme with
  | indent | outdent | endOfSource =>
      rw [hlexeme] at hitem
      cases hitem
  | extendsPath path =>
      rw [hlexeme] at hline
      dsimp only
      split
      · exact ends_bind (ends_throw (.of_problem rfl _)) fun _ (h : False) => h.elim
      · exact hline
  | _ =>
      rw [hlexeme] at hline
      exact hline

/-- Between two lines a token that opens no level meets the level with the line closed. -/
theorem ends_step_between {t : Token} (ht : t.lexeme.isIndent = false) {state : State}
    (hphase : state.phase.isBetween = true)
    (hbegin : ∀ nodes, Ends (beginLine context state.openLines nodes t) stop
      (IsExpected context tokens)) :
    Ends (step context state t) stop (IsExpected context tokens) := by
  obtain ⟨openLines, nodes, phase⟩ := state
  cases phase with
  | lineStart => exact hbegin nodes
  | afterLine chain =>
      have hline : Ends (do
          let closed ← liftExcept (closeLine context chain [])
          beginLine context openLines (nodes ++ closed) t) stop (IsExpected context tokens) :=
        ends_bind (ends_close_line chain []) fun closed _ => hbegin _
      unfold step
      cases hlexeme : t.lexeme with
      | indent =>
          rw [hlexeme] at ht
          cases ht
      | _ => exact hline
  | _ => cases hphase

/-- Where an item is to come its first token is taken. -/
theorem ends_step_item {t : Token} (ht : t ∈ tokens) (hitem : startsItem t.lexeme = true)
    {depth : Nat} {state : State} (hstate : state.At depth Phase.isBeforeItem) :
    Ends (step context state t) (State.At depth (afterItem t.lexeme))
      (IsExpected context tokens) := by
  have hindent : t.lexeme.isIndent = false := by
    cases hlexeme : t.lexeme with
    | indent =>
        rw [hlexeme] at hitem
        cases hitem
    | _ => rfl
  obtain ⟨openLines, nodes, phase⟩ := state
  obtain ⟨rfl, hphase⟩ := hstate
  cases phase with
  | lineStart | afterLine =>
      exact ends_step_between hindent rfl fun nodes => ends_begin_line ht hitem openLines nodes
  | afterColon chain =>
      exact ends_bind (ends_begin_item ht hitem _ chain) fun _ h => ends_pure ⟨rfl, h⟩
  | _ => cases hphase

/-- After a tag name or an attribute a token leads on as the tag does. -/
theorem ends_step_in_tag {kind : Phase → Bool} {t : Token} {depth : Nat} {state : State}
    (hstate : state.At depth Phase.isInTag)
    (hnext : ∀ tag chain, ∃ next, inTag context tag chain t = .ok next ∧ kind next = true) :
    Ends (step context state t) (State.At depth kind) (IsExpected context tokens) := by
  obtain ⟨openLines, nodes, phase⟩ := state
  obtain ⟨rfl, hphase⟩ := hstate
  cases phase with
  | inTag tag chain =>
      obtain ⟨next, hinTag, hkind⟩ := hnext tag chain
      unfold step
      dsimp only
      rw [hinTag]
      exact ends_pure ⟨rfl, hkind⟩
  | _ => cases hphase

/-- Attributes can follow each other. -/
theorem reads_attributes {run : List Token} (hrun : ∀ t ∈ run, t.lexeme.isAttribute = true)
    (depth : Nat) :
    Reads context tokens (State.At depth Phase.isInTag) run (State.At depth Phase.isInTag) := by
  induction run with
  | nil => exact .nil fun _ h => h
  | cons t run ih =>
      obtain ⟨ht, hmore⟩ := List.forall_mem_cons.mp hrun
      refine .cons (fun state hstate => ends_step_in_tag hstate ?_) (ih hmore)
      intro tag chain
      unfold inTag
      cases hlexeme : t.lexeme with
      | idName | className | attributePair => exact ⟨_, rfl, rfl⟩
      | _ =>
          rw [hlexeme] at ht
          cases ht

/-- A text can follow the dot of a tag. -/
theorem ends_step_after_dot {t : Token} {value : String} (ht : t.lexeme = .text value) {depth : Nat}
    {state : State} (hstate : state.At depth Phase.isAfterDot) :
    Ends (step context state t) (State.At depth Phase.canEnd) (IsExpected context tokens) := by
  obtain ⟨openLines, nodes, phase⟩ := state
  obtain ⟨rfl, hphase⟩ := hstate
  cases phase with
  | afterDot tag chain =>
      unfold step afterDot
      rw [ht]
      exact ends_pure ⟨rfl, rfl⟩
  | _ => cases hphase

/-- Inline content leads to where a line can end. -/
theorem reads_inline {run : List Token} (hrun : IsInline (lexemes run)) (depth : Nat) :
    Reads context tokens (State.At depth Phase.isInTag) run (State.At depth Phase.canEnd) := by
  generalize hls : lexemes run = ls at hrun
  cases hrun with
  | nothing =>
      obtain rfl := List.map_eq_nil_iff.mp hls
      exact .nil fun _ h => h.imp Phase.can_end_of_is_in_tag
  | dot =>
      obtain ⟨t, rest, rfl, ht, hrest⟩ := List.map_eq_cons_iff.mp hls
      obtain rfl := List.map_eq_nil_iff.mp hrest
      refine .cons (fun state hstate => ends_step_in_tag hstate ?_)
        (.nil fun _ h => h.imp Phase.can_end_of_is_after_dot)
      intro tag chain
      rw [inTag, ht]
      exact ⟨_, rfl, rfl⟩
  | textBlock value =>
      obtain ⟨t, rest, rfl, ht, hrest⟩ := List.map_eq_cons_iff.mp hls
      obtain ⟨u, rest, rfl, hu, hrest⟩ := List.map_eq_cons_iff.mp hrest
      obtain rfl := List.map_eq_nil_iff.mp hrest
      have hdot : ∀ tag chain, ∃ next, inTag context tag chain t = .ok next ∧
          next.isAfterDot = true := by
        intro tag chain
        rw [inTag, ht]
        exact ⟨_, rfl, rfl⟩
      exact .cons (fun state hstate => ends_step_in_tag hstate hdot)
        (.cons (fun state hstate => ends_step_after_dot hu hstate) (.nil fun _ h => h))
  | text value =>
      obtain ⟨t, rest, rfl, ht, hrest⟩ := List.map_eq_cons_iff.mp hls
      obtain rfl := List.map_eq_nil_iff.mp hrest
      refine .cons (fun state hstate => ends_step_in_tag hstate ?_) (.nil fun _ h => h)
      intro tag chain
      unfold inTag afterDot
      rw [ht]
      exact ⟨_, rfl, rfl⟩

/-- An item that is one token leads to where a line can end. -/
theorem reads_single {run : List Token} {l : Lexeme} (hrun : lexemes run = [l])
    (hsubset : run ⊆ tokens) (hitem : startsItem l = true) (hend : afterItem l = Phase.canEnd)
    (depth : Nat) :
    Reads context tokens (State.At depth Phase.isBeforeItem) run (State.At depth Phase.canEnd) := by
  obtain ⟨t, rest, rfl, rfl, hrest⟩ := List.map_eq_cons_iff.mp hrun
  obtain rfl := List.map_eq_nil_iff.mp hrest
  rw [← hend]
  exact .cons (fun state hstate => ends_step_item (hsubset List.mem_cons_self) hitem hstate)
    (.nil fun _ h => h)

/-- After the name of a tag its attributes can come. -/
theorem Reads.tag_name {t : Token} (ht : t ∈ tokens) {name : String}
    (hname : t.lexeme = .tagName name) {depth : Nat} {run : List Token}
    (hrun : Reads context tokens (State.At depth Phase.isInTag) run stop) :
    Reads context tokens (State.At depth Phase.isBeforeItem) (t :: run) stop := by
  have hafter : afterItem t.lexeme = Phase.isInTag := by rw [hname]; rfl
  rw [← hafter] at hrun
  exact .cons (fun state hstate => ends_step_item ht (by rw [hname]; rfl) hstate) hrun

/-- The content of a line leads to where the line can end. -/
theorem reads_content {run : List Token} (hrun : IsContent (lexemes run)) (hsubset : run ⊆ tokens)
    (depth : Nat) :
    Reads context tokens (State.At depth Phase.isBeforeItem) run (State.At depth Phase.canEnd) := by
  generalize hls : lexemes run = ls at hrun
  -- The induction is on the colons of the line: what follows one is content again.
  induction hrun generalizing run with
  | text | blockName | extendsPath | includePath => exact reads_single hls hsubset rfl rfl depth
  | @tag name attributes inline ha hinline =>
      obtain ⟨t, rest, rfl, ht, hrest⟩ := List.map_eq_cons_iff.mp hls
      obtain ⟨as, after, rfl, rfl, rfl⟩ := List.map_eq_append_iff.mp hrest
      have has : ∀ a ∈ as, a.lexeme.isAttribute = true := by simpa using ha
      exact .tag_name (hsubset List.mem_cons_self) ht
        (.append (reads_attributes has depth) (reads_inline hinline depth))
  | @expansion name attributes inner ha hinner ih =>
      obtain ⟨t, rest, rfl, ht, hrest⟩ := List.map_eq_cons_iff.mp hls
      obtain ⟨as, after, rfl, rfl, hafter⟩ := List.map_eq_append_iff.mp hrest
      obtain ⟨colon, inside, rfl, hcolon, hinside⟩ := List.map_eq_cons_iff.mp hafter
      have has : ∀ a ∈ as, a.lexeme.isAttribute = true := by simpa using ha
      have hsubset' : inside ⊆ tokens := fun u hu => hsubset (by simp [hu])
      refine .tag_name (hsubset List.mem_cons_self) ht (.append (reads_attributes has depth)
        (.cons (fun state hstate => ends_step_in_tag hstate ?_) (ih hsubset' hinside)))
      intro tag chain
      unfold inTag afterDot afterTag
      rw [hcolon]
      exact ⟨_, rfl, rfl⟩

/-- Where a line can end its end is taken. -/
theorem ends_step_newline {t : Token} (ht : t.lexeme = .newline) {depth : Nat} {state : State}
    (hstate : state.At depth Phase.canEnd) :
    Ends (step context state t) (State.At depth Phase.isAfterLine) (IsExpected context tokens) := by
  obtain ⟨openLines, nodes, phase⟩ := state
  obtain ⟨rfl, hphase⟩ := hstate
  cases phase with
  | inTag tag chain =>
      refine ends_step_in_tag ⟨rfl, rfl⟩ ?_
      intro tag chain
      unfold inTag afterDot afterTag endLine
      rw [ht]
      exact ⟨_, rfl, rfl⟩
  | afterDot tag chain =>
      unfold step afterDot afterTag endLine
      rw [ht]
      exact ends_pure ⟨rfl, rfl⟩
  | afterTag chain =>
      unfold step afterTag endLine
      rw [ht]
      exact ends_pure ⟨rfl, rfl⟩
  | lineEnd chain =>
      unfold step endLine
      rw [ht]
      exact ends_pure ⟨rfl, rfl⟩
  | _ => cases hphase

/-- A line of content can stand where an item can. -/
theorem reads_line {content : List Token} {ending : Token} (hcontent : IsContent (lexemes content))
    (hending : ending.lexeme = .newline) (hsubset : content ⊆ tokens) {depth : Nat}
    {more : List Token}
    (hmore : Reads context tokens (State.At depth Phase.isAfterLine) more stop) :
    Reads context tokens (State.At depth Phase.isBeforeItem) (content ++ ending :: more) stop :=
  .append (reads_content hcontent hsubset depth)
    (.cons (fun _ hstate => ends_step_newline hending hstate) hmore)

/-! ## Changes of level -/

/-- A level opens after a line. -/
theorem ends_step_indent {t : Token} (ht : t.lexeme.isIndent = true) {depth : Nat} {state : State}
    (hstate : state.At depth Phase.isAfterLine) :
    Ends (step context state t) (State.At (depth + 1) Phase.isBeforeItem)
      (IsExpected context tokens) := by
  obtain ⟨openLines, nodes, phase⟩ := state
  obtain ⟨rfl, hphase⟩ := hstate
  cases phase with
  | afterLine chain =>
      unfold step
      cases hlexeme : t.lexeme with
      | indent => exact ends_pure ⟨rfl, rfl⟩
      | _ =>
          rw [hlexeme] at ht
          cases ht
  | _ => cases hphase

/-- Where a level is open it can end. -/
theorem ends_step_outdent {t : Token} (ht : t.lexeme.isOutdent = true) {depth : Nat} {state : State}
    (hstate : state.At (depth + 1) Phase.isBetween) :
    Ends (step context state t) (State.At depth Phase.isBetween) (IsExpected context tokens) := by
  refine ends_step_between (Lexeme.level_step_of_is_outdent ht).1 hstate.2 ?_
  intro nodes
  have hdepth := hstate.1
  cases hopen : state.openLines with
  | nil =>
      rw [hopen] at hdepth
      cases hdepth
  | cons line openLines =>
      rw [hopen] at hdepth
      unfold beginLine
      cases hlexeme : t.lexeme with
      | outdent =>
          exact ends_bind (ends_close_line line.chain nodes) fun _ _ =>
            ends_pure ⟨Nat.succ.inj hdepth, rfl⟩
      | _ =>
          rw [hlexeme] at ht
          cases ht

/-- Levels that are open can end in a row. -/
theorem reads_outdents {closing : List Token} (h : ∀ t ∈ closing, t.lexeme.isOutdent = true)
    (depth : Nat) :
    Reads context tokens (State.At (depth + closing.length) Phase.isBetween) closing
      (State.At depth Phase.isBetween) := by
  induction closing with
  | nil => exact .nil fun _ hstate => hstate
  | cons t closing ih =>
      obtain ⟨ht, hmore⟩ := List.forall_mem_cons.mp h
      exact .cons (fun state hstate => ends_step_outdent ht hstate) (ih hmore)

/-- With no level open the source can end. -/
theorem ends_step_end_of_source {t : Token} (ht : t.lexeme = .endOfSource) {state : State}
    (hstate : state.At 0 Phase.isBetween) :
    Ends (step context state t) (fun _ => True) (IsExpected context tokens) := by
  refine ends_step_between (by rw [ht]; rfl) hstate.2 ?_
  intro nodes
  rw [List.length_eq_zero_iff.mp hstate.1]
  unfold beginLine
  rw [ht]
  exact ends_pure trivial

/-! ## Streams -/

/-- The end of a stream is read between two lines. -/
theorem reads_finish {closing : List Token} {ending : Token}
    (hclosing : ∀ t ∈ closing, t.lexeme.isOutdent = true) (hend : ending.lexeme = .endOfSource) :
    Reads context tokens (State.At closing.length Phase.isBetween) (closing ++ [ending])
      fun _ => True := by
  have hread : Reads context tokens (State.At (0 + closing.length) Phase.isBetween) closing
      (State.At 0 Phase.isBetween) := reads_outdents hclosing 0
  rw [Nat.zero_add] at hread
  exact .append hread
    (.cons (fun _ hstate => ends_step_end_of_source hend hstate) (.nil fun _ h => h))

/-- A line of a stream that opens no level is read between two lines. -/
theorem reads_level {depth : Nat} {closing content more : List Token} {ending : Token}
    (hclosing : ∀ t ∈ closing, t.lexeme.isOutdent = true)
    (hcontent : IsContent (lexemes content)) (hending : ending.lexeme = .newline)
    (hsubset : content ⊆ tokens)
    (hmore : Reads context tokens (State.At depth Phase.isAfterLine) more stop) :
    Reads context tokens (State.At (depth + closing.length) Phase.isBetween)
      (closing ++ (content ++ ending :: more)) stop :=
  .append (reads_outdents hclosing depth)
    ((reads_line hcontent hending hsubset hmore).weaken fun _ h =>
      h.imp Phase.is_before_item_of_is_between)

/-- A stream is read after a line inside as many levels. -/
theorem reads_stream {depth : Nat} {run : List Token} (h : Stream depth run)
    (hsubset : run ⊆ tokens) :
    Reads context tokens (State.At depth Phase.isAfterLine) run fun _ => True := by
  -- At the end of each line as many lines are open as the stream has levels.
  induction h with
  | finish hclosing hend =>
      exact (reads_finish hclosing hend).weaken fun _ h => h.imp Phase.is_between_of_is_after_line
  | deeper hopening hcontent hending _ ih =>
      refine .cons (fun state hstate => ends_step_indent hopening hstate) ?_
      exact reads_line hcontent hending (fun t ht => hsubset (by simp [ht]))
        (ih fun t ht => hsubset (by simp [ht]))
  | level hclosing hcontent hending _ ih =>
      refine (reads_level hclosing hcontent hending (fun t ht => hsubset (by simp [ht]))
        (ih fun t ht => hsubset (by simp [ht]))).weaken ?_
      intro state hstate
      exact hstate.imp Phase.is_between_of_is_after_line

/-- A stream that opens no level at once is read between two lines. -/
theorem reads_stream_between {depth : Nat} {run : List Token} (h : Stream depth run)
    (hsubset : run ⊆ tokens) (hhead : run.head?.any (·.lexeme.isIndent) = false) :
    Reads context tokens (State.At depth Phase.isBetween) run fun _ => True := by
  -- After its first line the stream is read after a line.
  cases h with
  | finish hclosing hend => exact reads_finish hclosing hend
  | deeper hopening => exact absurd hopening (Bool.not_eq_true _ ▸ hhead)
  | level hclosing hcontent hending hmore =>
      exact reads_level hclosing hcontent hending (fun t ht => hsubset (by simp [ht]))
        (reads_stream hmore fun t ht => hsubset (by simp [ht]))

/-! ## Sources -/

/-- The tokens of a named template are those of its source. -/
theorem scan_of_of_source {source : String} {name : Option String}
    (h : Token.ofSource source name = .ok tokens) : scan source = .ok tokens := by
  unfold Token.ofSource at h
  cases hscan : scan source with
  | ok scanned =>
      rw [hscan] at h
      cases h
      rfl
  | error flaw =>
      rw [hscan] at h
      cases h

/-- All the tokens of a stream are read. -/
theorem parse_stream {depth : Nat} (h : Stream depth tokens) :
    parse context tokens = (do
      let final ← tokens.foldlM (step context) .start
      return .block ⟨1, 0⟩ final.nodes) := by
  obtain ⟨front, last, rfl, hlast, hfront⟩ := h.ends
  have hshapes : .endOfSource ∉ Print.shapes front := by
    intro hmem
    obtain ⟨t, ht, hshape⟩ := List.mem_map.mp hmem
    exact hfront t ht (Print.lexeme_of_shape hshape (by simp) (by simp))
  rw [parse, Print.up_to_end_of_ends hshapes hlast]
  simp

/-- Tokens that open a level at once are refused. -/
theorem parse_of_indent {depth : Nat} (h : Stream depth tokens)
    (hhead : tokens.head?.any (·.lexeme.isIndent) = true) :
    ∃ position, parse context tokens = throw (context.fault .unexpectedIndentation position) := by
  cases tokens with
  | nil => cases hhead
  | cons t run =>
      have hstep : step context .start t =
          throw (context.fault .unexpectedIndentation t.position) := by
        unfold step State.start beginLine
        cases hlexeme : t.lexeme with
        | indent => rfl
        | _ =>
            simp only [List.head?_cons, Option.any_some, hlexeme] at hhead
            cases hhead
      refine ⟨t.position, ?_⟩
      rw [parse_stream h, List.foldlM_cons, hstep]
      rfl

/-- Parsing tokens that open no level at once fails in expected ways only. -/
theorem ends_parse {tokens : List Token} (h : Stream 0 tokens)
    (hhead : tokens.head?.any (·.lexeme.isIndent) = false) :
    Ends (parse context tokens) (fun _ => True) (IsExpected context tokens) := by
  rw [parse_stream h]
  exact ends_bind (reads_stream_between h (List.Subset.refl _) hhead .start ⟨rfl, rfl⟩) fun _ _ =>
    ends_pure trivial

/-- Parsing the tokens of a source fails with a problem of the source or with the fault of loading a
template that it asks for. -/
theorem fault_of_parse {source : String} (h : scan source = .ok tokens) {fault : Fault}
    {before after : List Event} (hfails : Fails (parse context tokens) before fault after) :
    (∃ problem position, fault = context.fault problem position) ∨
    ∃ t ∈ tokens, ∃ path, t.lexeme.path? = some path ∧
      ∃ before after, Fails (context.load path t.position.line) before fault after := by
  have hstream := stream_scan h
  cases hhead : tokens.head?.any (·.lexeme.isIndent) with
  | true =>
      obtain ⟨position, hparse⟩ : ∃ position, parse context tokens =
          throw (context.fault .unexpectedIndentation position) := parse_of_indent hstream hhead
      rw [hparse] at hfails
      exact .inl ⟨_, position, (fails_throw.mp hfails).1.symm⟩
  | false =>
      rcases (ends_parse hstream hhead).fault before fault after hfails with
        ⟨problem, position, -, rfl⟩ | hload
      · exact .inl ⟨problem, position, rfl⟩
      · exact .inr hload

/-! ## Loading -/

/-- The first token of an item that asks for a template is taken only if the template is loaded. -/
theorem loads_of_begin_item {t : Token} {path : String} (hpath : t.lexeme.path? = some path)
    {nested : Bool} {chain : List Markup} {phase : Phase} {before after : List Event}
    (h : Yields (beginItem context nested chain t) before phase after) :
    ∃ before tree after, Yields (context.load path t.position.line) before tree after := by
  unfold beginItem at h
  cases hlexeme : t.lexeme with
  | extendsPath other =>
      rw [hlexeme] at h hpath
      cases hpath
      dsimp only at h
      split at h
      · obtain ⟨_, _, hthrow, -⟩ := yields_bind.mp h
        exact absurd hthrow not_yields_throw
      · obtain ⟨tree, u, hload, -⟩ := yields_bind.mp h
        exact ⟨before, tree, u, hload⟩
  | includePath other =>
      rw [hlexeme] at h hpath
      cases hpath
      obtain ⟨tree, u, hload, -⟩ := yields_bind.mp h
      exact ⟨before, tree, u, hload⟩
  | _ =>
      rw [hlexeme] at hpath
      cases hpath

/-- At the start of a line, too, a token that asks for a template is taken only if the template is
loaded. -/
theorem loads_of_begin_line {t : Token} {path : String} (hpath : t.lexeme.path? = some path)
    {openLines : List OpenLine} {nodes : List Markup} {next : State} {before after : List Event}
    (h : Yields (beginLine context openLines nodes t) before next after) :
    ∃ before tree after, Yields (context.load path t.position.line) before tree after := by
  unfold beginLine at h
  cases hlexeme : t.lexeme with
  | extendsPath other =>
      rw [hlexeme] at h
      dsimp only at h
      split at h
      · obtain ⟨_, _, hthrow, -⟩ := yields_bind.mp h
        exact absurd hthrow not_yields_throw
      · obtain ⟨phase, u, hbegin, -⟩ := yields_bind.mp h
        exact loads_of_begin_item hpath hbegin
  | includePath other =>
      rw [hlexeme] at h
      obtain ⟨phase, u, hbegin, -⟩ := yields_bind.mp h
      exact loads_of_begin_item hpath hbegin
  | _ =>
      rw [hlexeme] at hpath
      cases hpath

/-- A token that asks for a template is taken only if the template is loaded. -/
theorem loads_of_step {t : Token} {path : String} (hpath : t.lexeme.path? = some path)
    {state next : State} {before after : List Event}
    (h : Yields (step context state t) before next after) :
    ∃ before tree after, Yields (context.load path t.position.line) before tree after := by
  obtain ⟨openLines, nodes, phase⟩ := state
  unfold step at h
  cases hlexeme : t.lexeme with
  | extendsPath | includePath =>
      cases phase with
      | lineStart => exact loads_of_begin_line hpath h
      | afterColon chain =>
          obtain ⟨phase, u, hbegin, -⟩ := yields_bind.mp h
          exact loads_of_begin_item hpath hbegin
      | afterLine chain =>
          rw [hlexeme] at h
          obtain ⟨closed, u, -, hbegin⟩ := yields_bind.mp h
          exact loads_of_begin_line hpath hbegin
      | _ =>
          -- Inside a line such a token is out of place.
          obtain ⟨phase, u, hinside, -⟩ := yields_bind.mp h
          simp [inTag, afterDot, afterTag, endLine, hlexeme] at hinside
  | _ =>
      rw [hlexeme] at hpath
      cases hpath

/-- Tokens are read only if all templates that they ask for are loaded. -/
theorem loads_of_foldlM {run : List Token} {state final : State} {before after : List Event}
    (h : Yields (run.foldlM (step context) state) before final after) {t : Token} (ht : t ∈ run)
    {path : String} (hpath : t.lexeme.path? = some path) :
    ∃ before tree after, Yields (context.load path t.position.line) before tree after := by
  induction run generalizing state before with
  | nil => cases ht
  | cons first run ih =>
      rw [List.foldlM_cons] at h
      obtain ⟨next, u, hstep, hmore⟩ := yields_bind.mp h
      rcases List.mem_cons.mp ht with rfl | ht
      · exact loads_of_step hpath hstep
      · exact ih hmore ht

/-- The tokens of a source are parsed only if all templates that they ask for are loaded. -/
theorem loads_of_parse {source : String} (hscan : scan source = .ok tokens) {tree : Markup}
    {before after : List Event} (h : Yields (parse context tokens) before tree after) {t : Token}
    (ht : t ∈ tokens) {path : String} (hpath : t.lexeme.path? = some path) :
    ∃ before tree after, Yields (context.load path t.position.line) before tree after := by
  rw [parse_stream (stream_scan hscan)] at h
  obtain ⟨final, u, hfold, -⟩ := yields_bind.mp h
  exact loads_of_foldlM hfold ht hpath

/-! ## The two together -/

/-- The tokens of a source are well formed, and the parser is prepared for them. If the first line
that is not blank is indented, it says so; otherwise the only faults are problems of content and
those of loading other templates. -/
theorem parse_scanned {source : String} {name : Option String} {tokens : List Token}
    (h : Token.ofSource source name = .ok tokens) :
    WellFormed tokens ∧
    ∀ (context : Context) (events : List Event),
      (startsIndented source = true → ∃ position, (parse context tokens).run.run events =
        (.error (context.fault .unexpectedIndentation position), events)) ∧
      (startsIndented source = false → ∀ fault after,
        (parse context tokens).run.run events = (.error fault, after) →
          IsExpected context tokens fault) := by
  have hscan := scan_of_of_source h
  have hstream := stream_scan hscan
  have hhead := is_indent_head_scan hscan
  refine ⟨hstream.well_formed, ?_⟩
  intro context events
  constructor
  · intro hindented
    obtain ⟨position, hparse⟩ : ∃ position, parse context tokens =
        throw (context.fault .unexpectedIndentation position) :=
      parse_of_indent hstream (hhead.trans hindented)
    exact ⟨position, by rw [hparse]; rfl⟩
  · intro hindented fault after hfails
    exact (ends_parse hstream (hhead.trans hindented)).fault events fault after hfails

/-- A tag after a colon that opens a block of text, lines inside each other, and a line that loads
another template. -/
theorem parse_scanned_nested :
    let source := "section#top(x=1): p.\n  some text\n\nul\n  li: a.b hello\n      block side\n" ++
      "  include part.pug"
    ∃ tokens, Token.ofSource source none = .ok tokens ∧ tokens.length = 25 ∧ WellFormed tokens ∧
      startsIndented source = false ∧
      ∀ (context : Context) (events : List Event) (fault : Fault) (after : List Event),
        (parse context tokens).run.run events = (.error fault, after) →
          IsExpected context tokens fault := by
  intro source
  have hlength : (match Token.ofSource source none with
    | .ok tokens => tokens.length == 25
    | .error _ => false) = true := by decide +kernel
  cases htokens : Token.ofSource source none with
  | error fault =>
      rw [htokens] at hlength
      cases hlength
  | ok tokens =>
      rw [htokens] at hlength
      obtain ⟨hwellFormed, hparse⟩ := parse_scanned htokens
      have hindented : startsIndented source = false := by decide +kernel
      exact ⟨tokens, rfl, beq_iff_eq.mp hlength, hwellFormed, hindented, fun context events =>
        (hparse context events).2 hindented⟩

end Parser

end ElementMarkup
