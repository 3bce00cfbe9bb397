import ElementMarkup.Environment
import ElementMarkup.Proofs.Attempt

/-!
# Two runs side by side

Two attempts that are made of the same steps are related if their steps are, for every relation that
goes along with doing one thing after another. A `Congruence` is such a relation. `rel_parse`
carries it from the contexts of two parsers to what they build, and `rel_compile_step` from the ways
in which placeholders are treated to the compilation of a node, so that a statement about two runs
has to be proved only where the runs differ.
-/

namespace ElementMarkup

namespace Attempt

variable {σ α β : Type}

/-- A relation between attempts that holds of two rows of attempts if it holds step by step. -/
structure Congruence (σ : Type) where
  rel : {α : Type} → Attempt σ α → Attempt σ α → Prop
  rel_pure : ∀ {α : Type} (a : α), rel (pure a) (pure a)
  rel_throw : ∀ {α : Type} (fault : Fault), rel (throw fault : Attempt σ α) (throw fault)
  rel_bind : ∀ {α β : Type} {x y : Attempt σ α} {f g : α → Attempt σ β},
    rel x y → (∀ a, rel (f a) (g a)) → rel (x >>= f) (y >>= g)

/-- The results of two steps in a row are there already if those of the steps are. -/
theorem lift_except_bind (e : Except Fault α) (f : α → Except Fault β) :
    (liftExcept (e >>= f) : Attempt σ β) = liftExcept e >>= fun a => liftExcept (f a) := by
  cases e <;> rfl

namespace Congruence

variable (c : Congruence σ)

/-- A result that is there already is related to itself. -/
theorem rel_lift_except (e : Except Fault α) :
    c.rel (liftExcept e : Attempt σ α) (liftExcept e) := by
  cases e with
  | ok a => exact c.rel_pure a
  | error fault => exact c.rel_throw fault

/-- Two ways through a list are related item by item. -/
theorem rel_mapM {f g : α → Attempt σ β} (h : ∀ a, c.rel (f a) (g a)) (as : List α) :
    c.rel (as.mapM f) (as.mapM g) := by
  induction as with
  | nil => exact c.rel_pure []
  | cons a as ih =>
      rw [List.mapM_cons, List.mapM_cons]
      exact c.rel_bind (h a) fun _ => c.rel_bind ih fun _ => c.rel_pure _

/-- Two folds over a list are related step by step. -/
theorem rel_foldlM {f g : β → α → Attempt σ β} (h : ∀ b a, c.rel (f b a) (g b a)) (as : List α)
    (b : β) : c.rel (as.foldlM f b) (as.foldlM g b) := by
  induction as generalizing b with
  | nil => exact c.rel_pure b
  | cons a as ih =>
      rw [List.foldlM_cons, List.foldlM_cons]
      exact c.rel_bind (h b a) fun _ => ih _

end Congruence

/-- Refinement is kept by steps in a row. -/
def refinement (σ : Type) : Congruence σ where
  rel := Refines
  rel_pure _ := refines_refl _
  rel_throw _ := refines_refl _
  rel_bind := refines_bind

end Attempt

open Attempt

/-! ## Two parsers -/

namespace Parser

/-- Two contexts in which the same problem gives related faults and the same path leads to related
templates. -/
structure Related (c : Congruence (List Event)) (first second : Context) : Prop where
  fault : ∀ {α : Type} (problem : Problem) (position : Position),
    c.rel (throw (first.fault problem position) : Logged α)
      (throw (second.fault problem position))
  load : ∀ path line, c.rel (first.load path line) (second.load path line)

variable {c : Congruence (List Event)} {first second : Context}

/-- Adding content to a node is related. -/
theorem rel_attach (h : Related c first second) (node : Markup) (content : List Markup) :
    c.rel (liftExcept (attach first node content)) (liftExcept (attach second node content)) := by
  unfold attach
  split
  · exact c.rel_pure _
  · exact c.rel_pure _
  · exact c.rel_pure _
  · exact h.fault _ _

/-- Putting the nodes of a line inside each other is related. -/
theorem rel_nest (h : Related c first second) (inner : Markup) (chain : List Markup) :
    c.rel (liftExcept (nest first inner chain)) (liftExcept (nest second inner chain)) := by
  induction chain generalizing inner with
  | nil => exact c.rel_pure _
  | cons outer chain ih =>
      rw [nest, nest, lift_except_bind, lift_except_bind]
      exact c.rel_bind (rel_attach h outer [inner]) ih

/-- Closing a line is related. -/
theorem rel_close_line (h : Related c first second) (chain content : List Markup) :
    c.rel (liftExcept (closeLine first chain content))
      (liftExcept (closeLine second chain content)) := by
  unfold closeLine
  cases chain with
  | nil => exact c.rel_pure _
  | cons inner outer =>
      dsimp only
      rw [lift_except_bind, lift_except_bind]
      refine c.rel_bind (rel_attach h inner content) fun node => ?_
      rw [lift_except_bind, lift_except_bind]
      exact c.rel_bind (rel_nest h node outer) fun _ => c.rel_pure _

/-- The first token of an item is related. -/
theorem rel_begin_item (h : Related c first second) (nested : Bool) (chain : List Markup)
    (t : Token) : c.rel (beginItem first nested chain t) (beginItem second nested chain t) := by
  unfold beginItem
  split
  · exact c.rel_pure _
  · exact c.rel_pure _
  · split
    · exact c.rel_pure _
    · exact h.fault _ _
  · exact c.rel_throw _
  · dsimp only
    split
    · exact c.rel_bind (h.fault _ _) fun _ => c.rel_bind (h.load _ _) fun _ => c.rel_pure _
    · exact c.rel_bind (h.load _ _) fun _ => c.rel_pure _
  · exact c.rel_bind (h.load _ _) fun _ => c.rel_pure _
  · exact h.fault _ _

/-- The start of a line is related. -/
theorem rel_begin_line (h : Related c first second) (openLines : List OpenLine)
    (nodes : List Markup) (t : Token) :
    c.rel (beginLine first openLines nodes t) (beginLine second openLines nodes t) := by
  have hitem : c.rel
      (do return ⟨openLines, nodes, ← beginItem first (!openLines.isEmpty) [] t⟩ : Logged State)
      (do return ⟨openLines, nodes, ← beginItem second (!openLines.isEmpty) [] t⟩) :=
    c.rel_bind (rel_begin_item h _ _ t) fun _ => c.rel_pure _
  unfold beginLine
  split
  · exact h.fault _ _
  · exact c.rel_bind (rel_close_line h _ _) fun _ => c.rel_pure _
  · exact h.fault _ _
  · exact c.rel_pure _
  · exact h.fault _ _
  · dsimp only
    split
    · exact c.rel_bind (h.fault _ _) fun _ => hitem
    · exact hitem
  · exact hitem

/-- The end of a line is related. -/
theorem rel_end_line (h : Related c first second) (chain : List Markup) (t : Token) :
    c.rel (liftExcept (endLine first chain t)) (liftExcept (endLine second chain t)) := by
  unfold endLine
  split
  · exact c.rel_pure _
  · exact h.fault _ _

/-- A token after a complete tag is related. -/
theorem rel_after_tag (h : Related c first second) (chain : List Markup) (t : Token) :
    c.rel (liftExcept (afterTag first chain t)) (liftExcept (afterTag second chain t)) := by
  unfold afterTag
  split
  · exact c.rel_pure _
  · exact rel_end_line h chain t

/-- A token after the dot of a tag is related. -/
theorem rel_after_dot (h : Related c first second) (tag : OpenTag) (chain : List Markup)
    (t : Token) :
    c.rel (liftExcept (afterDot first tag chain t)) (liftExcept (afterDot second tag chain t)) := by
  unfold afterDot
  split
  · exact c.rel_pure _
  · exact rel_after_tag h _ t

/-- A token inside a tag is related. -/
theorem rel_in_tag (h : Related c first second) (tag : OpenTag) (chain : List Markup)
    (t : Token) :
    c.rel (liftExcept (inTag first tag chain t)) (liftExcept (inTag second tag chain t)) := by
  unfold inTag
  split
  · exact c.rel_pure _
  · exact c.rel_pure _
  · exact c.rel_pure _
  · exact c.rel_pure _
  · exact rel_after_dot h tag chain t

/-- One more token is related. -/
theorem rel_step (h : Related c first second) (state : State) (t : Token) :
    c.rel (step first state t) (step second state t) := by
  unfold step
  split
  · exact rel_begin_line h _ _ t
  · exact c.rel_bind (rel_begin_item h _ _ t) fun _ => c.rel_pure _
  · exact c.rel_bind (rel_in_tag h _ _ t) fun _ => c.rel_pure _
  · exact c.rel_bind (rel_after_dot h _ _ t) fun _ => c.rel_pure _
  · exact c.rel_bind (rel_after_tag h _ t) fun _ => c.rel_pure _
  · exact c.rel_bind (rel_end_line h _ t) fun _ => c.rel_pure _
  · split
    · exact c.rel_pure _
    · exact c.rel_bind (rel_close_line h _ _) fun _ => rel_begin_line h _ _ t

/-- In related contexts the same tokens have related trees. -/
theorem rel_parse (h : Related c first second) (tokens : List Token) :
    c.rel (parse first tokens) (parse second tokens) := by
  have hrest : c.rel
      (do return .block ⟨1, 0⟩ (← (upToEnd tokens).foldlM (step first) .start).nodes :
        Logged Markup)
      (do return .block ⟨1, 0⟩ (← (upToEnd tokens).foldlM (step second) .start).nodes) :=
    c.rel_bind (c.rel_foldlM (rel_step h) _ _) fun _ => c.rel_pure _
  unfold parse
  dsimp only
  split
  · exact c.rel_bind (c.rel_throw _) fun _ => hrest
  · exact hrest

end Parser

/-! ## Two compilers -/

namespace Compiler

variable {ι : Type} {c : Congruence (Workspace ι)}

section

variable {strict other : Bool}
  (htake : ∀ index, c.rel (takeInterpolation strict index) (takeInterpolation other index))

include htake

/-- The marks of a text are related if their interpolations are. -/
theorem rel_splice_marks (marks : List (List Char × List Char)) :
    c.rel (spliceMarks strict marks) (spliceMarks other marks) := by
  induction marks with
  | nil => exact c.rel_pure _
  | cons mark marks ih =>
      exact c.rel_bind (c.rel_lift_except _) fun _ => c.rel_bind (htake _) fun _ =>
        c.rel_bind ih fun _ => c.rel_pure _

/-- A text is related if the interpolations in it are. -/
theorem rel_splice (value : String) : c.rel (splice strict value) (splice other value) := by
  unfold splice
  dsimp only
  split
  · exact c.rel_pure _
  · exact c.rel_bind (rel_splice_marks htake _) fun _ => c.rel_pure _

/-- A property is related if the interpolations in it are. -/
theorem rel_property (entry : String × Scalar) :
    c.rel (property strict entry) (property other entry) := by
  refine c.rel_bind ?_ fun _ => c.rel_pure _
  unfold attributeValue
  split
  · refine c.rel_bind (rel_splice htake _) fun parts => ?_
    split <;> exact c.rel_pure _
  · exact c.rel_pure _

end

variable {first second : Options} {lookup : Lookup}
  {descend below : Markup → Attempt (Workspace ι) (CallTree ι)}

/-- Two compilers that use the same names and treat placeholders in related ways. -/
structure Options.Related (c : Congruence (Workspace ι)) (first second : Options) : Prop where
  factory : first.factory = second.factory
  propertyNames : first.propertyNames = second.propertyNames
  take : ∀ index, c.rel (takeInterpolation first.strict index)
    (takeInterpolation second.strict index)
  note : ∀ name, c.rel (note (.blockOverridden name)) (note (.blockOverridden name))

/-- The properties of a tag are related if the interpolations in them are. -/
theorem rel_properties (hnames : first.propertyNames = second.propertyNames)
    (htake : ∀ index, c.rel (takeInterpolation first.strict index)
      (takeInterpolation second.strict index)) (attributes : List Attribute) :
    c.rel (properties first attributes) (properties second attributes) := by
  unfold properties
  dsimp only
  rw [hnames]
  split
  · exact c.rel_pure _
  · exact c.rel_bind (c.rel_mapM (rel_property htake) _) fun _ => c.rel_pure _

/-- A node is related if the interpolations in it and the nodes below it are. -/
theorem rel_compile_step (h : first.Related c second)
    (hbelow : ∀ node, c.rel (descend node) (below node)) (node : Markup) :
    c.rel (compileStep first lookup descend node) (compileStep second lookup below node) := by
  have hlist (nodes : List Markup) :
      c.rel (do return .list (← nodes.mapM descend) : Attempt (Workspace ι) (CallTree ι))
        (do return .list (← nodes.mapM below)) :=
    c.rel_bind (c.rel_mapM hbelow nodes) fun _ => c.rel_pure _
  cases node with
  | block _ nodes => exact hlist nodes
  | namedBlock _ name nodes =>
      rw [compileStep, compileStep]
      split
      · exact c.rel_bind (h.note name) fun _ => hlist _
      · exact hlist nodes
  | text _ value => exact c.rel_bind (rel_splice h.take value) fun _ => c.rel_pure _
  | tag _ name attributes _ children =>
      rw [compileStep, compileStep, h.factory]
      exact c.rel_bind (rel_properties h.propertyNames h.take attributes) fun _ =>
        c.rel_bind (c.rel_mapM hbelow children) fun _ => c.rel_pure _
  | included _ _ tree => exact hbelow tree
  | extended _ _ tree => exact c.rel_bind (hbelow tree) fun _ => c.rel_pure _
  | foreign _ kind => exact c.rel_throw _

end Compiler

/-! ## Two environments -/

namespace Environment

/-- Sources with the same tokens have related trees if related templates are loaded for them. -/
theorem rel_parse_source {c : Congruence (List Event)} {name : Option String}
    {load other : String → Logged Markup} {source text : String}
    (htokens : Token.ofSource source name = Token.ofSource text name)
    (h : Parser.Related c ⟨name, some source, fun path _ => load path⟩
      ⟨name, some text, fun path _ => other path⟩) :
    c.rel (parseSource name load source) (parseSource name other text) := by
  unfold parseSource
  rw [htokens]
  exact c.rel_bind (c.rel_lift_except _) fun tokens => Parser.rel_parse h tokens

end Environment

end ElementMarkup
