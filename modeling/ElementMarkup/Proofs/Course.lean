import ElementMarkup.Proofs.Attributes
import ElementMarkup.Proofs.Compiler
import Mathlib.Data.List.Nodup

/-!
# The course of a compilation

Outside of strict mode the interpolations decide neither which placeholders a compilation meets nor
whether it ends with a fault. `Course.ofTree` reads both off the tree. A placeholder is dropped
exactly if no interpolation with its number is left when it is met, so that the course and the
numbers that are left at the start tell which placeholders are dropped. Main statement:
`traces_compile`.
-/

namespace ElementMarkup

/-- The number of the placeholder that an event reports as dropped. -/
def Event.dropped? : Event → Option Nat
  | placeholderDropped index _ => some index
  | _ => none

/-- The numbers of the placeholders that are reported as dropped, in order. -/
def Event.drops (events : List Event) : List Nat :=
  events.filterMap dropped?

/-- What is dropped in two steps is dropped in this order. -/
theorem Event.drops_append (first second : List Event) :
    drops (first ++ second) = drops first ++ drops second :=
  List.filterMap_append

namespace Compiler

open Attempt

/-- The course of a compilation: the numbers of the placeholders that it meets, in order, and the
fault that ends it, if one does. -/
structure Course where
  placeholders : List Nat
  fault : Option Fault
  deriving DecidableEq

namespace Course

/-- Nothing is met. -/
def empty : Course :=
  ⟨[], none⟩

/-- A fault ends the course before anything is met. -/
def stopped (fault : Fault) : Course :=
  ⟨[], some fault⟩

/-- One course and then another one, which is not begun if a fault ends the first. -/
def andThen (first second : Course) : Course :=
  if first.fault.isSome then first
  else ⟨first.placeholders ++ second.placeholders, second.fault⟩

/-- Courses one after the other. -/
def inRow (courses : List Course) : Course :=
  courses.foldr andThen empty

/-- The course of a mark. Too many digits are a fault. -/
def ofMark (digits : List Char) : Course :=
  if integerDigitLimit < digits.length then stopped (.integerTooLong digits.length)
  else ⟨[Text.digitsValue digits], none⟩

/-- The course of a text: its marks from left to right. -/
def ofText (value : String) : Course :=
  inRow ((Placeholder.split value.toList).marks.map fun mark => ofMark mark.1)

/-- The course of a value. Only texts hold placeholders. -/
def ofScalar : Scalar → Course
  | .text value => ofText value
  | _ => empty

/-- The course of the attributes of a tag: for each property, in the order in which the properties
are first set, that of its combined value. -/
def ofAttributes (propertyNames : Entries String) (as : List Attribute) : Course :=
  inRow ((as.map fun a => Attribute.propertyName propertyNames a.name).eraseDups.map fun key =>
    (Attribute.combined propertyNames as key).elim empty ofScalar)

/-- The course of a node, given those of the nodes inside it. -/
def ofNode (propertyNames : Entries String) (lookup : Lookup) (inside : Markup → Course) :
    Markup → Course
  | .block _ nodes => inRow (nodes.map inside)
  | .namedBlock _ name nodes => inRow (((lookup name).getD nodes).map inside)
  | .text _ value => ofText value
  | .tag _ _ attributes _ children =>
    (ofAttributes propertyNames attributes).andThen (inRow (children.map inside))
  | .included _ _ tree => inside tree
  | .extended _ _ tree => inside tree
  | .foreign _ kind => stopped (.template (.unsupportedNode kind))

/-- The course of a node that may hold `room` more levels of nodes out of `maxDepth`. -/
def within (propertyNames : Entries String) (maxDepth : Int) (lookup : Lookup) :
    Nat → Markup → Course
  | 0 =>
    ofNode propertyNames lookup fun _ => stopped (.template (.tooDeep maxDepth none))
  | room + 1 => ofNode propertyNames lookup (within propertyNames maxDepth lookup room)

/-- The course of a tree. -/
def ofTree (options : Options) (lookup : Lookup) (tree : Markup) : Course :=
  within options.propertyNames options.maxDepth lookup options.maxDepth.toNat tree

/-- The placeholders that are dropped if the interpolations with the given numbers are left: each of
the numbers serves the first placeholder that has it. -/
def dropped (course : Course) (left : List Nat) : List Nat :=
  course.placeholders.diff left

/-- The numbers of the given ones that no placeholder has. -/
def unused (course : Course) (left : List Nat) : List Nat :=
  left.diff course.placeholders

/-- A course goes on behind one that no fault ends. -/
theorem and_then_of_fault_eq_none {first : Course} (h : first.fault = none) (second : Course) :
    first.andThen second = ⟨first.placeholders ++ second.placeholders, second.fault⟩ := by
  rw [andThen, h]
  rfl

/-- A course does not go on behind a fault. -/
theorem and_then_of_fault_eq_some {first : Course} {fault : Fault} (h : first.fault = some fault)
    (second : Course) : first.andThen second = first := by
  rw [andThen, h]
  rfl

/-- Nothing follows. -/
@[simp] theorem and_then_empty (course : Course) : course.andThen empty = course := by
  obtain ⟨placeholders, fault⟩ := course
  cases fault with
  | none => exact congrArg (Course.mk · none) (List.append_nil placeholders)
  | some fault => rfl

end Course

/-- What is dropped in a row is dropped in this order, the later numbers being served by what the
earlier ones leave. -/
theorem append_diff (first second left : List Nat) :
    (first ++ second).diff left = first.diff left ++ second.diff (left.diff first) := by
  induction first generalizing left with
  | nil => rw [List.nil_append, List.nil_diff, List.nil_append, List.diff_nil]
  | cons i first ih =>
      rw [List.cons_append, List.cons_diff, List.cons_diff, List.diff_cons]
      by_cases hi : i ∈ left
      · rw [if_pos hi, if_pos hi, ih]
      · rw [if_neg hi, if_neg hi, ih, List.erase_of_not_mem hi, List.cons_append]

variable {ι α β : Type}

/-- The outcome, from the given workspace, of an attempt that traces the course. -/
structure Course.Outcome (course : Course) (w : Workspace ι)
    (outcome : Except Fault α × Workspace ι) : Prop where
  fault : ∀ fault, outcome.1 = .error fault ↔ course.fault = some fault
  left : outcome.2.cursor.unconsumed = course.unused w.cursor.unconsumed
  drops : ∃ added, outcome.2.events = w.events ++ added ∧
    Event.drops added = course.dropped w.cursor.unconsumed

/-- The attempt traces the course, whatever is left at its start. -/
def Traces (course : Course) (x : Attempt (Workspace ι) α) : Prop :=
  ∀ w, course.Outcome w (x.run.run w)

/-- The outcome of a course that no fault ends is a result. -/
theorem Course.Outcome.of_ok {placeholders : List Nat} {w v : Workspace ι} (a : α)
    (added : List Event) (hleft : v.cursor.unconsumed = w.cursor.unconsumed.diff placeholders)
    (hevents : v.events = w.events ++ added)
    (hdrops : Event.drops added = placeholders.diff w.cursor.unconsumed) :
    Course.Outcome ⟨placeholders, none⟩ w (.ok a, v) where
  fault _ := iff_of_false nofun nofun
  left := hleft
  drops := ⟨added, hevents, hdrops⟩

/-! ## Steps in a row -/

/-- A result that is there already takes an empty course. -/
theorem traces_pure (a : α) : Traces .empty (pure a : Attempt (Workspace ι) α) := by
  intro w
  exact .of_ok a [] rfl (List.append_nil _).symm (List.nil_diff _).symm

/-- A fault ends the course. -/
theorem traces_throw (fault : Fault) :
    Traces (.stopped fault) (throw fault : Attempt (Workspace ι) α) := by
  intro w
  refine ⟨fun other => ?_, rfl, [], (List.append_nil _).symm, (List.nil_diff _).symm⟩
  show Except.error fault = Except.error other ↔ some fault = some other
  rw [Except.error.injEq, Option.some.injEq]

/-- Two attempts in a row take their courses in a row. -/
theorem traces_bind {first second : Course} {x : Attempt (Workspace ι) α}
    {f : α → Attempt (Workspace ι) β} (hx : Traces first x) (hf : ∀ a, Traces second (f a)) :
    Traces (first.andThen second) (x >>= f) := by
  intro w
  have hfirst := hx w
  rw [run_bind]
  generalize x.run.run w = outcome at hfirst
  obtain ⟨result, u⟩ := outcome
  cases result with
  | error fault =>
      have hfault := (hfirst.fault fault).mp rfl
      rw [Course.and_then_of_fault_eq_some hfault]
      refine ⟨fun other => ?_, hfirst.left, hfirst.drops⟩
      rw [← hfirst.fault other]
      show Except.error fault = Except.error other ↔ Except.error fault = Except.error other
      rw [Except.error.injEq, Except.error.injEq]
  | ok a =>
      have hnone : first.fault = none := by
        refine Option.eq_none_iff_forall_ne_some.mpr fun fault hfault => ?_
        cases (hfirst.fault fault).mpr hfault
      have hsecond := hf a u
      have hleft : u.cursor.unconsumed = first.unused w.cursor.unconsumed := hfirst.left
      obtain ⟨added, hadded, hdrops⟩ := hfirst.drops
      obtain ⟨more, hmore, hdropsMore⟩ := hsecond.drops
      rw [Course.and_then_of_fault_eq_none hnone]
      refine ⟨hsecond.fault, ?_, added ++ more, ?_, ?_⟩
      · rw [Course.unused, List.diff_append]
        exact hsecond.left.trans (congrArg second.unused hleft)
      · rw [← List.append_assoc, ← hadded]
        exact hmore
      · rw [Event.drops_append, hdrops, hdropsMore, hleft]
        exact (append_diff _ _ _).symm

/-- An attempt whose result is changed takes the same course. -/
theorem traces_bind_pure {course : Course} {x : Attempt (Workspace ι) α} (h : Traces course x)
    (f : α → β) : Traces course (x >>= fun a => pure (f a)) :=
  course.and_then_empty ▸ traces_bind h fun a => traces_pure (f a)

/-- Going through a list takes the courses of its items in a row. -/
theorem traces_mapM {f : α → Attempt (Workspace ι) β} {courses : α → Course}
    (h : ∀ a, Traces (courses a) (f a)) (as : List α) :
    Traces (.inRow (as.map courses)) (as.mapM f) := by
  induction as with
  | nil => exact traces_pure []
  | cons a as ih =>
      rw [List.mapM_cons]
      exact traces_bind (h a) fun b => traces_bind_pure ih (b :: ·)

/-! ## Texts and attributes -/

/-- An event that reports no placeholder as dropped does not change the course. -/
theorem traces_note {event : Event} (h : event.dropped? = none) :
    Traces .empty (note event : Attempt (Workspace ι) Unit) := by
  intro w
  refine .of_ok () [event] rfl rfl ?_
  rw [Event.drops, List.filterMap_cons_none h]
  exact (List.nil_diff _).symm

/-- A placeholder takes its interpolation, and is dropped if that one is not left. -/
theorem traces_take_interpolation (index : Nat) :
    Traces ⟨[index], none⟩
      (takeInterpolation false index : Attempt (Workspace ι) (List (CallTree ι))) := by
  intro w
  by_cases hleft : index ∈ w.cursor.unconsumed
  · obtain ⟨item, hfree⟩ := Option.isSome_iff_exists.mp (Cursor.mem_unconsumed.mp hleft)
    rw [yields_take_interpolation_of_some false hfree]
    refine .of_ok _ [] ?_ (List.append_nil _).symm ?_
    · rw [List.diff_cons, List.diff_nil]
      exact Cursor.unconsumed_advance_mark w.cursor index
    · rw [List.cons_diff_of_mem hleft, List.nil_diff]
      rfl
  · rw [yields_take_interpolation_of_none (Cursor.free?_of_not_mem_unconsumed hleft)]
    refine .of_ok _ [_] ?_ rfl ?_
    · rw [List.diff_cons, List.erase_of_not_mem hleft, List.diff_nil]
    · rw [List.cons_diff_of_not_mem hleft, List.nil_diff]
      rfl

/-- A mark is met if its digits are not too many. -/
theorem traces_mark (digits : List Char) :
    Traces (.ofMark digits) (liftExcept (Placeholder.index digits) >>= takeInterpolation false :
      Attempt (Workspace ι) (List (CallTree ι))) := by
  unfold Course.ofMark Placeholder.index
  split
  · exact traces_throw _
  · exact traces_take_interpolation _

/-- The marks of a text are met from left to right. -/
theorem traces_splice_marks (marks : List (List Char × List Char)) :
    Traces (.inRow (marks.map fun mark => .ofMark mark.1))
      (spliceMarks false marks : Attempt (Workspace ι) (List (CallTree ι))) := by
  induction marks with
  | nil => exact traces_pure []
  | cons mark marks ih =>
      obtain ⟨digits, text⟩ := mark
      have hmark := traces_bind (traces_mark (ι := ι) digits) fun item =>
        traces_bind_pure ih fun more => item ++ segment text ++ more
      rw [bind_assoc] at hmark
      exact hmark

/-- A text is gone through from left to right. -/
theorem traces_splice (value : String) :
    Traces (.ofText value) (splice false value : Attempt (Workspace ι) (List (CallTree ι))) := by
  by_cases hmarks : (Placeholder.split value.toList).marks = []
  · rw [splice_of_marks_eq_nil false hmarks, Course.ofText, hmarks]
    exact traces_pure _
  · rw [splice_of_marks_ne_nil false hmarks]
    exact traces_bind_pure (traces_splice_marks _) _

/-- The property for a merged attribute takes the course of its value. -/
theorem traces_property (entry : String × Scalar) :
    Traces (.ofScalar entry.2)
      (property false entry : Attempt (Workspace ι) (Property (CallTree ι))) := by
  refine traces_bind_pure ?_ _
  cases entry.2 with
  | text value =>
      rw [← Course.and_then_empty (.ofScalar _)]
      refine traces_bind (traces_splice value) fun parts => ?_
      split <;> exact traces_pure _
  | _ => exact traces_pure _

/-- The properties of a tag are met in the order in which they are first set. -/
theorem traces_properties {options : Options} (hstrict : options.strict = false)
    (as : List Attribute) :
    Traces (.ofAttributes options.propertyNames as)
      (properties options as : Attempt (Workspace ι) (CallTree ι)) := by
  have hcourse : Course.ofAttributes options.propertyNames as =
      .inRow ((Attribute.merge options.propertyNames as).map fun entry => .ofScalar entry.2) := by
    rw [Course.ofAttributes, ← Attribute.map_merge]
  rw [hcourse]
  by_cases hmerge : Attribute.merge options.propertyNames as = []
  · rw [properties_of_merge_eq_nil hmerge, hmerge]
    exact traces_pure _
  · rw [properties_of_merge_ne_nil hmerge, hstrict]
    exact traces_bind_pure (traces_mapM traces_property _) _

/-! ## Nodes -/

variable {options : Options} {lookup : Lookup} {inside : Markup → Course}
  {descend : Markup → Attempt (Workspace ι) (CallTree ι)}

/-- A node takes its course if the nodes inside it do. -/
theorem traces_compile_step (hstrict : options.strict = false)
    (hinside : ∀ node, Traces (inside node) (descend node)) (node : Markup) :
    Traces (.ofNode options.propertyNames lookup inside node)
      (compileStep options lookup descend node) := by
  have hlist (nodes : List Markup) : Traces (.inRow (nodes.map inside))
      (do return .list (← nodes.mapM descend) : Attempt (Workspace ι) (CallTree ι)) :=
    traces_bind_pure (traces_mapM hinside nodes) CallTree.list
  cases node with
  | block _ nodes => exact hlist nodes
  | namedBlock _ name nodes =>
      rw [Course.ofNode, compileStep]
      cases lookup name with
      | some override => exact traces_bind (traces_note rfl) fun _ => hlist override
      | none => exact hlist nodes
  | text _ value =>
      rw [compileStep, hstrict]
      exact traces_bind_pure (traces_splice value) CallTree.list
  | tag _ name attributes _ children =>
      exact traces_bind (traces_properties hstrict attributes) fun props =>
        traces_bind_pure (traces_mapM hinside children) _
  | included _ _ tree => exact hinside tree
  | extended _ _ tree => exact traces_bind_pure (hinside tree) firstResult
  | foreign _ kind => exact traces_throw _

/-- A node takes its course, however much room it has. -/
theorem traces_compile_within (hstrict : options.strict = false) (lookup : Lookup) (room : Nat)
    (node : Markup) :
    Traces (.within options.propertyNames options.maxDepth lookup room node)
      (compileWithin options lookup room node : Attempt (Workspace ι) (CallTree ι)) := by
  induction room generalizing node with
  | zero => exact traces_compile_step hstrict (fun _ => traces_throw _) node
  | succ room ih => exact traces_compile_step hstrict ih node

/-- Outside of strict mode the compilation of a tree traces the course of the tree. -/
theorem traces_compile (options : Options) (lookup : Lookup) (tree : Markup) :
    Traces (.ofTree options lookup tree)
      (compile { options with strict := false } lookup tree :
        Attempt (Workspace ι) (CallTree ι)) :=
  @traces_compile_within ι { options with strict := false } rfl lookup options.maxDepth.toNat tree

end Compiler

end ElementMarkup
