import ElementMarkup.Proofs.Congruence
import ElementMarkup.Proofs.Course

/-!
# Strict mode

Strict mode differs from the other one in a single place: where a placeholder would be dropped it
fails. A compilation in strict mode therefore goes along with one outside of it, step by step, up to
the first placeholder that is dropped there. `UpToDrop` says so of two outcomes, and `untilDrop` is
the relation between attempts that comes of it. Which placeholders are dropped follows from the
course of the compilation and the interpolations that are left at its start. Main statement:
`compile_strict`.
-/

namespace ElementMarkup

namespace Compiler

open Attempt

variable {ι α β : Type}

/-- The outcomes of an attempt outside of strict mode and in it, from the same workspace. Either no
placeholder was dropped and the outcomes are the same, or strict mode failed at the first one that
was dropped. -/
inductive UpToDrop (w : Workspace ι) :
    Except Fault α × Workspace ι → Except Fault α × Workspace ι → Prop where
  | same {result : Except Fault α} {v : Workspace ι} {added : List Event} :
      v.cursor.size = w.cursor.size → v.events = w.events ++ added → Event.drops added = [] →
      UpToDrop w (result, v) (result, v)
  | dropped {result : Except Fault α} {v u : Workspace ι} {added : List Event} {index : Nat}
      {more : List Nat} :
      v.cursor.size = w.cursor.size → v.events = w.events ++ added →
      Event.drops added = index :: more →
      UpToDrop w (result, v) (.error (.template (.unmatchedPlaceholder index w.cursor.size)), u)

/-- Whatever happens, the interpolations stay as many as they are, and events are only added. -/
theorem UpToDrop.adds {w : Workspace ι} {lenient strict : Except Fault α × Workspace ι}
    (h : UpToDrop w lenient strict) :
    lenient.2.cursor.size = w.cursor.size ∧ ∃ added, lenient.2.events = w.events ++ added := by
  cases h with
  | same hsize hevents _ => exact ⟨hsize, _, hevents⟩
  | dropped hsize hevents _ => exact ⟨hsize, _, hevents⟩

/-- An attempt that adds no events and takes no interpolations ends the same way in both modes. -/
theorem UpToDrop.unchanged (w : Workspace ι) (result : Except Fault α) :
    UpToDrop w (result, w) (result, w) :=
  .same rfl (List.append_nil _).symm rfl

/-- If nothing has been dropped before, the outcomes of what follows are those of the whole. -/
theorem UpToDrop.after {w u : Workspace ι} {added : List Event}
    {lenient strict : Except Fault α × Workspace ι} (hsize : u.cursor.size = w.cursor.size)
    (hevents : u.events = w.events ++ added) (hdrops : Event.drops added = [])
    (h : UpToDrop u lenient strict) : UpToDrop w lenient strict := by
  have hmore (more : List Event) : u.events ++ more = w.events ++ (added ++ more) := by
    rw [hevents, List.append_assoc]
  have hall (more : List Event) : Event.drops (added ++ more) = Event.drops more := by
    rw [Event.drops_append, hdrops, List.nil_append]
  cases h with
  | same hsize' hevents' hdrops' =>
      exact .same (hsize'.trans hsize) (hevents'.trans (hmore _)) ((hall _).trans hdrops')
  | dropped hsize' hevents' hdrops' =>
      rw [hsize]
      exact .dropped (hsize'.trans hsize) (hevents'.trans (hmore _)) ((hall _).trans hdrops')

/-- If something has been dropped before, it does not matter what follows. -/
theorem UpToDrop.anyway {w u v : Workspace ι} {added : List Event} {index : Nat} {more : List Nat}
    {lenient strict : Except Fault α × Workspace ι} (hsize : u.cursor.size = w.cursor.size)
    (hevents : u.events = w.events ++ added) (hdrops : Event.drops added = index :: more)
    (h : UpToDrop u lenient strict) :
    UpToDrop w lenient
      (.error (.template (.unmatchedPlaceholder index w.cursor.size)), v) := by
  obtain ⟨hsize', later, hlater⟩ := h.adds
  obtain ⟨result, final⟩ := lenient
  have hall : final.events = w.events ++ (added ++ later) := by
    rw [← List.append_assoc, ← hevents]
    exact hlater
  have hfirst : Event.drops (added ++ later) = index :: (more ++ Event.drops later) := by
    rw [Event.drops_append, hdrops]
    rfl
  exact .dropped (hsize'.trans hsize) hall hfirst

/-- Attempts outside of strict mode and in it that go along with each other until a placeholder is
dropped. -/
def untilDrop (ι : Type) : Congruence (Workspace ι) where
  rel lenient strict := ∀ w, UpToDrop w (lenient.run.run w) (strict.run.run w)
  rel_pure a w := .unchanged w (.ok a)
  rel_throw fault w := .unchanged w (.error fault)
  rel_bind {α β x y f g} hfirst hsecond w := by
    rw [run_bind, run_bind]
    generalize hx : x.run.run w = lenient
    generalize hy : y.run.run w = strict
    have h := hfirst w
    rw [hx, hy] at h
    cases h with
    | @same result u added hsize hevents hdrops =>
        cases result with
        | error fault => exact .same hsize hevents hdrops
        | ok a => exact (hsecond a u).after hsize hevents hdrops
    | @dropped result u v added index more hsize hevents hdrops =>
        cases result with
        | error fault => exact .dropped hsize hevents hdrops
        | ok a => exact (hsecond a u).anyway hsize hevents hdrops

/-- An event that reports no placeholder as dropped is reported in both modes. -/
theorem until_drop_note {event : Event} (h : event.dropped? = none) :
    (untilDrop ι).rel (note event) (note event) := by
  intro w
  refine .same rfl (rfl : _ = w.events ++ [event]) ?_
  rw [Event.drops, List.filterMap_cons_none h]
  rfl

/-- A placeholder gets its interpolation in both modes, or it is dropped in one and a fault in the
other. -/
theorem until_drop_take_interpolation (index : Nat) :
    (untilDrop ι).rel (takeInterpolation false index) (takeInterpolation true index) := by
  intro w
  have hsize := Cursor.size_take w.cursor index
  have hget (f : Workspace ι → Attempt (Workspace ι) (List (CallTree ι))) :
      (get >>= f).run.run w = (f w).run.run w := rfl
  unfold takeInterpolation
  rw [hget, hget]
  cases htake : w.cursor.take index with
  | mk item cursor =>
      rw [htake] at hsize
      cases item with
      | some item => exact .same hsize (List.append_nil _).symm rfl
      | none => exact .dropped rfl rfl rfl

/-- The two modes of a compiler go along with each other in all that they do with a node itself. -/
theorem related_strict (options : Options) :
    Options.Related (untilDrop ι) { options with strict := false }
      { options with strict := true } where
  factory := rfl
  propertyNames := rfl
  take := until_drop_take_interpolation
  note _ := until_drop_note rfl

/-- The two modes of a compiler go along with each other until a placeholder is dropped, however
deep the nodes nest. -/
theorem until_drop_compile_within (options : Options) (lookup : Lookup) (room : Nat)
    (node : Markup) :
    (untilDrop ι).rel (compileWithin { options with strict := false } lookup room node)
      (compileWithin { options with strict := true } lookup room node) := by
  induction room generalizing node with
  | zero =>
      exact rel_compile_step (related_strict options) (fun _ => (untilDrop ι).rel_throw _) node
  | succ room ih => exact rel_compile_step (related_strict options) ih node

/-- Two outcomes that agree up to a drop are the same if none is reported, and otherwise the second
one is the fault of the first drop. -/
theorem UpToDrop.strict {w : Workspace ι} {lenient strict : Except Fault α × Workspace ι}
    {added : List Event} (h : UpToDrop w lenient strict)
    (hadded : lenient.2.events = w.events ++ added) :
    match Event.drops added with
    | [] => strict = lenient
    | index :: _ =>
      strict.1 = .error (.template (.unmatchedPlaceholder index w.cursor.size)) := by
  cases h with
  | same _ hevents hdrops =>
      rw [List.append_cancel_left (hadded.symm.trans hevents), hdrops]
  | dropped _ hevents hdrops =>
      rw [List.append_cancel_left (hadded.symm.trans hevents), hdrops]

/-- Strict mode agrees with the other one up to the first placeholder that is dropped. Outside of
strict mode a compilation traces the course of the tree: it ends with the fault of the course or
with none, it takes the interpolations whose numbers it meets, and it reports as dropped the
placeholders for which none is left. If there are none of these, strict mode ends in the same way,
with the same interpolations left and the same events. Otherwise it fails at the first of them,
whatever fault the course ends with, and names its number and how many interpolations there are. -/
theorem compile_strict (options : Options) (lookup : Lookup) (tree : Markup) (w : Workspace ι) :
    let lenient := (compile { options with strict := false } lookup tree).run.run w
    let strict := (compile { options with strict := true } lookup tree).run.run w
    let course := Course.ofTree options lookup tree
    let dropped := course.dropped w.cursor.unconsumed
    (∀ fault, lenient.1 = .error fault ↔ course.fault = some fault) ∧
      lenient.2.cursor.unconsumed = course.unused w.cursor.unconsumed ∧
      (∃ added, lenient.2.events = w.events ++ added ∧ Event.drops added = dropped) ∧
      match dropped with
      | [] => strict = lenient
      | index :: _ =>
        strict.1 = .error (.template (.unmatchedPlaceholder index w.cursor.size)) := by
  intro lenient strict course dropped
  have hcourse : course.Outcome w lenient := traces_compile options lookup tree w
  have hstrict : UpToDrop w lenient strict :=
    until_drop_compile_within options lookup options.maxDepth.toNat tree w
  obtain ⟨added, hadded, hdrops⟩ := hcourse.drops
  refine ⟨hcourse.fault, hcourse.left, ⟨added, hadded, hdrops⟩, ?_⟩
  rw [show dropped = Event.drops added from hdrops.symm]
  exact hstrict.strict hadded

/-- A placeholder is dropped because its interpolation has been taken before, and a node behind it
cannot be compiled. Strict mode does not get there. If every placeholder finds its interpolation,
the node is the fault in both modes. -/
theorem compile_strict_before_fault :
    let options : Options := ⟨"h", [], false, 64⟩
    let tree (value : String) : Markup :=
      .tag ⟨1, 0⟩ "p" [⟨"id", .text "/~1~/"⟩] none [.text ⟨1, 2⟩ value, .foreign none "int"]
    let w : Workspace Nat := ⟨.ofList [.interpolation 5, .interpolation 7], []⟩
    let run (strict : Bool) (value : String) :=
      (compile { options with strict } (fun _ => none) (tree value)).run.run w
    let unsupported : Fault := .template (.unsupportedNode "int")
    (Course.ofTree options (fun _ => none) (tree "/~0~/, /~1~/, /~4~/") =
        ⟨[1, 0, 1, 4], some unsupported⟩ ∧
      (run false "/~0~/, /~1~/, /~4~/").1 = .error unsupported ∧
      (run true "/~0~/, /~1~/, /~4~/").1 = .error (.template (.unmatchedPlaceholder 1 2))) ∧
      (run false "/~0~/").1 = .error unsupported ∧ run true "/~0~/" = run false "/~0~/" := by
  intro options tree w run unsupported
  have hleft : w.cursor.unconsumed = [0, 1] := by decide +kernel
  have hdrops : Course.ofTree options (fun _ => none) (tree "/~0~/, /~1~/, /~4~/") =
      ⟨[1, 0, 1, 4], some unsupported⟩ := by decide +kernel
  have hserved : Course.ofTree options (fun _ => none) (tree "/~0~/") =
      ⟨[1, 0], some unsupported⟩ := by decide +kernel
  obtain ⟨hfault, -, -, hstrict⟩ :=
    compile_strict options (fun _ => none) (tree "/~0~/, /~1~/, /~4~/") w
  obtain ⟨hfault', -, -, hstrict'⟩ := compile_strict options (fun _ => none) (tree "/~0~/") w
  rw [hdrops] at hfault
  rw [hserved] at hfault'
  rw [hdrops, hleft] at hstrict
  rw [hserved, hleft] at hstrict'
  exact ⟨⟨hdrops, (hfault _).mpr rfl, hstrict⟩, (hfault' _).mpr rfl, hstrict'⟩

end Compiler

end ElementMarkup
