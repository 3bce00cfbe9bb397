import ElementMarkup.Proofs.Compiler
import ElementMarkup.Proofs.Congruence
import ElementMarkup.Proofs.Environment

/-!
# What a success depends on and what it changes

No stage of a compilation looks at the events before it: from states that differ in their events
only, it succeeds with the same value or not at all. It adds events at the end, and it takes
interpolations but never drops or makes one. `Keeps frame x` says this of an attempt, and
`keeps_composition` and `keeps_compile_within` say it of the stages. Unused interpolations are not
among the events that the stages report, so that the end of a compilation is the only place where
they are reported.
-/

namespace ElementMarkup

/-- The event that reports unused interpolations. -/
def Event.isUnused : Event → Bool
  | interpolationsUnused _ _ => true
  | _ => false

/-- Events were added, none of which reports unused interpolations. -/
def AddsQuietly (before after : List Event) : Prop :=
  ∃ added, after = before ++ added ∧ ∀ event ∈ added, event.isUnused = false

/-- Nothing has to be added. -/
theorem adds_quietly_refl (events : List Event) : AddsQuietly events events :=
  ⟨[], (List.append_nil _).symm, by simp⟩

/-- What is added in two steps is added. -/
theorem adds_quietly_trans {before between after : List Event} (hfirst : AddsQuietly before between)
    (hsecond : AddsQuietly between after) : AddsQuietly before after := by
  obtain ⟨added, rfl, hadded⟩ := hfirst
  obtain ⟨more, rfl, hmore⟩ := hsecond
  refine ⟨added ++ more, List.append_assoc _ _ _, ?_⟩
  intro event hevent
  exact (List.mem_append.mp hevent).elim (hadded event) (hmore event)

/-- An event that does not report unused interpolations may be added. -/
theorem adds_quietly_singleton (events : List Event) {event : Event}
    (h : event.isUnused = false) : AddsQuietly events (events ++ [event]) :=
  ⟨[event], rfl, by simpa using h⟩

namespace Attempt

variable {σ α β : Type}

/-- Which states are the same to an attempt, and which states a success may lead to. -/
structure Frame (σ : Type) where
  same : σ → σ → Prop
  leads : σ → σ → Prop
  refl : ∀ s, leads s s
  trans : ∀ {s t u}, leads s t → leads t u → leads s u

/-- A success leads where it may, and from a state that is the same it is a success as well, with
the same value and up to a state that is the same. -/
def Keeps (frame : Frame σ) (x : Attempt σ α) : Prop :=
  ∀ s other a t, frame.same s other → Yields x s a t →
    frame.leads s t ∧ ∃ final, Yields x other a final ∧ frame.same t final

variable {frame : Frame σ}

/-- A value changes nothing. -/
theorem keeps_pure (a : α) : Keeps frame (pure a : Attempt σ α) := by
  intro s other b t hsame h
  obtain ⟨rfl, rfl⟩ := yields_pure.mp h
  exact ⟨frame.refl s, other, rfl, hsame⟩

/-- A fault is no success. -/
theorem keeps_throw (fault : Fault) : Keeps frame (throw fault : Attempt σ α) :=
  fun _ _ _ _ _ h => absurd h not_yields_throw

/-- Two steps in a row keep a frame if both of them do. -/
theorem keeps_bind {x : Attempt σ α} {f : α → Attempt σ β} (hx : Keeps frame x)
    (hf : ∀ a, Keeps frame (f a)) : Keeps frame (x >>= f) := by
  intro s other b t hsame h
  obtain ⟨a, u, hfirst, hsecond⟩ := yields_bind.mp h
  obtain ⟨hleads, between, hbetween, hsameBetween⟩ := hx s other a u hsame hfirst
  obtain ⟨hleadsOn, final, hfinal, hsameFinal⟩ := hf a u between b t hsameBetween hsecond
  exact ⟨frame.trans hleads hleadsOn, final, yields_bind.mpr ⟨a, between, hbetween, hfinal⟩,
    hsameFinal⟩

/-- Keeping a frame as a relation that looks at the first of two runs only. What is proved of two
runs that are made of the same steps then holds of one of them. -/
def Frame.keeping (frame : Frame σ) : Congruence σ where
  rel x _ := Keeps frame x
  rel_pure := keeps_pure
  rel_throw := keeps_throw
  rel_bind := keeps_bind

/-- A result that is there already changes nothing. -/
theorem keeps_lift_except (e : Except Fault α) : Keeps frame (liftExcept e : Attempt σ α) :=
  frame.keeping.rel_lift_except e

/-- Going through a list keeps a frame if each item does. -/
theorem keeps_mapM {f : α → Attempt σ β} (hf : ∀ a, Keeps frame (f a)) (as : List α) :
    Keeps frame (as.mapM f) :=
  frame.keeping.rel_mapM (g := f) hf as

end Attempt

open Attempt

/-! ## The frames of the stages -/

/-- To a stage that reports events all events before it are the same. -/
def eventFrame : Frame (List Event) where
  same _ _ := True
  leads := AddsQuietly
  refl := adds_quietly_refl
  trans := adds_quietly_trans

/-- To the compiler workspaces with the same cursor are the same. -/
def Compiler.workspaceFrame {ι : Type} : Frame (Compiler.Workspace ι) where
  same w v := w.cursor = v.cursor
  leads w v := v.cursor.size = w.cursor.size ∧ AddsQuietly w.events v.events
  refl w := ⟨rfl, adds_quietly_refl w.events⟩
  trans hfirst hsecond := ⟨hsecond.1.trans hfirst.1, adds_quietly_trans hfirst.2 hsecond.2⟩

/-- A report keeps the events before it. -/
theorem keeps_report {event : Event} (h : event.isUnused = false) :
    Keeps eventFrame (report event) := by
  intro events other _ final _ hreport
  obtain rfl := yields_report.mp hreport
  exact ⟨adds_quietly_singleton events h, other ++ [event], rfl, trivial⟩

/-! ## Parsing and composing -/

/-- Joining the fragments keeps the frame of the events. -/
theorem Fragments.keeps_encode (fragments : List String) (count : Nat) :
    Keeps eventFrame (encode fragments count) := by
  have hrest : Keeps eventFrame (do
      if fragments.length ≠ count + 1 then report (.fragmentMismatch fragments.length count)
      return String.ofList (deindent (join fragments count)) : Logged String) := by
    dsimp only
    split
    · exact keeps_bind (keeps_report rfl) fun _ => keeps_pure _
    · exact keeps_pure _
  unfold encode
  dsimp only
  split
  · exact keeps_bind (keeps_throw _) fun _ => hrest
  · exact hrest

namespace Environment

/-- Loading a template keeps the frame of the events if parsing its source does. -/
theorem keeps_load (env : Environment) (stack : List String) (parent : Option String)
    (parseNext : Option (List String → Option String → String → Logged Markup))
    (hnext : ∀ next ∈ parseNext, ∀ stack name source,
      Keeps eventFrame (next stack name source)) (path : String) :
    Keeps eventFrame (env.load stack parent parseNext path) := by
  unfold load
  cases parseNext with
  | none =>
      dsimp only
      split
      · exact keeps_bind (keeps_throw _) fun _ => keeps_throw _
      · exact keeps_throw _
  | some next =>
      have hrest (target : String) : Keeps eventFrame (do
          let source ← liftExcept (env.fetchFor parent target)
          report (.loading target source.file parent)
          next (stack ++ [target]) (some target) source.text : Logged Markup) :=
        keeps_bind (keeps_lift_except _) fun _ => keeps_bind (keeps_report rfl) fun _ =>
          hnext next rfl _ _ _
      dsimp only
      split
      · exact keeps_bind (keeps_throw _) fun _ => hrest _
      · exact hrest _

/-- Parsing a source keeps the frame of the events if loading a template does. -/
theorem keeps_parse_source (name : Option String) {load : String → Logged Markup}
    (hload : ∀ path, Keeps eventFrame (load path)) (source : String) :
    Keeps eventFrame (parseSource name load source) := by
  have hrel : eventFrame.keeping.rel (parseSource name load source)
      (parseSource name load source) :=
    rel_parse_source rfl ⟨fun _ _ => keeps_throw _, fun path _ => hload path⟩
  exact hrel

/-- Parsing the source of a template keeps the frame of the events, however deep templates are
loaded. -/
theorem keeps_parse_within (env : Environment) (room : Nat) (stack : List String)
    (name : Option String) (source : String) :
    Keeps eventFrame (env.parseWithin room stack name source) := by
  induction room generalizing stack name source with
  | zero => exact keeps_parse_source name (keeps_load env stack name none (by simp)) source
  | succ room ih =>
      refine keeps_parse_source name (keeps_load env stack name _ ?_) source
      rintro _ ⟨⟩
      exact ih

end Environment

/-- Composing a template keeps the frame of the events. -/
theorem Composition.keeps_of_nodes (nodes : List Markup) :
    Keeps eventFrame (ofNodes nodes) := by
  unfold ofNodes
  split
  · exact keeps_throw _
  · exact keeps_bind (keeps_lift_except _) fun _ => keeps_bind (keeps_report rfl) fun _ =>
      keeps_pure _
  · exact keeps_pure _
  · exact keeps_throw _

/-- All stages up to the composition of a template keep the frame of the events. -/
theorem Environment.keeps_composition (env : Environment) (fragments : List String) (count : Nat)
    (name : Option String) :
    Keeps eventFrame (env.composition fragments count name) :=
  keeps_bind (Fragments.keeps_encode _ _) fun _ => keeps_bind (keeps_report rfl) fun _ =>
    keeps_bind (env.keeps_parse_within _ _ _ _) fun _ => Composition.keeps_of_nodes _

namespace Compiler

variable {ι : Type}

/-- A note keeps the cursor and the events before it. -/
theorem keeps_note {event : Event} (h : event.isUnused = false) :
    Keeps workspaceFrame (note event : Attempt (Workspace ι) Unit) := by
  intro w other _ v hsame hnote
  obtain rfl := yields_note.mp hnote
  exact ⟨⟨rfl, adds_quietly_singleton w.events h⟩, _, rfl, hsame⟩

/-- A frame that taking interpolations keeps: workspaces are the same only if their cursors are,
both cursors may change alike, and a placeholder that is dropped may be reported. -/
structure IsCursorFrame (frame : Frame (Workspace ι)) : Prop where
  cursor_eq : ∀ {w other}, frame.same w other → w.cursor = other.cursor
  keeps_cursor : ∀ {w other : Workspace ι} {cursor}, frame.same w other →
    cursor.size = w.cursor.size →
    frame.leads w { w with cursor } ∧ frame.same { w with cursor } { other with cursor }
  keeps_drop : ∀ index available, Keeps frame (note (.placeholderDropped index available))

/-- Taking interpolations keeps the frame of the workspace. -/
theorem is_cursor_frame_workspace_frame : IsCursorFrame (workspaceFrame : Frame (Workspace ι)) where
  cursor_eq h := h
  keeps_cursor _ hsize := ⟨⟨hsize, adds_quietly_refl _⟩, rfl⟩
  keeps_drop _ _ := keeps_note rfl

section

variable {frame : Frame (Workspace ι)} (hframe : IsCursorFrame frame)

include hframe

/-- Taking an interpolation keeps a frame of the cursor. -/
theorem keeps_take_interpolation (strict : Bool) (index : Nat) :
    Keeps frame (takeInterpolation strict index : Attempt (Workspace ι) _) := by
  intro w other items v hsame h
  have hcursor := hframe.cursor_eq hsame
  unfold takeInterpolation at h ⊢
  simp only [yields_bind, yields_get] at h ⊢
  obtain ⟨_, _, ⟨rfl, rfl⟩, h⟩ := h
  have hsize := Cursor.size_take w.cursor index
  -- The cursors are the same, so that the same item is taken or missing in both workspaces.
  cases htake : w.cursor.take index with
  | mk item left =>
      rw [htake] at h hsize
      cases item with
      | some item =>
          obtain ⟨_, _, hset, hend⟩ := yields_bind.mp h
          obtain rfl := yields_set.mp hset
          obtain ⟨rfl, rfl⟩ := yields_pure.mp hend
          obtain ⟨hleads, hafter⟩ := hframe.keeps_cursor hsame hsize
          refine ⟨hleads, { other with cursor := left }, ⟨_, _, ⟨rfl, rfl⟩, ?_⟩, hafter⟩
          rw [← hcursor, htake]
          rfl
      | none =>
          have hdrop : Keeps frame (do
              if strict then throw (.template (.unmatchedPlaceholder index w.cursor.size))
              note (.placeholderDropped index w.cursor.size)
              return [] : Attempt (Workspace ι) (List (CallTree ι))) := by
            dsimp only
            split
            · exact keeps_bind (keeps_throw _) fun _ => keeps_bind (hframe.keeps_drop _ _) fun _ =>
                keeps_pure _
            · exact keeps_bind (hframe.keeps_drop _ _) fun _ => keeps_pure _
          obtain ⟨hleads, final, hfinal, hsame⟩ := hdrop w other items v hsame h
          refine ⟨hleads, final, ⟨_, _, ⟨rfl, rfl⟩, ?_⟩, hsame⟩
          rw [← hcursor, htake]
          exact hfinal

/-- A text keeps a frame of the cursor. -/
theorem keeps_splice (strict : Bool) (value : String) :
    Keeps frame (splice strict value : Attempt (Workspace ι) _) := by
  have hrel : frame.keeping.rel (splice strict value) (splice strict value) :=
    rel_splice (keeps_take_interpolation hframe strict) value
  exact hrel

/-- The properties of a tag keep a frame of the cursor. -/
theorem keeps_properties (options : Options) (as : List Attribute) :
    Keeps frame (properties options as : Attempt (Workspace ι) _) := by
  have hrel : frame.keeping.rel (properties options as) (properties options as) :=
    rel_properties rfl (keeps_take_interpolation hframe options.strict) as
  exact hrel

end

/-- A node keeps the frame of the workspace if the nodes inside it do. -/
theorem keeps_compile_step (options : Options) (lookup : Lookup)
    {descend : Markup → Attempt (Workspace ι) (CallTree ι)}
    (hdescend : ∀ node, Keeps workspaceFrame (descend node))
    (node : Markup) :
    Keeps workspaceFrame (compileStep options lookup descend node) := by
  have hrelated : options.Related (workspaceFrame : Frame (Workspace ι)).keeping options :=
    ⟨rfl, rfl, keeps_take_interpolation is_cursor_frame_workspace_frame options.strict,
      fun _ => keeps_note rfl⟩
  have hrel : (workspaceFrame : Frame (Workspace ι)).keeping.rel
      (compileStep options lookup descend node) (compileStep options lookup descend node) :=
    rel_compile_step hrelated hdescend node
  exact hrel

/-- Compiling a node keeps the frame of the workspace. -/
theorem keeps_compile_within (options : Options) (lookup : Lookup) (room : Nat) (node : Markup) :
    Keeps workspaceFrame
      (compileWithin options lookup room node : Attempt (Workspace ι) (CallTree ι)) := by
  induction room generalizing node with
  | zero => exact keeps_compile_step options lookup (fun _ => keeps_throw _) node
  | succ room ih => exact keeps_compile_step options lookup ih node

end Compiler

end ElementMarkup
