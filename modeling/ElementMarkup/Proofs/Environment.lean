import ElementMarkup.Environment
import ElementMarkup.Proofs.Attempt

/-!
# The stages of a compilation

A compilation in an environment first brings its fragments into the form of a composition
(`composition`): the fragments become a source, the source a tree, and the tree a composition. Then
the root of the composition is compiled, and at the end the interpolations that were not used are
reported (`yields_compile`).
-/

namespace ElementMarkup

open Attempt

/-! ## Sources at the margin -/

namespace Fragments

/-- The first line of a text that is not empty starts with neither a space nor a tab. -/
def startsAtMargin (cs : List Char) : Bool :=
  ((Text.splitOn '\n' cs).find? fun line => !line.isEmpty).all fun line =>
    line.head? != some ' ' && line.head? != some '\t'

/-- A text that starts at the margin stays where it is. -/
theorem deindent_of_starts_at_margin {cs : List Char} (h : startsAtMargin cs = true) :
    deindent cs = cs := by
  unfold startsAtMargin at h
  unfold deindent
  dsimp only
  cases hfirst : (Text.splitOn '\n' cs).find? (fun line => !line.isEmpty) with
  | none => rfl
  | some line =>
      have hrun : leadingRun line = 0 := by
        rw [hfirst] at h
        cases line with
        | nil => rfl
        | cons c line =>
            simp only [Option.all_some, List.head?_cons, Bool.and_eq_true, bne_iff_ne, ne_eq,
              Option.some.injEq] at h
            exact if_neg (not_or.mpr ⟨h.2, h.1⟩)
      exact if_pos hrun

/-- A text whose first character is no blank starts at the margin. -/
theorem starts_at_margin_cons {c : Char} {cs : List Char} (hc : Text.isBlank c = false) :
    startsAtMargin (c :: cs) = true := by
  have hne {d : Char} (hd : Text.isBlank d = true) : c ≠ d := by
    rintro rfl
    rw [hc] at hd
    cases hd
  have hlines : ∃ part parts, Text.splitOn '\n' (c :: cs) = (c :: part) :: parts := by
    rw [Text.splitOn, if_neg (hne (by decide))]
    split
    · exact ⟨[], [], rfl⟩
    · exact ⟨_, _, rfl⟩
  obtain ⟨part, parts, hlines⟩ := hlines
  rw [startsAtMargin, hlines]
  simp [hne (d := ' ') (by decide), hne (d := '\t') (by decide)]

end Fragments

namespace Environment

/-! ## Stages -/

variable {ι : Type}

/-- How the templates that a source asks for are parsed, if there is room for them. -/
def nextWithin (env : Environment) :
    Nat → Option (List String → Option String → String → Logged Markup)
  | 0 => none
  | room + 1 => some (env.parseWithin room)

/-- A source is parsed with the room that its templates have. -/
theorem parse_within_eq (env : Environment) (room : Nat) (stack : List String)
    (name : Option String) (source : String) :
    env.parseWithin room stack name source =
      parseSource name (env.load stack name (env.nextWithin room)) source := by
  cases room <;> rfl

/-- The composition that the fragments of a template with `count` interpolations stand for. -/
def composition (env : Environment) (fragments : List String) (count : Nat)
    (name : Option String) : Logged Composition := do
  let source ← Fragments.encode fragments count
  report (.encoded name fragments.length count)
  let tree ← env.parse source name
  Composition.ofNodes tree.topLevel

/-- The composition of a single source that starts at the margin. -/
theorem composition_of_starts_at_margin (env : Environment) {source : String}
    (h : Fragments.startsAtMargin source.toList = true) (name : Option String) :
    env.composition [source] 0 name = (do
      report (.encoded name 1 0)
      let tree ← env.parse source name
      Composition.ofNodes tree.topLevel) := by
  have hjoin : Fragments.join [source] 0 = source.toList := by
    simp [Fragments.join, Fragments.joinFrom]
  have hencode : Fragments.encode [source] 0 = pure source := by
    simp [Fragments.encode, hjoin, Fragments.deindent_of_starts_at_margin h]
  rw [composition, hencode]
  rfl

/-- The events that close a compilation, given the interpolations that are left. -/
def closing (name : Option String) (cursor : Cursor (CallTree ι)) : List Event :=
  (if cursor.unconsumed.isEmpty then [] else [.interpolationsUnused name cursor.unconsumed]) ++
    [.compiled name cursor.consumed cursor.size]

/-- A run over a composition is one over its root, with the interpolations and the events so
far. -/
theorem run_compile_composition (env : Environment) (composition : Composition)
    (interpolations : List (CallTree ι)) (events : List Event) :
    (env.compileComposition composition interpolations).run.run events =
      let outcome := (Compiler.compile env.options composition.lookup composition.root).run.run
        ⟨.ofList interpolations, events⟩
      (outcome.1.map fun tree => (tree, outcome.2.cursor), outcome.2.events) :=
  rfl

/-- A composition compiles if its root does, with the interpolations and the events so far. -/
theorem yields_compile_composition {env : Environment} {composition : Composition}
    {interpolations : List (CallTree ι)} {events final : List Event} {result : CallTree ι}
    {cursor : Cursor (CallTree ι)} :
    Yields (env.compileComposition composition interpolations) events (result, cursor) final ↔
      Yields (Compiler.compile env.options composition.lookup composition.root)
        ⟨.ofList interpolations, events⟩ result ⟨cursor, final⟩ := by
  unfold Yields
  rw [run_compile_composition]
  generalize (Compiler.compile env.options composition.lookup composition.root).run.run
    ⟨.ofList interpolations, events⟩ = outcome
  obtain ⟨tree, w⟩ := outcome
  cases tree with
  | error fault => constructor <;> intro h <;> cases congrArg Prod.fst h
  | ok tree =>
      obtain ⟨left, reported⟩ := w
      constructor <;> intro h <;> cases h <;> rfl

/-- The end of a compilation gives its result and reports the closing events. -/
theorem yields_closing {name : Option String} {cursor : Cursor (CallTree ι)}
    {result value : CallTree ι} {before after : List Event} :
    Yields (do
      if !cursor.unconsumed.isEmpty then
        report (.interpolationsUnused name cursor.unconsumed)
      report (.compiled name cursor.consumed cursor.size)
      return result) before value after ↔
    result = value ∧ before ++ closing name cursor = after := by
  unfold closing
  cases hempty : cursor.unconsumed.isEmpty with
  | true =>
      simp only [Bool.not_true, Bool.false_eq_true, if_false, if_true, List.nil_append,
        yields_bind, yields_pure, yields_report]
      constructor
      · rintro ⟨_, _, rfl, rfl, rfl⟩
        exact ⟨rfl, rfl⟩
      · rintro ⟨rfl, rfl⟩
        exact ⟨(), _, rfl, rfl, rfl⟩
  | false =>
      simp only [Bool.not_false, Bool.false_eq_true, if_false, if_true,
        yields_bind, yields_pure, yields_report]
      constructor
      · rintro ⟨_, _, rfl, _, _, rfl, rfl, rfl⟩
        exact ⟨rfl, (List.append_assoc _ _ _).symm⟩
      · rintro ⟨rfl, rfl⟩
        exact ⟨(), _, rfl, (), _, rfl, rfl, List.append_assoc _ _ _⟩

/-- A compilation succeeds exactly if its template has a composition and the root of it compiles. -/
theorem yields_compile {env : Environment} {fragments : List String}
    {interpolations : List (CallTree ι)} {name : Option String} {events final : List Event}
    {result : CallTree ι} :
    Yields (env.compile fragments interpolations name) events result final ↔
      ∃ composition composed w,
        Yields (env.composition fragments interpolations.length name) events composition
          composed ∧
        Yields (Compiler.compile env.options composition.lookup composition.root)
          ⟨.ofList interpolations, composed⟩ result w ∧
        w.events ++ closing name w.cursor = final := by
  unfold compile Environment.composition
  simp only [yields_bind, yields_report]
  constructor
  · rintro ⟨source, encoded, hencode, _, _, rfl, tree, parsed, hparse, composition, composed,
      hcompose, ⟨value, cursor⟩, after, hcompile, hend⟩
    rw [yields_compile_composition] at hcompile
    obtain ⟨rfl, rfl⟩ := yields_closing.mp hend
    exact ⟨composition, composed, _, ⟨source, encoded, hencode, (), _, rfl, tree, parsed, hparse,
      hcompose⟩, hcompile, rfl⟩
  · rintro ⟨composition, composed, ⟨cursor, after⟩, ⟨source, encoded, hencode, _, _, rfl, tree,
      parsed, hparse, hcompose⟩, hcompile, rfl⟩
    exact ⟨source, encoded, hencode, (), _, rfl, tree, parsed, hparse, composition, composed,
      hcompose, (result, cursor), after, yields_compile_composition.mpr hcompile,
      yields_closing.mpr ⟨rfl, rfl⟩⟩

end Environment

end ElementMarkup
