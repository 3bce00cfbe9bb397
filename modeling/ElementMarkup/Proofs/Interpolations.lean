import ElementMarkup.Proofs.Frame
import ElementMarkup.Proofs.Walk

/-!
# Interpolations in walk order

Outside strict mode a compilation takes the interpolations in the order of the walk over the tree,
each at most once. `Takes xs visits emitted w v` is the invariant: between the workspaces `w` and
`v` the placeholders of `visits` were met, those that were used for the first time took their
interpolation, and `emitted` came out of it. Every function of the compiler keeps it, and so does
the whole compilation (`follows_compile_within`).
-/

namespace ElementMarkup.Compiler

open ElementMarkup.Attempt

variable {ι : Type} {xs : List ι} {w u v : Workspace ι}

/-! ## The invariant -/

/-- The interpolations that have been taken are those of the first uses among the given numbers. -/
def HasTaken (xs : List ι) (indices : List Nat) (w : Workspace ι) : Prop :=
  w.cursor = .afterTaking (xs.map .interpolation) (firstUses xs.length indices)

/-- Meeting the placeholders of `visits` leads from one workspace to another and gives the emitted
interpolations: exactly those of the first uses, or some of them if a template was extended. -/
def Takes (xs : List ι) (visits : List Visit) (emitted : List ι) (w v : Workspace ι) : Prop :=
  ∀ before, HasTaken xs before w →
    HasTaken xs (before ++ placeholders visits) v ∧
    ∃ fresh,
      firstUses xs.length (before ++ placeholders visits) = firstUses xs.length before ++ fresh ∧
      emitted.Sublist (fresh.filterMap (xs[·]?)) ∧
      (.extension ∉ visits → emitted = fresh.filterMap (xs[·]?))

/-- Where nothing is met nothing is taken. -/
theorem Takes.nil (h : w.cursor = v.cursor) : Takes xs [] [] w v := by
  intro before hbefore
  refine ⟨?_, [], ?_, List.Sublist.refl _, fun _ => rfl⟩
  · rw [HasTaken, ← h, hbefore]
    simp [placeholders]
  · simp [placeholders]

/-- What is met in a row is taken in a row. -/
theorem Takes.append {first second : List Visit} {emitted more : List ι}
    (hfirst : Takes xs first emitted w u) (hsecond : Takes xs second more u v) :
    Takes xs (first ++ second) (emitted ++ more) w v := by
  intro before hbefore
  obtain ⟨hbetween, fresh, hfresh, hsub, hexact⟩ := hfirst before hbefore
  obtain ⟨hafter, later, hlater, hsubLater, hexactLater⟩ := hsecond _ hbetween
  have hvisits : placeholders (first ++ second) = placeholders first ++ placeholders second :=
    List.filterMap_append
  rw [hvisits, ← List.append_assoc]
  refine ⟨hafter, fresh ++ later, ?_, ?_, ?_⟩
  · rw [hlater, hfresh, List.append_assoc]
  · rw [List.filterMap_append]
    exact hsub.append hsubLater
  · intro hnone
    rw [List.mem_append, not_or] at hnone
    rw [List.filterMap_append, hexact hnone.1, hexactLater hnone.2]

/-- Where a template is extended, part of what was taken may be lost. -/
theorem Takes.extension {visits : List Visit} {emitted some : List ι}
    (h : Takes xs visits emitted w v) (hsome : some.Sublist emitted) :
    Takes xs (.extension :: visits) some w v := by
  intro before hbefore
  obtain ⟨hafter, fresh, hfresh, hsub, _⟩ := h before hbefore
  exact ⟨hafter, fresh, hfresh, hsome.trans hsub,
    fun hnone => absurd List.mem_cons_self hnone⟩

/-! ## Texts -/

/-- A placeholder takes its interpolation on its first use. -/
theorem takes_take_interpolation {i : Nat} {items : List (CallTree ι)}
    (h : Yields (takeInterpolation false i) w items v) :
    Takes xs [.placeholder i] (CallTree.interpolationsOf items) w v := by
  intro before hbefore
  obtain ⟨cursor, events⟩ := w
  obtain rfl : cursor = _ := hbefore
  have hplaceholders : placeholders [.placeholder i] = [i] := rfl
  rw [hplaceholders]
  by_cases hmissing : i ∈ firstUses xs.length before ∨ xs.length ≤ i
  · -- A number that was used before or has no interpolation is dropped.
    have hlength : (xs.map CallTree.interpolation).length = xs.length :=
      List.length_map _
    obtain ⟨rfl, rfl⟩ := yields_unique h
      (yields_take_interpolation_of_missing (by rwa [hlength]) events)
    refine ⟨?_, [], ?_, List.Sublist.refl _, fun _ => rfl⟩
    · rw [HasTaken, first_uses_concat_of_old hmissing]
    · rw [first_uses_concat_of_old hmissing, List.append_nil]
  · rw [not_or, Nat.not_le] at hmissing
    obtain ⟨hnew, hlt⟩ := hmissing
    have hitem : (xs.map CallTree.interpolation)[i]? = some (.interpolation xs[i]) := by
      rw [List.getElem?_map, List.getElem?_eq_getElem hlt]
      rfl
    obtain ⟨rfl, rfl⟩ := yields_unique h (yields_take_interpolation_of_free false hnew hitem events)
    have hone : [i].filterMap (xs[·]?) = [xs[i]] := by
      simp [hlt]
    rw [HasTaken, first_uses_concat_of_new hlt hnew]
    refine ⟨rfl, [i], rfl, ?_, fun _ => ?_⟩
    · rw [hone]
      exact List.Sublist.refl _
    · rw [hone]
      rfl

/-- Literal text holds no interpolations. -/
theorem interpolations_of_segment (cs : List Char) :
    CallTree.interpolationsOf (segment cs : List (CallTree ι)) = [] := by
  unfold segment
  split <;> rfl

/-- The marks of a text are met in order. -/
theorem takes_splice_marks {marks : List (List Char × List Char)} {items : List (CallTree ι)}
    (h : Yields (spliceMarks false marks) w items v) :
    Takes xs (marks.map fun mark => .placeholder (Text.digitsValue mark.1))
      (CallTree.interpolationsOf items) w v := by
  induction marks generalizing w items v with
  | nil =>
      obtain ⟨rfl, rfl⟩ := yields_pure.mp h
      exact Takes.nil rfl
  | cons mark marks ih =>
      obtain ⟨digits, text⟩ := mark
      simp only [spliceMarks, yields_bind, yields_lift_except, yields_pure] at h
      obtain ⟨index, _, ⟨hindex, rfl⟩, taken, _, htake, more, _, hmore, rfl, rfl⟩ := h
      obtain rfl : Text.digitsValue digits = index := by
        unfold Placeholder.index at hindex
        split at hindex
        · cases hindex
        · exact Except.ok.inj hindex
      rw [List.map_cons, ← List.singleton_append, List.append_assoc,
        CallTree.interpolations_of_append, CallTree.interpolations_of_append,
        interpolations_of_segment, List.nil_append]
      exact (takes_take_interpolation htake).append (ih hmore)

/-- The placeholders of a text are met in order. -/
theorem takes_splice {value : String} {items : List (CallTree ι)}
    (h : Yields (splice false value) w items v) :
    Takes xs (textVisits value) (CallTree.interpolationsOf items) w v := by
  unfold textVisits
  by_cases hmarks : (Placeholder.split value.toList).marks = []
  · rw [splice_of_marks_eq_nil false hmarks] at h
    obtain ⟨rfl, rfl⟩ := yields_pure.mp h
    rw [hmarks]
    exact Takes.nil rfl
  · rw [splice_of_marks_ne_nil false hmarks] at h
    obtain ⟨more, _, hmore, hend⟩ := yields_bind.mp h
    obtain ⟨rfl, rfl⟩ := yields_pure.mp hend
    rw [CallTree.interpolations_of_append, interpolations_of_segment]
    exact takes_splice_marks hmore

/-! ## Attributes -/

/-- The placeholders of a value are met in order. -/
theorem takes_attribute_value {value : Scalar} {tree : CallTree ι}
    (h : Yields (attributeValue false value) w tree v) :
    Takes xs (valueVisits value) tree.interpolations w v := by
  cases value with
  | text value =>
      simp only [attributeValue] at h
      obtain ⟨parts, _, hparts, hend⟩ := yields_bind.mp h
      have htakes : Takes xs (textVisits value) _ _ _ := takes_splice hparts
      match parts, hend with
      | [], hend =>
          obtain ⟨rfl, rfl⟩ := yields_pure.mp hend
          exact htakes
      | [part], hend =>
          obtain ⟨rfl, rfl⟩ := yields_pure.mp hend
          rw [← CallTree.interpolations_of_singleton]
          exact htakes
      | _ :: _ :: _, hend =>
          obtain ⟨rfl, rfl⟩ := yields_pure.mp hend
          exact htakes
  | _ =>
      obtain ⟨rfl, rfl⟩ := yields_pure.mp h
      exact Takes.nil rfl

/-- The placeholders of the merged attributes are met in order. -/
theorem takes_mapM_property {entries : Entries Scalar} {ps : List (Property (CallTree ι))}
    (h : Yields (entries.mapM (property false)) w ps v) :
    Takes xs (entries.flatMap fun entry => valueVisits entry.2)
      (CallTree.interpolationsOfProperties ps) w v := by
  induction entries generalizing w ps v with
  | nil =>
      obtain ⟨rfl, rfl⟩ := yields_mapM_nil.mp h
      exact Takes.nil rfl
  | cons entry entries ih =>
      obtain ⟨p, more, _, hp, hmore, rfl⟩ := yields_mapM_cons.mp h
      simp only [property, yields_bind, yields_pure] at hp
      obtain ⟨value, _, hvalue, rfl, rfl⟩ := hp
      exact (takes_attribute_value hvalue).append (ih hmore)

/-- The placeholders in the attributes of a tag are met in order. -/
theorem takes_properties {options : Options} (hstrict : options.strict = false)
    {as : List Attribute} {tree : CallTree ι} (h : Yields (properties options as) w tree v) :
    Takes xs (attributeVisits options.propertyNames as) tree.interpolations w v := by
  rw [attributeVisits, ← Attribute.flat_map_merge]
  by_cases hmerge : Attribute.merge options.propertyNames as = []
  · rw [properties_of_merge_eq_nil hmerge] at h
    obtain ⟨rfl, rfl⟩ := yields_pure.mp h
    rw [hmerge]
    exact Takes.nil rfl
  · rw [properties_of_merge_ne_nil hmerge, hstrict] at h
    obtain ⟨ps, _, hps, hend⟩ := yields_bind.mp h
    obtain ⟨rfl, rfl⟩ := yields_pure.mp hend
    exact takes_mapM_property hps

/-! ## Nodes -/

/-- A way to compile nodes takes the interpolations in the order of the walk. -/
def Follows (options : Options) (lookup : Lookup) (xs : List ι)
    (descend : Markup → Attempt (Workspace ι) (CallTree ι)) : Prop :=
  ∀ node w tree v, Yields (descend node) w tree v →
    ∃ visits, Walk options.propertyNames lookup node visits ∧
      Takes xs visits tree.interpolations w v

variable {options : Options} {lookup : Lookup}
  {descend : Markup → Attempt (Workspace ι) (CallTree ι)}

/-- Nodes that are compiled in order take the interpolations in the order of their walk. -/
theorem Follows.mapM (hdescend : Follows options lookup xs descend) {nodes : List Markup}
    {trees : List (CallTree ι)} (h : Yields (nodes.mapM descend) w trees v) :
    ∃ visits, WalkAll options.propertyNames lookup nodes visits ∧
      Takes xs visits (CallTree.interpolationsOf trees) w v := by
  induction nodes generalizing w trees v with
  | nil =>
      obtain ⟨rfl, rfl⟩ := yields_mapM_nil.mp h
      exact ⟨[], .nil, Takes.nil rfl⟩
  | cons node nodes ih =>
      obtain ⟨tree, more, _, htree, hmore, rfl⟩ := yields_mapM_cons.mp h
      obtain ⟨visits, hwalk, htakes⟩ := hdescend _ _ _ _ htree
      obtain ⟨others, hwalks, htakesMore⟩ := ih hmore
      exact ⟨_, .cons _ _ _ _ hwalk hwalks, htakes.append htakesMore⟩

/-- The first of a list of results holds some of the interpolations. -/
theorem interpolations_first_result (tree : CallTree ι) :
    (firstResult tree).interpolations.Sublist tree.interpolations := by
  unfold firstResult
  split
  · exact List.sublist_append_left _ _
  · exact List.Sublist.refl _

/-- A node takes the interpolations in the order of its walk if the nodes inside it do. -/
theorem Follows.compile_step (hstrict : options.strict = false)
    (hdescend : Follows options lookup xs descend) :
    Follows options lookup xs (compileStep options lookup descend) := by
  intro node w tree v h
  cases node with
  | block position nodes =>
      obtain ⟨trees, _, htrees, hend⟩ := yields_bind.mp h
      obtain ⟨rfl, rfl⟩ := yields_pure.mp hend
      obtain ⟨visits, hwalk, htakes⟩ := hdescend.mapM htrees
      exact ⟨visits, .block _ _ _ hwalk, htakes⟩
  | namedBlock position name nodes =>
      simp only [Compiler.compileStep] at h
      split at h
      · rename_i override hlookup
        obtain ⟨_, between, hnote, h⟩ := yields_bind.mp h
        obtain ⟨trees, _, htrees, hend⟩ := yields_bind.mp h
        obtain ⟨rfl, rfl⟩ := yields_pure.mp hend
        obtain ⟨visits, hwalk, htakes⟩ := hdescend.mapM htrees
        -- The note of the override comes first and takes nothing.
        have hsame : w.cursor = between.cursor := by rw [← yields_note.mp hnote]
        exact ⟨visits, .overridden _ _ _ _ _ hlookup hwalk, (Takes.nil hsame).append htakes⟩
      · rename_i hlookup
        obtain ⟨trees, _, htrees, hend⟩ := yields_bind.mp h
        obtain ⟨rfl, rfl⟩ := yields_pure.mp hend
        obtain ⟨visits, hwalk, htakes⟩ := hdescend.mapM htrees
        exact ⟨visits, .namedBlock _ _ _ _ hlookup hwalk, htakes⟩
  | text position value =>
      obtain ⟨parts, _, hparts, hend⟩ := yields_bind.mp h
      obtain ⟨rfl, rfl⟩ := yields_pure.mp hend
      rw [hstrict] at hparts
      exact ⟨_, .text _ _, takes_splice hparts⟩
  | tag position name attributes blockPosition children =>
      simp only [Compiler.compileStep, yields_bind, yields_pure] at h
      obtain ⟨props, _, hprops, trees, _, htrees, rfl, rfl⟩ := h
      obtain ⟨visits, hwalk, htakes⟩ := hdescend.mapM htrees
      refine ⟨_, .tag _ _ _ _ _ _ hwalk, ?_⟩
      rw [CallTree.interpolations, CallTree.interpolationsOf, CallTree.interpolationsOf,
        interpolations_tag_tree, CallTree.interpolations_of_flatten, List.nil_append]
      exact (takes_properties hstrict hprops).append htakes
  | included position path inner =>
      obtain ⟨visits, hwalk, htakes⟩ := hdescend _ _ _ _ h
      exact ⟨visits, .included _ _ _ _ hwalk, htakes⟩
  | extended position path inner =>
      obtain ⟨first, _, hinner, hend⟩ := yields_bind.mp h
      obtain ⟨rfl, rfl⟩ := yields_pure.mp hend
      obtain ⟨visits, hwalk, htakes⟩ := hdescend _ _ _ _ hinner
      -- All of the parent is compiled, but only the first of its results is kept.
      exact ⟨_, .extended _ _ _ _ hwalk, htakes.extension (interpolations_first_result first)⟩
  | foreign position kind => exact absurd h not_yields_throw

/-- A compilation takes the interpolations in the order of the walk. -/
theorem follows_compile_within (hstrict : options.strict = false) (lookup : Lookup) (xs : List ι)
    (room : Nat) : Follows options lookup xs (compileWithin options lookup room) := by
  induction room with
  | zero => exact Follows.compile_step hstrict fun _ _ _ _ h => absurd h not_yields_throw
  | succ room ih => exact Follows.compile_step hstrict ih

/-! ## Compilations -/

/-- The result of compiling a tree holds the interpolations of the first uses in the walk over the
tree, and the missing numbers are the others. If a template was extended on the way, some of the
interpolations that were used may not be in the result. -/
def InWalkOrder (propertyNames : Entries String) (lookup : Lookup) (tree : Markup) (xs : List ι)
    (result : CallTree ι) (missing : List Nat) : Prop :=
  ∃ visits, Walk propertyNames lookup tree visits ∧
    (∀ others, Walk propertyNames lookup tree others → others = visits) ∧
    let used := firstUses xs.length (placeholders visits)
    result.interpolations.Sublist (used.filterMap (xs[·]?)) ∧
    (.extension ∉ visits → result.interpolations = used.filterMap (xs[·]?)) ∧
    missing = (List.range xs.length).filter fun i => decide (i ∉ used)

/-- A tree compiles in the order of its walk. -/
theorem in_walk_order_of_yields {options : Options} (hstrict : options.strict = false)
    {lookup : Lookup} {tree : Markup} {xs : List ι} {events : List Event} {result : CallTree ι}
    {w : Workspace ι}
    (h : Yields (compile options lookup tree)
      ⟨.ofList (xs.map .interpolation), events⟩ result w) :
    InWalkOrder options.propertyNames lookup tree xs result w.cursor.unconsumed := by
  obtain ⟨visits, hwalk, htakes⟩ := follows_compile_within hstrict lookup xs _ _ _ _ _ h
  have hstart : HasTaken xs [] ⟨.ofList (xs.map .interpolation), events⟩ :=
    Cursor.of_list_eq_after_taking _
  obtain ⟨hend, fresh, hfresh, hsub, hexact⟩ := htakes [] hstart
  have hused : firstUses xs.length (placeholders visits) = fresh := hfresh
  refine ⟨visits, hwalk, fun _ hother => walk_unique hother hwalk, ?_⟩
  rw [hused]
  refine ⟨hsub, hexact, ?_⟩
  rw [hend, Cursor.unconsumed_after_taking, List.length_map, List.nil_append, hused]

/-- The only report of unused interpolations is the one at the end of a compilation. -/
theorem filter_is_unused_closing {before : List Event}
    (h : ∀ event ∈ before, event.isUnused = false) (name : Option String)
    (cursor : Cursor (CallTree ι)) :
    (before ++ Environment.closing name cursor).filter Event.isUnused =
      if cursor.unconsumed = [] then [] else [.interpolationsUnused name cursor.unconsumed] := by
  have hnone : before.filter Event.isUnused = [] := by
    rw [List.filter_eq_nil_iff]
    intro event hevent
    simp [h event hevent]
  rw [List.filter_append, hnone, List.nil_append, Environment.closing]
  by_cases hempty : cursor.unconsumed = []
  · rw [if_pos (List.isEmpty_iff.mpr hempty), if_pos hempty]
    rfl
  · rw [if_neg fun h => hempty (List.isEmpty_iff.mp h), if_neg hempty]
    rfl

/-- Interpolations are used at most once and in the order of the walk. Outside strict mode, if a
tree compiles, the interpolations of the result are those of the placeholders that the walk meets,
each for the first use of its number; where a template is extended, they are some of these in the
same order. The interpolations that are left are the others, and if a template of an environment
compiles, they are what the only report of unused interpolations names. -/
theorem interpolations_in_walk_order (ι : Type) :
    (∀ (options : Options) (lookup : Lookup) (tree : Markup) (xs : List ι) (events : List Event)
        (result : CallTree ι) (w : Workspace ι),
      options.strict = false →
      (compile options lookup tree).run.run ⟨.ofList (xs.map .interpolation), events⟩ =
        (.ok result, w) →
      InWalkOrder options.propertyNames lookup tree xs result w.cursor.unconsumed) ∧
    ∀ (env : Environment) (fragments : List String) (xs : List ι) (name : Option String)
        (result : CallTree ι) (events : List Event),
      env.strict = false →
      (env.compile fragments (xs.map .interpolation) name).outcome = (.ok result, events) →
      ∃ composition before missing,
        (env.composition fragments xs.length name).outcome = (.ok composition, before) ∧
        InWalkOrder env.propertyNames composition.lookup composition.root xs result missing ∧
        events.filter Event.isUnused =
          if missing = [] then [] else [.interpolationsUnused name missing] := by
  constructor
  · intro options lookup tree xs events result w hstrict h
    exact in_walk_order_of_yields hstrict h
  · intro env fragments xs name result events hstrict h
    obtain ⟨composition, before, w, hcomposition, hcompile, rfl⟩ := Environment.yields_compile.mp h
    rw [List.length_map] at hcomposition
    obtain ⟨hquietly, _⟩ :=
      env.keeps_composition fragments xs.length name [] [] _ _ trivial hcomposition
    obtain ⟨⟨_, hsilently⟩, _⟩ := keeps_compile_within _ _ _ _ _ _ _ _ rfl hcompile
    obtain ⟨reported, hreported, hquiet⟩ := adds_quietly_trans hquietly hsilently
    obtain rfl : reported = w.events := hreported.symm
    exact ⟨composition, before, w.cursor.unconsumed, hcomposition,
      in_walk_order_of_yields hstrict hcompile, filter_is_unused_closing hquiet name w.cursor⟩

/-- A tree whose attributes are merged out of order, with a block that is overridden twice and a
placeholder that has no interpolation: the numbers 2, 0 and 1 are used in this order, and 3 is
left. -/
theorem interpolations_in_walk_order_merged :
    let tree : Markup := .tag ⟨1, 0⟩ "p"
      [⟨"class", .text "a/~2~/"⟩, ⟨"id", .text "/~0~/"⟩, ⟨"className", .text "/~2~//~9~/"⟩]
      (some ⟨1, 0⟩) [.namedBlock ⟨2, 2⟩ "side" [.text ⟨3, 4⟩ "/~3~/"],
        .namedBlock ⟨4, 2⟩ "side" [], .text ⟨5, 2⟩ "/~0~/"]
    let lookup : Lookup := fun name => if name = "side" then some [.text ⟨1, 2⟩ "/~1~/"] else none
    let start : Workspace Nat := ⟨.ofList ([10, 11, 12, 13].map .interpolation), []⟩
    ∃ result w,
      (compile Environment.default.options lookup tree).run.run start = (.ok result, w) ∧
      InWalkOrder Environment.default.propertyNames lookup tree [10, 11, 12, 13] result
        w.cursor.unconsumed := by
  intro tree lookup start
  have hok : ((compile Environment.default.options lookup tree).run.run start).1.isOk = true := by
    decide +kernel
  cases hrun : (compile Environment.default.options lookup tree).run.run start with
  | mk outcome w =>
      rw [hrun] at hok
      cases outcome with
      | error fault => cases hok
      | ok result =>
          exact ⟨result, w, rfl, (interpolations_in_walk_order Nat).1 _ _ _ _ _ _ _ rfl hrun⟩

end ElementMarkup.Compiler
