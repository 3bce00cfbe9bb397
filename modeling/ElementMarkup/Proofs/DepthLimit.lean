import ElementMarkup.Proofs.Compiler
import ElementMarkup.Proofs.Attributes
import ElementMarkup.Proofs.Congruence
import ElementMarkup.Proofs.Depth
import ElementMarkup.Proofs.Placeholder

/-!
# The limit on how deep nodes nest

With overrides a compilation can go on for ever, so that a node need not have a height. `Height`
relates a node to its height if it has one. Outside of strict mode the limit is the only thing that
stops a compilation, and it does so exactly if the height is missing or does not fit
(`compile_within_limit`): the outcome of a node depends on the room it is given and never on the
interpolations that are left. The root itself takes no room, so that a limit below zero is no
different from zero.
-/

namespace ElementMarkup

/-- The numbers of the placeholders in a value are not too long to be read. -/
def Scalar.hasShortMarks : Scalar → Bool
  | text value => (Placeholder.digitsOf value.toList).all fun digits =>
      decide (digits.length ≤ integerDigitLimit)
  | _ => true

/-- A value that is combined from values with short marks has short marks. -/
theorem Attribute.has_short_marks_combine {previous : Option Scalar} {value : Scalar}
    (hprevious : ∀ p ∈ previous, p.hasShortMarks = true) (hvalue : value.hasShortMarks = true) :
    (combine previous value).hasShortMarks = true := by
  unfold combine
  split
  · rename_i a b
    have hspace : (a ++ " " ++ b).toList = a.toList ++ ' ' :: b.toList := by simp
    rw [Scalar.hasShortMarks, hspace, Placeholder.digits_of_append_space, List.all_append,
      Bool.and_eq_true]
    exact ⟨hprevious _ rfl, hvalue⟩
  · exact hvalue

/-- The merged attributes of a tag have short marks if its attributes do. -/
theorem Attribute.has_short_marks_merge (propertyNames : Entries String) {as : List Attribute}
    (h : ∀ a ∈ as, a.value.hasShortMarks = true) :
    ∀ entry ∈ merge propertyNames as, entry.2.hasShortMarks = true := by
  induction as using List.reverseRecOn with
  | nil =>
      intro entry hentry
      cases hentry
  | append_singleton as a ih =>
      obtain ⟨has, ha⟩ := List.forall_mem_append.mp h
      intro entry hentry
      rw [merge_concat] at hentry
      rcases Entries.mem_put hentry with rfl | hmem
      · refine has_short_marks_combine ?_ (ha a List.mem_cons_self)
        intro previous hprevious
        exact ih has _ (Entries.mem_of_get? hprevious)
      · exact ih has entry hmem

namespace Markup

/-- A node that can be compiled as such: it is markup, and its placeholders are short. -/
def isRegular : Markup → Bool
  | text _ value => (Scalar.text value).hasShortMarks
  | tag _ _ attributes _ _ => attributes.all (·.value.hasShortMarks)
  | foreign _ _ => false
  | _ => true

mutual

/-- A property of a node and of all nodes inside it. -/
def all (p : Markup → Bool) : Markup → Bool
  | block position nodes => p (block position nodes) && allOf p nodes
  | namedBlock position name nodes => p (namedBlock position name nodes) && allOf p nodes
  | text position value => p (text position value)
  | tag position name attributes blockPosition children =>
      p (tag position name attributes blockPosition children) && allOf p children
  | included position path tree => p (included position path tree) && all p tree
  | extended position path tree => p (extended position path tree) && all p tree
  | foreign position kind => p (foreign position kind)

/-- A property of nodes and of all nodes inside them. -/
def allOf (p : Markup → Bool) : List Markup → Bool
  | [] => true
  | node :: nodes => all p node && allOf p nodes

end

/-- A property of all nodes of a list is one of each. -/
theorem all_of_iff {p : Markup → Bool} {nodes : List Markup} :
    allOf p nodes = true ↔ ∀ node ∈ nodes, all p node = true := by
  induction nodes with
  | nil => simp [allOf]
  | cons node nodes ih => rw [allOf, Bool.and_eq_true, ih, List.forall_mem_cons]

/-- A property of all nodes of a tree is one of the root and of the trees right inside it. -/
theorem all_iff {p : Markup → Bool} {node : Markup} :
    all p node = true ↔ p node = true ∧ ∀ inner ∈ node.inside, all p inner = true := by
  cases node with
  | block | namedBlock | tag => rw [all, Bool.and_eq_true, all_of_iff]; rfl
  | text | foreign => simp [all, inside]
  | included | extended => simp [all, inside]

end Markup

namespace Compiler

open Attempt

variable {ι : Type}

/-! ## What a node descends to -/

/-- The nodes that the compilation of a node descends to. -/
def below (lookup : Lookup) : Markup → List Markup
  | .namedBlock _ name nodes => (lookup name).getD nodes
  | node => node.inside

/-- A property of all nodes of all overrides. -/
def AllOverrides (p : Markup → Bool) (lookup : Lookup) : Prop :=
  ∀ name override, lookup name = some override → Markup.allOf p override = true

/-- The lookup that overrides a single block. -/
def overriding (name : String) (nodes : List Markup) : Lookup :=
  fun other => if other = name then some nodes else none

/-- If there is a single override it has the properties of all. -/
theorem all_overrides_overriding {p : Markup → Bool} {name : String} {nodes : List Markup}
    (h : Markup.allOf p nodes = true) : AllOverrides p (overriding name nodes) := by
  intro other override hother
  unfold overriding at hother
  split at hother
  · cases hother
    exact h
  · cases hother

/-- A property of all nodes of the tree and of all overrides holds of the nodes right below. -/
theorem all_of_mem_below {p : Markup → Bool} {lookup : Lookup} (hlookup : AllOverrides p lookup)
    {node inner : Markup} (hnode : node.all p = true) (hinner : inner ∈ below lookup node) :
    inner.all p = true := by
  have hinside := (Markup.all_iff.mp hnode).2
  cases node with
  | namedBlock position name nodes =>
      cases hname : lookup name with
      | none =>
          rw [below, hname] at hinner
          exact hinside inner hinner
      | some override =>
          rw [below, hname] at hinner
          exact Markup.all_of_iff.mp (hlookup name override hname) inner hinner
  | _ => exact hinside inner hinner

/-- The heights of nodes: how many levels they and what is below them have, if that comes to an
end. -/
inductive HeightOf (lookup : Lookup) : List Markup → Nat → Prop where
  | nil : HeightOf lookup [] 0
  | cons {node : Markup} {nodes : List Markup} {height more : Nat} :
      HeightOf lookup (below lookup node) height → HeightOf lookup nodes more →
      HeightOf lookup (node :: nodes) (max (height + 1) more)

/-- The height of a node: how many levels are below it. -/
def Height (lookup : Lookup) (node : Markup) (height : Nat) : Prop :=
  HeightOf lookup (below lookup node) height

/-- Nodes fit into some levels if what is below each of them fits into fewer. -/
theorem exists_height_of_iff {lookup : Lookup} {nodes : List Markup} {room : Nat} :
    (∃ height, HeightOf lookup nodes height ∧ height ≤ room) ↔
      ∀ node ∈ nodes, ∃ height, Height lookup node height ∧ height < room := by
  induction nodes with
  | nil => simpa using ⟨0, HeightOf.nil, Nat.zero_le _⟩
  | cons node nodes ih =>
      rw [List.forall_mem_cons, ← ih]
      constructor
      · rintro ⟨_, hheight, hle⟩
        cases hheight with
        | @cons _ _ height more hnode hnodes =>
            exact ⟨⟨height, hnode, by omega⟩, more, hnodes, by omega⟩
      · rintro ⟨⟨height, hnode, hlt⟩, more, hnodes, hle⟩
        exact ⟨max (height + 1) more, .cons hnode hnodes, by omega⟩

/-- A node fits if all nodes below it fit one level further down. -/
theorem exists_height_iff {lookup : Lookup} {node : Markup} {room : Nat} :
    (∃ height, Height lookup node height ∧ height < room + 1) ↔
      ∀ inner ∈ below lookup node, ∃ height, Height lookup inner height ∧ height < room := by
  simp only [Nat.lt_succ_iff]
  exact exists_height_of_iff

/-- Nodes have at most one height. -/
theorem height_of_unique {lookup : Lookup} {nodes : List Markup} {height other : Nat}
    (h : HeightOf lookup nodes height) (hother : HeightOf lookup nodes other) :
    height = other := by
  induction h generalizing other with
  | nil =>
      cases hother
      rfl
  | cons _ _ ihnode ihnodes =>
      cases hother with
      | cons hnode hnodes => rw [ihnode hnode, ihnodes hnodes]

/-! ## Nodes without what is below them -/

/-- Outside of strict mode an interpolation is taken or dropped. -/
theorem succeeds_take_interpolation (index : Nat) :
    Succeeds (takeInterpolation false index : Attempt (Workspace ι) _) := by
  intro w
  cases hfree : w.cursor.free? index with
  | none => exact ⟨_, _, yields_take_interpolation_of_none hfree⟩
  | some item => exact ⟨_, _, yields_take_interpolation_of_some false hfree⟩

/-- Outside of strict mode short marks are replaced. -/
theorem succeeds_splice_marks {marks : List (List Char × List Char)}
    (h : ∀ mark ∈ marks, mark.1.length ≤ integerDigitLimit) :
    Succeeds (spliceMarks false marks : Attempt (Workspace ι) _) := by
  induction marks with
  | nil => exact succeeds_pure []
  | cons mark marks ih =>
      obtain ⟨hmark, hmarks⟩ := List.forall_mem_cons.mp h
      have hindex : Placeholder.index mark.1 = .ok (Text.digitsValue mark.1) :=
        if_neg (Nat.not_lt.mpr hmark)
      exact succeeds_bind (succeeds_lift_except hindex) fun _ =>
        succeeds_bind (succeeds_take_interpolation _) fun _ =>
          succeeds_bind (ih hmarks) fun _ => succeeds_pure _

/-- Outside of strict mode a text with short marks is spliced. -/
theorem succeeds_splice {value : String} (h : (Scalar.text value).hasShortMarks = true) :
    Succeeds (splice false value : Attempt (Workspace ι) _) := by
  have hmarks : ∀ mark ∈ (Placeholder.split value.toList).marks,
      mark.1.length ≤ integerDigitLimit := by
    intro mark hmark
    exact of_decide_eq_true (List.all_eq_true.mp h _ (List.mem_map_of_mem hmark))
  unfold splice
  dsimp only
  split
  · exact succeeds_pure _
  · exact succeeds_bind (succeeds_splice_marks hmarks) fun _ => succeeds_pure _

/-- Outside of strict mode a tag with short marks has its properties. -/
theorem succeeds_properties {options : Options} (hstrict : options.strict = false)
    {as : List Attribute} (h : ∀ a ∈ as, a.value.hasShortMarks = true) :
    Succeeds (properties options as : Attempt (Workspace ι) _) := by
  have hmerged := Attribute.has_short_marks_merge options.propertyNames h
  have hproperty : ∀ entry ∈ Attribute.merge options.propertyNames as,
      Succeeds (property options.strict entry : Attempt (Workspace ι) _) := by
    intro entry hentry
    refine succeeds_bind ?_ fun _ => succeeds_pure _
    rw [hstrict]
    have hshort := hmerged entry hentry
    unfold attributeValue
    split
    · rename_i value heq
      rw [heq] at hshort
      refine succeeds_bind (succeeds_splice hshort) fun parts => ?_
      split <;> exact succeeds_pure _
    · exact succeeds_pure _
  unfold properties
  dsimp only
  split
  · exact succeeds_pure _
  · exact succeeds_bind (succeeds_mapM hproperty) fun _ => succeeds_pure _

/-! ## Descending -/

/-- Compiles a node below another one that may hold `room` levels of nodes. -/
def descendWithin (options : Options) (lookup : Lookup) :
    Nat → Markup → Attempt (Workspace ι) (CallTree ι)
  | 0 => fun _ => throw (.template (.tooDeep options.maxDepth none))
  | room + 1 => compileWithin options lookup room

/-- A node is compiled with the nodes below it having the room that it has itself. -/
theorem compile_within_eq (options : Options) (lookup : Lookup) (room : Nat) :
    compileWithin options lookup room =
      compileStep options lookup (descendWithin options lookup room : Markup →
        Attempt (Workspace ι) (CallTree ι)) := by
  cases room <;> rfl

variable {options : Options} {lookup : Lookup}
  {descend : Markup → Attempt (Workspace ι) (CallTree ι)}

/-- A node succeeds outside of strict mode if all nodes below it do. -/
theorem succeeds_compile_step (hstrict : options.strict = false) {node : Markup}
    (hregular : node.isRegular = true)
    (hbelow : ∀ inner ∈ below lookup node, Succeeds (descend inner)) :
    Succeeds (compileStep options lookup descend node) := by
  have hlist {nodes : List Markup} (h : ∀ inner ∈ nodes, Succeeds (descend inner)) :
      Succeeds (do return .list (← nodes.mapM descend) : Attempt (Workspace ι) (CallTree ι)) :=
    succeeds_bind (succeeds_mapM h) fun _ => succeeds_pure _
  cases node with
  | block position nodes => exact hlist hbelow
  | namedBlock position name nodes =>
      rw [compileStep]
      cases hname : lookup name with
      | none =>
          rw [below, hname] at hbelow
          exact hlist hbelow
      | some override =>
          rw [below, hname] at hbelow
          exact succeeds_bind (fun w => ⟨(), _, yields_note.mpr rfl⟩) fun _ => hlist hbelow
  | text position value =>
      rw [compileStep, hstrict]
      exact succeeds_bind (succeeds_splice hregular) fun _ => succeeds_pure _
  | tag position name attributes blockPosition children =>
      exact succeeds_bind (succeeds_properties hstrict (List.all_eq_true.mp hregular)) fun _ =>
        succeeds_bind (succeeds_mapM hbelow) fun _ => succeeds_pure _
  | included position path tree => exact hbelow tree List.mem_cons_self
  | extended position path tree =>
      exact succeeds_bind (hbelow tree List.mem_cons_self) fun _ => succeeds_pure _
  | foreign position kind => cases hregular

/-- A node fails outside of strict mode if a node below it does and the others succeed or fail in
the same way. -/
theorem breaks_compile_step (hstrict : options.strict = false) {node : Markup}
    (hregular : node.isRegular = true) {fault : Fault}
    (hall : ∀ inner ∈ below lookup node, Succeeds (descend inner) ∨ Breaks fault (descend inner))
    (hone : ∃ inner ∈ below lookup node, Breaks fault (descend inner)) :
    Breaks fault (compileStep options lookup descend node) := by
  have hlist {nodes : List Markup}
      (hall : ∀ inner ∈ nodes, Succeeds (descend inner) ∨ Breaks fault (descend inner))
      (hone : ∃ inner ∈ nodes, Breaks fault (descend inner)) :
      Breaks fault (do return .list (← nodes.mapM descend) :
        Attempt (Workspace ι) (CallTree ι)) :=
    breaks_bind (breaks_mapM hall hone)
  have htree {tree : Markup} (hone : ∃ inner ∈ [tree], Breaks fault (descend inner)) :
      Breaks fault (descend tree) := by
    obtain ⟨inner, hinner, hbreaks⟩ := hone
    exact List.mem_singleton.mp hinner ▸ hbreaks
  cases node with
  | block position nodes => exact hlist hall hone
  | namedBlock position name nodes =>
      rw [compileStep]
      cases hname : lookup name with
      | none =>
          rw [below, hname] at hall hone
          exact hlist hall hone
      | some override =>
          rw [below, hname] at hall hone
          exact breaks_bind_of_succeeds (fun w => ⟨(), _, yields_note.mpr rfl⟩) fun _ =>
            hlist hall hone
  | text position value =>
      obtain ⟨inner, hinner, -⟩ := hone
      cases hinner
  | tag position name attributes blockPosition children =>
      exact breaks_bind_of_succeeds (succeeds_properties hstrict (List.all_eq_true.mp hregular))
        fun _ => breaks_bind (breaks_mapM hall hone)
  | included position path tree => exact htree hone
  | extended position path tree => exact breaks_bind (htree hone)
  | foreign position kind => cases hregular

/-- Outside of strict mode a node below another one succeeds if its height fits into the room that
it has, and fails at the limit otherwise. -/
theorem descend_within_outcome (hstrict : options.strict = false)
    (hlookup : AllOverrides Markup.isRegular lookup) (room : Nat) {node : Markup}
    (hnode : node.all Markup.isRegular = true) :
    ((∃ height, Height lookup node height ∧ height < room) →
      Succeeds (descendWithin options lookup room node : Attempt (Workspace ι) _)) ∧
    ((¬ ∃ height, Height lookup node height ∧ height < room) →
      Breaks (.template (.tooDeep options.maxDepth none))
        (descendWithin options lookup room node : Attempt (Workspace ι) _)) := by
  induction room generalizing node with
  | zero =>
      constructor
      · rintro ⟨height, -, hlt⟩
        cases hlt
      · intro _ w
        exact ⟨w, rfl⟩
  | succ room ih =>
      have hregular := (Markup.all_iff.mp hnode).1
      have hinner := fun inner (h : inner ∈ below lookup node) =>
        ih (all_of_mem_below hlookup hnode h)
      rw [exists_height_iff, descendWithin, compile_within_eq]
      -- The height of the node fits exactly if those of all nodes below it do, one level down.
      constructor
      · intro hfits
        refine succeeds_compile_step hstrict hregular ?_
        intro inner h
        exact (hinner inner h).1 (hfits inner h)
      · intro hdeep
        refine breaks_compile_step hstrict hregular ?_ ?_
        · intro inner h
          by_cases hfits : ∃ height, Height lookup inner height ∧ height < room
          · exact .inl ((hinner inner h).1 hfits)
          · exact .inr ((hinner inner h).2 hfits)
        · simp only [not_forall] at hdeep
          obtain ⟨inner, h, hfits⟩ := hdeep
          exact ⟨inner, h, (hinner inner h).2 hfits⟩

/-! ## More room -/

/-- Compilers that differ in their limit only go along with each other, since the limit is looked at
only where there is no room. -/
theorem related_max_depth (options : Options) (maxDepth : Int) :
    options.Related (refinement (Workspace ι)) { options with maxDepth } where
  factory := rfl
  propertyNames := rfl
  take _ := refines_refl _
  note _ := refines_refl _

/-- With more room, and under another limit, a node that succeeds does so in the same way. -/
theorem refines_descend_within (options : Options) (lookup : Lookup) (maxDepth : Int)
    {room other : Nat} (h : room ≤ other) (node : Markup) :
    Refines (descendWithin options lookup room node : Attempt (Workspace ι) _)
      (descendWithin { options with maxDepth } lookup other node) := by
  induction room generalizing other node with
  | zero => exact refines_throw _ _
  | succ room ih =>
      obtain ⟨more, rfl⟩ := Nat.exists_eq_add_of_le' h
      rw [descendWithin, compile_within_eq]
      show Refines _ (compileWithin { options with maxDepth } lookup (more + room) node)
      rw [compile_within_eq]
      exact rel_compile_step (related_max_depth options maxDepth) (ih (Nat.le_add_left _ _)) node

/-- Outside of strict mode a tree of markup, with overrides of markup and with no placeholder that
is too long, compiles exactly if it has a height and the height is at most the limit, where a limit
below zero counts as zero. Otherwise the limit is reported. A larger limit does not change the
result of a tree that compiles, the interpolations that it takes or the events that it reports. -/
theorem compile_within_limit (options : Options) (hstrict : options.strict = false)
    (lookup : Lookup) (hlookup : AllOverrides Markup.isRegular lookup)
    (tree : Markup) (htree : tree.all Markup.isRegular = true) (w : Workspace ι) :
    ((∃ result v, (compile options lookup tree).run.run w = (.ok result, v)) ↔
      ∃ height, Height lookup tree height ∧ (height : Int) ≤ max options.maxDepth 0) ∧
    ((¬ ∃ height, Height lookup tree height ∧ (height : Int) ≤ max options.maxDepth 0) →
      ∃ v, (compile options lookup tree).run.run w =
        (.error (.template (.tooDeep options.maxDepth none)), v)) ∧
    ∀ result v, (compile options lookup tree).run.run w = (.ok result, v) →
      ∀ maxDepth, options.maxDepth ≤ maxDepth →
        (compile { options with maxDepth } lookup tree).run.run w = (.ok result, v) := by
  have hroom (height : Nat) : (height : Int) ≤ max options.maxDepth 0 ↔
      height < options.maxDepth.toNat + 1 := by omega
  simp only [hroom]
  obtain ⟨hsucceeds, hbreaks⟩ := @descend_within_outcome ι options lookup hstrict hlookup
    (options.maxDepth.toNat + 1) tree htree
  refine ⟨⟨?_, fun hfits => hsucceeds hfits w⟩, fun hdeep => hbreaks hdeep w, ?_⟩
  · rintro ⟨result, v, hyields⟩
    by_contra hdeep
    obtain ⟨u, hfails⟩ := hbreaks hdeep w
    exact not_fails_of_yields hyields hfails
  · intro result v hyields maxDepth hle
    exact refines_descend_within options lookup maxDepth
      (Nat.add_le_add_right (Int.toNat_le_toNat hle) 1) tree w result v hyields

/-- A block whose override has two levels compiles under a limit of two and not under one. -/
theorem compile_within_limit_overridden :
    let options : Options := ⟨"h", [], false, 1⟩
    let lookup := overriding "a"
      [.tag ⟨0, 0⟩ "p" [⟨"class", .text "/~0~/"⟩] none [.text ⟨0, 0⟩ "a /~7~/"]]
    let tree : Markup := .namedBlock ⟨0, 0⟩ "a" []
    let w : Workspace Nat := ⟨.ofList [.interpolation 5], []⟩
    Height lookup tree 2 ∧
      (∃ v, (compile options lookup tree).run.run w = (.error (.template (.tooDeep 1 none)), v)) ∧
      ∃ result v,
        (compile { options with maxDepth := 2 } lookup tree).run.run w = (.ok result, v) := by
  intro options lookup tree w
  have hlookup : AllOverrides Markup.isRegular lookup :=
    all_overrides_overriding (by decide +kernel)
  have hheight : Height lookup tree 2 := .cons (.cons .nil .nil) .nil
  refine ⟨hheight, ?_, ?_⟩
  · refine (compile_within_limit options rfl lookup hlookup tree rfl w).2.1 ?_
    rintro ⟨height, hother, hle⟩
    rw [height_of_unique hother hheight] at hle
    exact absurd hle (by decide)
  · exact (compile_within_limit { options with maxDepth := 2 } rfl lookup hlookup tree rfl w).1.mpr
      ⟨2, hheight, by decide⟩

/-- A tag without children has the height zero, and it compiles also under a limit below zero, where
no height is within the limit. -/
theorem compile_below_zero :
    let options : Options := ⟨"React.createElement", [], false, -1⟩
    let tree : Markup := .tag ⟨0, 0⟩ "b" [] none []
    let w : Workspace Nat := ⟨.ofList [], []⟩
    Height (fun _ => none) tree 0 ∧
      (∃ result v, (compile options (fun _ => none) tree).run.run w = (.ok result, v)) ∧
      ¬ ∃ height, Height (fun _ => none) tree height ∧ (height : Int) ≤ options.maxDepth := by
  intro options tree w
  refine ⟨.nil, ⟨_, _, rfl⟩, ?_⟩
  rintro ⟨height, -, hle⟩
  have hnegative : options.maxDepth = -1 := rfl
  omega

end Compiler

end ElementMarkup
