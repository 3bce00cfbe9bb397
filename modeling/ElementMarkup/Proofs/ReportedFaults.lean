import ElementMarkup.CommandLine.Run
import ElementMarkup.Proofs.Building
import ElementMarkup.Proofs.DepthLimit
import ElementMarkup.Proofs.Environment

/-!
# Faults of templates are reported

The command line reports some faults and lets others through. Whatever is wrong with a template,
with the templates that it loads, or with its placeholders, the fault is one of those that are
reported. Main statement: `ends_compile`. The only fault of another kind that composing can have is
about a node that is no markup, and the parser makes none (`ends_parse_within`).
-/

namespace ElementMarkup

open Attempt

/-- The command line reports the fault. -/
def Fault.IsReported (fault : Fault) : Prop :=
  (CommandLine.exitCode? fault).isSome = true

/-! ## Sources and loaders -/

/-- What is wrong with a source is reported. -/
theorem Token.is_reported_of_of_source {source : String} {name : Option String} {fault : Fault}
    (h : ofSource source name = .error fault) : fault.IsReported := by
  unfold ofSource at h
  cases hscan : scan source with
  | ok tokens =>
      rw [hscan] at h
      cases h
  | error flaw =>
      rw [hscan] at h
      obtain ⟨line, flaw⟩ := flaw
      cases flaw with
      | malformed problem column =>
          cases h
          rfl
      | integerTooLong digits =>
          cases h
          rfl

namespace Loader

variable {files : FileTree} {name : String} {fault : Fault}

mutual

/-- What goes wrong in a loader is reported. -/
theorem is_reported_of_fetch {loader : Loader} (h : fetch files name loader = .error fault) :
    fault.IsReported := by
  match loader with
  | table templates =>
      rw [fetch] at h
      split at h
      · cases h
      · cases h
        rfl
  | directories paths extensions encoding =>
      rw [fetch, fetchFile] at h
      split at h
      · cases h
        rfl
      · split at h
        · split at h
          · cases h
          · cases h
            rfl
        · cases h
          rfl
  | function description serve =>
      rw [fetch] at h
      split at h
      · cases h
      · cases h
        rfl
  | unlisted =>
      rw [fetch] at h
      cases h
      rfl
  | choice loaders =>
      rw [fetch] at h
      cases hfirst : fetchFirst files name loaders with
      | error other =>
          rw [hfirst] at h
          cases h
          exact is_reported_of_fetch_first hfirst
      | ok found =>
          rw [hfirst] at h
          cases found with
          | some source => cases h
          | none =>
              cases h
              rfl

/-- What goes wrong in one of several loaders is reported. -/
theorem is_reported_of_fetch_first {loaders : List Loader}
    (h : fetchFirst files name loaders = .error fault) : fault.IsReported := by
  match loaders with
  | [] =>
      rw [fetchFirst] at h
      cases h
  | loader :: loaders =>
      rw [fetchFirst] at h
      split at h
      · cases h
      · exact is_reported_of_fetch_first h
      · rename_i hfetch
        cases h
        exact is_reported_of_fetch hfetch

end

end Loader

/-! ## Trees of nodes -/

namespace Markup

/-- The node is markup. -/
def isMarkup : Markup → Bool
  | foreign _ _ => false
  | _ => true

end Markup

namespace Parser

/-- A parser makes nothing but markup. -/
theorem closed_is_markup :
    Closed (fun _ => True) (fun _ tree => tree.all Markup.isMarkup = true)
      (fun tree => tree.all Markup.isMarkup = true) where
  text _ _ := rfl
  namedBlock _ _ := rfl
  tag _ hinline := Markup.all_iff.mpr ⟨rfl, hinline⟩
  attach hnode hcontent h := by
    unfold attach at h
    split at h
    · cases h
      exact hnode
    · cases h
      refine Markup.all_iff.mpr ⟨rfl, List.forall_mem_append.mpr ⟨?_, hcontent⟩⟩
      exact (Markup.all_iff.mp hnode).2
    · cases h
      refine Markup.all_iff.mpr ⟨rfl, List.forall_mem_append.mpr ⟨?_, hcontent⟩⟩
      exact (Markup.all_iff.mp hnode).2
    · cases h
  included htree := Markup.all_iff.mpr ⟨rfl, List.forall_mem_singleton.mpr htree⟩
  extended htree := Markup.all_iff.mpr ⟨rfl, List.forall_mem_singleton.mpr htree⟩
  root hnodes := Markup.all_iff.mpr ⟨rfl, hnodes⟩

end Parser

namespace Environment

variable {env : Environment} {name : Option String}

/-- A source ends as the templates do that it loads. -/
theorem ends_parse_source {load : String → Logged Markup}
    (hload : ∀ path, Ends (load path) (fun tree => tree.all Markup.isMarkup = true)
      Fault.IsReported) (source : String) :
    Ends (parseSource name load source) (fun tree => tree.all Markup.isMarkup = true)
      Fault.IsReported := by
  have hscan : Ends (liftExcept (Token.ofSource source name) : Logged (List Token))
      (fun tokens => Token.scan source = .ok tokens) Fault.IsReported :=
    ends_lift_except (fun _ => Parser.scan_of_of_source) fun _ => Token.is_reported_of_of_source
  refine ends_bind hscan fun tokens htokens => ⟨?_, ?_⟩
  · exact (Parser.ends_parse_of_closed Parser.closed_is_markup
      (fun path _ => ⟨(hload path).value, fun _ _ _ _ => trivial⟩) fun _ _ _ _ => trivial).value
  · intro before fault after hfails
    rcases Parser.fault_of_parse htokens hfails with ⟨problem, position, rfl⟩ | hloads
    · rfl
    · obtain ⟨_, _, path, _, before, after, hfails⟩ := hloads
      exact (hload path).fault before fault after hfails

/-- Loading a template ends as parsing its source does. -/
theorem ends_load {stack : List String}
    {parseNext : Option (List String → Option String → String → Logged Markup)}
    (hnext : ∀ parse ∈ parseNext, ∀ stack name source,
      Ends (parse stack name source) (fun tree => tree.all Markup.isMarkup = true)
        Fault.IsReported) (path : String) :
    Ends (env.load stack name parseNext path) (fun tree => tree.all Markup.isMarkup = true)
      Fault.IsReported := by
  unfold load
  dsimp only
  split
  · rw [throw_bind]
    exact ends_throw rfl
  · cases parseNext with
    | none => exact ends_throw rfl
    | some parse =>
        refine ends_bind (ends_lift_except (fun _ _ => trivial) ?_) fun source _ => ?_
        · intro fault hfault
          unfold fetchFor at hfault
          split at hfault
          · cases hfault
            rfl
          · exact Loader.is_reported_of_fetch hfault
        · exact ends_bind (ends_report _) fun _ _ => hnext parse rfl _ _ _

/-- A source has a tree of markup, or what is wrong with it and its templates is reported. -/
theorem ends_parse_within (room : Nat) (stack : List String) (name : Option String)
    (source : String) :
    Ends (env.parseWithin room stack name source)
      (fun tree => tree.all Markup.isMarkup = true) Fault.IsReported := by
  induction room generalizing stack name source with
  | zero =>
      refine ends_parse_source (fun path => ends_load ?_ path) source
      intro parse hparse
      cases hparse
  | succ room ih =>
      refine ends_parse_source (fun path => ends_load ?_ path) source
      intro parse hparse
      cases hparse
      exact ih

end Environment

/-! ## Compositions -/

namespace Composition

variable {path : Option String} {siblings : List Markup} {fault : Fault}

/-- A node after an extends line that is no named block is reported. -/
theorem is_reported_of_collect_overrides {overrides : Entries (List Markup)}
    (hsiblings : ∀ sibling ∈ siblings, sibling.all Markup.isMarkup = true)
    (h : collectOverrides path overrides siblings = .error fault) : fault.IsReported := by
  fun_induction collectOverrides path overrides siblings with
  | case1 => cases h
  | case2 overrides position name nodes siblings ih =>
      exact ih (List.forall_mem_cons.mp hsiblings).2 h
  | case3 =>
      cases (List.forall_mem_cons.mp hsiblings).1
  | case4 =>
      cases h
      rfl

/-- What is wrong with a parent is reported. -/
theorem is_reported_of_of_parent {tree : Markup}
    (hsiblings : ∀ sibling ∈ siblings, sibling.all Markup.isMarkup = true)
    (htree : tree.all Markup.isMarkup = true) (h : ofParent path siblings tree = .error fault) :
    fault.IsReported := by
  fun_induction ofParent path siblings tree with
  | case1 path siblings position grandPath grandParent ih =>
      rcases bind_eq_error.mp h with h | ⟨overrides, -, h⟩
      · exact is_reported_of_collect_overrides hsiblings h
      · rcases bind_eq_error.mp h with h | ⟨inherited, -, h⟩
        · exact ih (List.forall_mem_nil _) ((Markup.all_iff.mp htree).2 _ List.mem_cons_self) h
        · cases h
  | case2 path siblings position inner grandPath grandParent more ih =>
      obtain ⟨hextended, hmore⟩ := List.forall_mem_cons.mp (Markup.all_iff.mp htree).2
      rcases bind_eq_error.mp h with h | ⟨overrides, -, h⟩
      · exact is_reported_of_collect_overrides hsiblings h
      · rcases bind_eq_error.mp h with h | ⟨inherited, -, h⟩
        · exact ih hmore ((Markup.all_iff.mp hextended).2 _ List.mem_cons_self) h
        · cases h
  | case3 path siblings position =>
      rcases bind_eq_error.mp h with h | ⟨overrides, -, h⟩
      · exact is_reported_of_collect_overrides hsiblings h
      · cases h
        rfl
  | case4 | case5 =>
      rcases bind_eq_error.mp h with h | ⟨overrides, -, h⟩
      · exact is_reported_of_collect_overrides hsiblings h
      · cases h

/-- What is wrong with the nodes at the top of a template is reported. -/
theorem ends_of_nodes {nodes : List Markup}
    (hnodes : ∀ node ∈ nodes, node.all Markup.isMarkup = true) :
    Ends (ofNodes nodes) (fun _ => True) Fault.IsReported := by
  unfold ofNodes
  split
  · exact ends_throw rfl
  · obtain ⟨hfirst, hsiblings⟩ := List.forall_mem_cons.mp hnodes
    refine ends_bind (ends_lift_except (fun _ _ => trivial) fun _ => is_reported_of_of_parent
      hsiblings ((Markup.all_iff.mp hfirst).2 _ List.mem_cons_self)) fun composition _ => ?_
    exact ends_bind (ends_report _) fun _ _ => ends_pure trivial
  · exact ends_pure trivial
  · exact ends_throw rfl

end Composition

/-! ## Compiling -/

namespace Compiler

variable {ι : Type}

/-- A placeholder without an interpolation is reported. -/
theorem ends_take_interpolation (strict : Bool) (index : Nat) :
    Ends (takeInterpolation strict index : Attempt (Workspace ι) _) (fun _ => True)
      Fault.IsReported := by
  refine ends_bind ends_get fun w _ => ?_
  split
  · exact ends_bind (ends_set _) fun _ _ => ends_pure trivial
  · split
    · rw [throw_bind]
      exact ends_throw rfl
    · exact ends_bind (ends_modify _) fun _ _ => ends_pure trivial

/-- A placeholder whose number is too long is reported. -/
theorem ends_splice_marks (strict : Bool) (marks : List (List Char × List Char)) :
    Ends (spliceMarks strict marks : Attempt (Workspace ι) _) (fun _ => True)
      Fault.IsReported := by
  induction marks with
  | nil => exact ends_pure trivial
  | cons mark marks ih =>
      refine ends_bind (ends_lift_except (fun _ _ => trivial) ?_) fun index _ =>
        ends_bind (ends_take_interpolation strict index) fun _ _ => ends_bind ih fun _ _ =>
          ends_pure trivial
      intro fault hfault
      unfold Placeholder.index at hfault
      split at hfault
      · cases hfault
        rfl
      · cases hfault

/-- What is wrong with the placeholders of a text is reported. -/
theorem ends_splice (strict : Bool) (value : String) :
    Ends (splice strict value : Attempt (Workspace ι) _) (fun _ => True) Fault.IsReported := by
  unfold splice
  dsimp only
  split
  · exact ends_pure trivial
  · exact ends_bind (ends_splice_marks strict _) fun _ _ => ends_pure trivial

/-- What is wrong with the placeholders of a property is reported. -/
theorem ends_property (strict : Bool) (entry : String × Scalar) :
    Ends (property strict entry : Attempt (Workspace ι) _) (fun _ => True)
      Fault.IsReported := by
  have hvalue : Ends (attributeValue strict entry.2 : Attempt (Workspace ι) _) (fun _ => True)
      Fault.IsReported := by
    unfold attributeValue
    split
    · refine ends_bind (ends_splice strict _) fun parts _ => ?_
      split <;> exact ends_pure trivial
    · exact ends_pure trivial
  exact ends_bind hvalue fun _ _ => ends_pure trivial

/-- What is wrong with the placeholders of a tag is reported. -/
theorem ends_properties (options : Options) (attributes : List Attribute) :
    Ends (properties options attributes : Attempt (Workspace ι) _) (fun _ => True)
      Fault.IsReported := by
  unfold properties
  dsimp only
  split
  · exact ends_pure trivial
  · exact ends_bind (ends_mapM fun entry _ => ends_property options.strict entry) fun _ _ =>
      ends_pure trivial

variable {options : Options} {lookup : Lookup}

/-- A node ends as the nodes inside it do. -/
theorem ends_compile_step {descend : Markup → Attempt (Workspace ι) (CallTree ι)}
    (hdescend : ∀ node, Ends (descend node) (fun _ => True) Fault.IsReported) (node : Markup) :
    Ends (compileStep options lookup descend node) (fun _ => True) Fault.IsReported := by
  have hmany (nodes : List Markup) : Ends (nodes.mapM descend) (fun _ => True) Fault.IsReported :=
    (ends_mapM fun node _ => hdescend node).weaken fun _ _ => trivial
  unfold compileStep
  split
  · exact ends_bind (hmany _) fun _ _ => ends_pure trivial
  · split
    · exact ends_bind (ends_modify _) fun _ _ => ends_bind (hmany _) fun _ _ => ends_pure trivial
    · exact ends_bind (hmany _) fun _ _ => ends_pure trivial
  · exact ends_bind (ends_splice _ _) fun _ _ => ends_pure trivial
  · exact ends_bind (ends_properties options _) fun _ _ => ends_bind (hmany _) fun _ _ =>
      ends_pure trivial
  · exact hdescend _
  · exact ends_bind (hdescend _) fun _ _ => ends_pure trivial
  · exact ends_throw rfl

/-- What goes wrong in a node is reported. -/
theorem ends_compile_within (room : Nat) (node : Markup) :
    Ends (compileWithin options lookup room node : Attempt (Workspace ι) _) (fun _ => True)
      Fault.IsReported := by
  induction room generalizing node with
  | zero =>
      refine ends_compile_step (fun _ => ?_) node
      exact ends_throw rfl
  | succ room ih => exact ends_compile_step ih node

end Compiler

namespace Environment

variable {ι : Type} (env : Environment)

/-- What goes wrong in a composition is reported. -/
theorem ends_compile_composition (composition : Composition) (interpolations : List (CallTree ι)) :
    Ends (env.compileComposition composition interpolations) (fun _ => True)
      Fault.IsReported := by
  refine ⟨fun _ _ _ _ => trivial, fun events fault after hfails => ?_⟩
  unfold Fails at hfails
  rw [run_compile_composition] at hfails
  have hresult := congrArg Prod.fst hfails
  cases houtcome : (Compiler.compile env.options composition.lookup composition.root).run.run
      ⟨.ofList interpolations, events⟩ with
  | mk result w =>
      rw [houtcome] at hresult
      cases result with
      | ok tree => cases hresult
      | error other =>
          cases hresult
          exact (Compiler.ends_compile_within _ _).fault _ _ _ houtcome

/-- Whatever is wrong with a template, it is reported. -/
theorem ends_compile (fragments : List String) (interpolations : List (CallTree ι))
    (name : Option String) :
    Ends (env.compile fragments interpolations name) (fun _ => True) Fault.IsReported := by
  have hencode : Ends (Fragments.encode fragments interpolations.length) (fun _ => True)
      Fault.IsReported := by
    unfold Fragments.encode
    dsimp only
    by_cases hempty : fragments.isEmpty = true
    · rw [if_pos hempty, throw_bind]
      exact ends_throw rfl
    · rw [if_neg hempty]
      split
      · exact ends_bind (ends_report _) fun _ _ => ends_pure trivial
      · exact ends_pure trivial
  refine ends_bind hencode fun source _ => ends_bind (ends_report _) fun _ _ =>
    ends_bind (ends_parse_within _ _ _ _) fun tree htree => ?_
  have htop : ∀ node ∈ tree.topLevel, node.all Markup.isMarkup = true := by
    unfold Markup.topLevel
    split
    · exact (Markup.all_iff.mp htree).2
    · exact List.forall_mem_singleton.mpr htree
  refine ends_bind (Composition.ends_of_nodes htop) fun composition _ =>
    ends_bind (ends_compile_composition env composition interpolations) fun result _ => ?_
  dsimp only
  split
  · exact ends_bind (ends_report _) fun _ _ => ends_bind (ends_report _) fun _ _ =>
      ends_pure trivial
  · exact ends_bind (ends_report _) fun _ _ => ends_pure trivial

end Environment

end ElementMarkup
