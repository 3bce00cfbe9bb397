import ElementMarkup.Proofs.Building
import ElementMarkup.Proofs.Congruence

/-!
# Templates on their own

While a template is loaded the stack of those that are being loaded is looked at in two ways: for
the name that comes next, and for its length. Fewer names therefore never get in the way
(`refines_parse_within`), and a template that is part of a tree is the one that parsing it on its
own gives. Main statement: `parse_standalone`, which says so for the templates at every level of a
tree. `Inside` goes down a tree along with the name of the template that each node stands in.
-/

namespace ElementMarkup

open Attempt

/-! ## Trees with templates in them -/

namespace Markup

/-- The path and the tree of the template that a node stands for, if it stands for one. -/
def loaded? : Markup → Option (Option String × Markup)
  | included _ path tree => some (path, tree)
  | extended _ path tree => some (path, tree)
  | _ => none

/-- A tree whose templates are, down to the first ones, such that `loads` relates their paths to
them. -/
inductive BuiltWith (loads : String → Markup → Prop) : Markup → Prop where
  | plain {node : Markup} :
      node.loaded? = none → (∀ inner ∈ node.inside, BuiltWith loads inner) → BuiltWith loads node
  | loaded {node tree : Markup} {path : String} :
      node.loaded? = some (some path, tree) → loads path tree → BuiltWith loads node

variable {loads : String → Markup → Prop}

/-- The nodes inside a node that stands for no template are built as it is. -/
theorem BuiltWith.inside {node inner : Markup} (h : BuiltWith loads node)
    (hplain : node.loaded? = none) (hinner : inner ∈ node.inside) : BuiltWith loads inner := by
  cases h with
  | plain _ hinside => exact hinside inner hinner
  | loaded hloaded _ =>
      rw [hplain] at hloaded
      cases hloaded

/-- A node that stands for a template has a path that leads to it. -/
theorem BuiltWith.template {node tree : Markup} {path : Option String} (h : BuiltWith loads node)
    (hloaded : node.loaded? = some (path, tree)) : ∃ p, path = some p ∧ loads p tree := by
  cases h with
  | plain hplain _ =>
      rw [hplain] at hloaded
      cases hloaded
  | loaded hother hloads =>
      rw [hother] at hloaded
      cases hloaded
      exact ⟨_, rfl, hloads⟩

end Markup

namespace Parser

open Markup (BuiltWith)

variable {context : Context} {loads : String → Markup → Prop}

/-- A parser builds nodes that are built with the templates that are loaded. -/
theorem closed_built_with : Closed (fun _ => True) loads (BuiltWith loads) where
  text _ _ := .plain rfl (List.forall_mem_nil _)
  namedBlock _ _ := .plain rfl (List.forall_mem_nil _)
  tag _ hinline := .plain rfl hinline
  attach hnode hcontent h := by
    unfold attach at h
    split at h
    · cases h
      exact hnode
    · cases h
      refine .plain rfl ?_
      intro inner hinner
      exact (List.mem_append.mp hinner).elim (hnode.inside rfl) (hcontent inner)
    · cases h
      refine .plain rfl ?_
      intro inner hinner
      exact (List.mem_append.mp hinner).elim (hnode.inside rfl) (hcontent inner)
    · cases h
  included htree := .loaded rfl htree
  extended htree := .loaded rfl htree
  root hnodes := .plain rfl hnodes

/-- The tree of a token list is built with the templates that are loaded. -/
theorem ends_parse_built (hload : ∀ path line, Ends (context.load path line) (loads path)
    fun _ => True) (tokens : List Token) :
    Ends (parse context tokens) (BuiltWith loads) fun _ => True :=
  ends_parse_of_closed closed_built_with hload fun _ _ _ _ => trivial

end Parser

namespace Environment

variable {env : Environment}

/-! ## Fewer names on the stack -/

/-- The tree of a source while the templates of `loading` are being loaded. -/
def parseAmong (env : Environment) (loading : List String) (name : Option String)
    (source : String) : Logged Markup :=
  env.parseWithin (env.maxDepth - (loading ++ name.toList).length) (loading ++ name.toList) name
    source

/-- With fewer names on the stack a template is loaded if it is with more of them. -/
theorem refines_load {stack fewer : List String} (hfewer : fewer ⊆ stack) {name : Option String}
    {next other : Option (List String → Option String → String → Logged Markup)}
    (hnext : ∀ parse ∈ next, ∃ parse' ∈ other, ∀ target source,
      Refines (parse (stack ++ [target]) (some target) source)
        (parse' (fewer ++ [target]) (some target) source)) (path : String) :
    Refines (env.load stack name next path) (env.load fewer name other path) := by
  unfold load
  dsimp only
  by_cases hmem : TemplateName.resolve path name ∈ stack
  · rw [if_pos (List.contains_iff_mem.mpr hmem), throw_bind]
    exact refines_throw _ _
  · have hnew : TemplateName.resolve path name ∉ fewer := fun h => hmem (hfewer h)
    rw [if_neg (mt List.contains_iff_mem.mp hmem), if_neg (mt List.contains_iff_mem.mp hnew)]
    cases next with
    | none => exact refines_throw _ _
    | some parse =>
        obtain ⟨parse', hparse', hrefines⟩ := hnext parse rfl
        obtain rfl : other = some parse' := hparse'
        exact refines_bind (refines_refl _) fun source =>
          refines_bind (refines_refl _) fun _ => hrefines _ source.text

/-- A source is parsed if it is with templates that are harder to load. -/
theorem refines_parse_source (name : Option String) {load other : String → Logged Markup}
    (hload : ∀ path, Refines (load path) (other path)) (source : String) :
    Refines (parseSource name load source) (parseSource name other source) :=
  rel_parse_source (c := refinement _) rfl
    ⟨fun _ _ => refines_refl _, fun path _ => hload path⟩

/-- With fewer names on the stack and no less room a source is parsed if it is with more names, with
the same tree and the same events. -/
theorem refines_parse_within {room more : Nat} (hroom : room ≤ more) {stack fewer : List String}
    (hfewer : fewer ⊆ stack) (name : Option String) (source : String) :
    Refines (env.parseWithin room stack name source)
      (env.parseWithin more fewer name source) := by
  induction room generalizing more stack fewer name source with
  | zero =>
      rw [parse_within_eq, parse_within_eq]
      refine refines_parse_source name (refines_load hfewer ?_) source
      intro _ hnext
      cases hnext
  | succ room ih =>
      obtain ⟨less, rfl⟩ : ∃ less, more = less + 1 := ⟨more - 1, by omega⟩
      rw [parse_within_eq, parse_within_eq]
      refine refines_parse_source name (refines_load hfewer ?_) source
      rintro _ ⟨⟩
      refine ⟨env.parseWithin less, rfl, fun target source => ?_⟩
      -- Both stacks get the same new name.
      have hconcat : fewer ++ [target] ⊆ stack ++ [target] := by
        intro other hother
        simp only [List.mem_append] at hother ⊢
        exact hother.imp_left fun h => hfewer h
      exact ih (Nat.le_of_succ_le_succ hroom) hconcat _ _

/-- While fewer templates are being loaded a source is parsed if it is while more of them are. -/
theorem refines_parse_among {loading fewer : List String} (hfewer : fewer ⊆ loading)
    (hlength : fewer.length ≤ loading.length) (name : Option String) (source : String) :
    Refines (env.parseAmong loading name source) (env.parseAmong fewer name source) := by
  refine refines_parse_within ?_ ?_ name source
  · simp only [List.length_append]
    omega
  · intro other hother
    simp only [List.mem_append] at hother ⊢
    exact hother.imp_left fun h => hfewer h

/-! ## The templates of a tree -/

/-- The loader has a source for what a path stands for in the template `name`, and parsing it on its
own gives the tree. -/
def Standalone (env : Environment) (name : Option String) (path : String) (tree : Markup) : Prop :=
  ∃ loader next, env.loader = some loader ∧
    loader.fetch env.files (TemplateName.resolve path name) = .ok next ∧
    ∀ events, ∃ after,
      (env.parse next.text (some (TemplateName.resolve path name))).run.run events =
        (.ok tree, after)

/-- A template that is loaded while others are is what parsing it on its own gives. -/
theorem standalone_of_yields_load {room : Nat} {stack : List String} {name : Option String}
    (hroom : room ≤ env.maxDepth) {path : String} {tree : Markup} {before after : List Event}
    (h : Yields (env.load stack name (env.nextWithin room) path) before tree after) :
    env.Standalone name path tree := by
  obtain ⟨-, parse, next, between, hnext, hfetch, hparse⟩ := exists_of_yields_load h
  cases room with
  | zero => cases hnext
  | succ room =>
      cases hnext
      have halone : Yields (env.parse next.text (some (TemplateName.resolve path name))) between
          tree after :=
        refines_parse_within (Nat.le_sub_of_add_le hroom) (List.subset_append_right _ _) _ _ _ _ _
          hparse
      unfold fetchFor at hfetch
      split at hfetch
      · cases hfetch
      · rename_i loader hloader
        refine ⟨loader, next, hloader, hfetch, fun events => ?_⟩
        obtain ⟨-, final, hfinal, -⟩ :=
          env.keeps_parse_within _ _ _ _ between events tree after trivial halone
        exact ⟨final, hfinal⟩

/-- A tree that is parsed is built with templates that parsing them on their own gives. -/
theorem built_with_of_yields_parse {name : Option String} {source : String} {tree : Markup}
    {before after : List Event} (h : Yields (env.parse source name) before tree after) :
    tree.BuiltWith (env.Standalone name) := by
  rw [parse, parse_within_eq] at h
  obtain ⟨tokens, _, -, hparse⟩ := yields_bind.mp h
  refine (Parser.ends_parse_built ?_ tokens).value _ tree after hparse
  intro path line
  exact ⟨fun _ _ _ hload => standalone_of_yields_load (Nat.sub_le _ _) hload,
    fun _ _ _ _ => trivial⟩

/-- The nodes inside a tree of the template `name`, each with the name of the template that it
stands in. What stands inside a template that is included or extended stands in that one. -/
inductive Inside (name : Option String) (tree : Markup) : Option String → Markup → Prop where
  | root : Inside name tree name tree
  | child {other : Option String} {node inner : Markup} :
      Inside name tree other node → node.loaded? = none → inner ∈ node.inside →
      Inside name tree other inner
  | template {other : Option String} {node inner : Markup} {path : String} :
      Inside name tree other node → node.loaded? = some (some path, inner) →
      Inside name tree (some (TemplateName.resolve path other)) inner

/-- All nodes inside a tree that is parsed are built with templates that parsing them on their own
gives. -/
theorem Inside.built_with {name other : Option String} {source : String} {tree node : Markup}
    {before after : List Event} (h : Yields (env.parse source name) before tree after)
    (hinside : Inside name tree other node) : node.BuiltWith (env.Standalone other) := by
  induction hinside with
  | root => exact built_with_of_yields_parse h
  | child _ hplain hinner ih => exact ih.inside hplain hinner
  | template _ hloaded ih =>
      -- The template is the tree of a source of its own, so that the same holds one level down.
      obtain ⟨_, hpath, loader, next, -, -, halone⟩ := ih.template hloaded
      cases hpath
      obtain ⟨final, hfinal⟩ := halone []
      exact built_with_of_yields_parse hfinal

/-- Templates do not depend on what else is being loaded.

A source that is parsed while the templates of `loading` are being loaded is parsed in the same way
while only some of them are, and no more than before. Every node that stands for a template, at
whatever level of a tree that is parsed, holds exactly the tree that parsing the loader's source of
the template on its own gives. -/
theorem parse_standalone (env : Environment) (source : String) (name : Option String) :
    (∀ loading fewer events tree after,
      (env.parseAmong loading name source).run.run events = (.ok tree, after) →
      fewer ⊆ loading → fewer.length ≤ loading.length →
      (env.parseAmong fewer name source).run.run events = (.ok tree, after)) ∧
    ∀ events tree after, (env.parse source name).run.run events = (.ok tree, after) →
      ∀ other node path inner, Inside name tree other node → node.loaded? = some (path, inner) →
        ∃ p, path = some p ∧ ∃ loader next, env.loader = some loader ∧
          loader.fetch env.files (TemplateName.resolve p other) = .ok next ∧
          ∀ events, ∃ after, (env.parse next.text (some (TemplateName.resolve p other))).run.run
            events = (.ok inner, after) := by
  constructor
  · intro loading fewer events tree after h hfewer hlength
    exact refines_parse_among hfewer hlength name source events tree after h
  · intro events tree after h other node path inner hinside hloaded
    exact (hinside.built_with h).template hloaded

/-- A template two levels down, which is found from the directory of the one in between, is what
parsing it on its own gives. -/
theorem parse_standalone_nested :
    let env : Environment := { default with
      loader := some (.table [("a/x.pug", "p\n  include ../b"), ("b.pug", "| text")]) }
    let source := "div\n  include a/x"
    (∃ tree after,
      (env.parseAmong ["c.pug", "d.pug"] none source).run.run [] = (.ok tree, after) ∧
      (env.parseAmong ["d.pug"] none source).run.run [] = (.ok tree, after)) ∧
    ∃ tree after position inner, (env.parse source none).run.run [] = (.ok tree, after) ∧
      Inside none tree (some "a/x.pug") (.included position (some "../b") inner) ∧
      ∀ events, ∃ after, (env.parse "| text" (some "b.pug")).run.run events =
        (.ok inner, after) := by
  intro env source
  obtain ⟨hfewer, htemplates⟩ := parse_standalone env source none
  have houter : TemplateName.resolve "a/x" none = "a/x.pug" := by decide +kernel
  have hinner : TemplateName.resolve "../b" (some "a/x.pug") = "b.pug" := by decide +kernel
  let innermost : Markup := .included ⟨2, 2⟩ (some "../b") (.block ⟨1, 0⟩ [.text ⟨1, 0⟩ "text"])
  let tree : Markup := .block ⟨1, 0⟩ [.tag ⟨1, 0⟩ "div" [] (some ⟨1, 0⟩)
    [.included ⟨2, 2⟩ (some "a/x") (.block ⟨1, 0⟩ [.tag ⟨1, 0⟩ "p" [] (some ⟨1, 0⟩) [innermost]])]]
  have hamong : ((env.parseAmong ["c.pug", "d.pug"] none source).run.run []).1 = .ok tree := by
    decide +kernel
  have hrun : ((env.parse source none).run.run []).1 = .ok tree := by decide +kernel
  constructor
  · exact ⟨tree, _, eq_mk_of_fst_eq hamong,
      hfewer _ _ _ _ _ (eq_mk_of_fst_eq hamong) (by simp) (by simp)⟩
  · have hdiv := (Inside.root : Inside none tree none tree).child rfl List.mem_cons_self
    have hfirst := (hdiv.child rfl List.mem_cons_self).template rfl
    have hsecond := (hfirst.child rfl List.mem_cons_self).child rfl List.mem_cons_self
    rw [houter] at hsecond
    refine ⟨tree, _, _, _, eq_mk_of_fst_eq hrun, hsecond, ?_⟩
    obtain ⟨_, hpath, loader, found, hloader, hfetch, halone⟩ :=
      htemplates _ _ _ (eq_mk_of_fst_eq hrun) _ _ _ _ hsecond rfl
    cases hpath
    cases hloader
    rw [hinner] at hfetch halone
    cases hfetch
    exact halone

end Environment

end ElementMarkup
