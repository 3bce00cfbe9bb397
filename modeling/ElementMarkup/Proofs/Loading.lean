import ElementMarkup.Proofs.Frame
import ElementMarkup.Proofs.Include
import ElementMarkup.Proofs.Parser

/-!
# Loading templates inside each other

A source is parsed together with the templates that it asks for, and these with the templates that
they ask for. The templates that are being loaded form a stack. `parseStep` is one level of this
recursion in terms of the stack alone, and `Chain` is a way from template to template along the
paths in their sources. Main statement: `parse_loading`. The recursion comes to an end, its stack
never holds a name twice or more names than the limit allows, a cycle is reported only where a chain
comes back to a name, and where parsing succeeds no chain does.
-/

namespace ElementMarkup

open Attempt

/-! ## Loaders -/

namespace Loader

mutual

/-- A loader reports no cycles. -/
theorem fetch_ne_circular (files : FileTree) (name : String) (chain : List String)
    (loader : Loader) : fetch files name loader ≠ .error (.template (.circular chain)) := by
  match loader with
  | table templates =>
      rw [fetch]
      split <;> simp
  | directories paths extensions encoding =>
      rw [fetch, fetchFile]
      split
      · simp
      · split
        · split <;> simp
        · simp
  | function description serve =>
      rw [fetch]
      split <;> simp
  | unlisted => simp [fetch]
  | choice loaders =>
      rw [fetch]
      intro h
      cases hfirst : fetchFirst files name loaders with
      | error fault =>
          rw [hfirst] at h
          cases h
          exact fetch_first_ne_circular files name chain loaders hfirst
      | ok found =>
          rw [hfirst] at h
          cases found <;> cases h

/-- Several loaders report no cycles. -/
theorem fetch_first_ne_circular (files : FileTree) (name : String) (chain : List String)
    (loaders : List Loader) :
    fetchFirst files name loaders ≠ .error (.template (.circular chain)) := by
  match loaders with
  | [] => simp [fetchFirst]
  | loader :: loaders =>
      rw [fetchFirst]
      split
      · simp
      · exact fetch_first_ne_circular files name chain loaders
      · rename_i hfetch
        intro h
        cases h
        exact fetch_ne_circular files name chain loader hfetch

end

end Loader

namespace Environment

variable {env : Environment}

/-- Fetching a template reports no cycles. -/
theorem fetch_for_ne_circular (env : Environment) (parent : Option String) (target : String)
    (chain : List String) :
    env.fetchFor parent target ≠ .error (.template (.circular chain)) := by
  unfold fetchFor
  split
  · simp
  · exact Loader.fetch_ne_circular _ _ _ _

/-! ## The stack -/

/-- One level of loading: a source is parsed while the templates of `stack` are being loaded, and
the templates that it asks for are parsed by `recur`, unless the stack has reached the limit. -/
def parseStep (env : Environment) (recur : List String → Option String → String → Logged Markup)
    (stack : List String) (name : Option String) (source : String) : Logged Markup :=
  parseSource name (env.load stack name (if stack.length < env.maxDepth then some recur else none))
    source

/-- A stack without repetitions and within the limit. -/
structure IsStack (env : Environment) (stack : List String) : Prop where
  nodup : stack.Nodup
  length_le : stack.length ≤ env.maxDepth

/-- A new name repeats none. -/
theorem nodup_concat {stack : List String} (h : stack.Nodup) {target : String}
    (hnew : target ∉ stack) : (stack ++ [target]).Nodup := by
  rw [← List.concat_eq_append]
  exact h.concat hnew

/-- One more name on the stack, if it is new and there is room for it. -/
theorem IsStack.concat {stack : List String} (h : env.IsStack stack) {target : String}
    (hnew : target ∉ stack) (hroom : stack.length < env.maxDepth) :
    env.IsStack (stack ++ [target]) where
  nodup := nodup_concat h.nodup hnew
  length_le := by
    rw [List.length_append]
    exact hroom

/-- The stack of a template on its own. -/
theorem is_stack_to_list (env : Environment) (name : Option String) : env.IsStack name.toList := by
  have hpos := env.max_depth_pos
  cases name with
  | none => exact ⟨List.nodup_nil, Nat.zero_le _⟩
  | some name => exact ⟨List.nodup_singleton name, hpos⟩

/-- Loading goes on only with a new name on top of the stack. -/
theorem load_congr {stack : List String} {name : Option String}
    {first second : List String → Option String → String → Logged Markup}
    (h : ∀ target source, target ∉ stack →
      first (stack ++ [target]) (some target) source =
        second (stack ++ [target]) (some target) source) :
    env.load stack name (some first) = env.load stack name (some second) := by
  funext path
  unfold load
  dsimp only
  by_cases hmem : TemplateName.resolve path name ∈ stack
  · have hcontains := List.contains_iff_mem.mpr hmem
    rw [if_pos hcontains, if_pos hcontains]
    rfl
  · have hcontains := mt List.contains_iff_mem.mp hmem
    rw [if_neg hcontains, if_neg hcontains]
    simp only [h _ _ hmem]

/-- Counting the room that is left is the same as comparing the stack with the limit. -/
theorem parse_within_eq_parse_step (env : Environment) (stack : List String) (name : Option String)
    (source : String) :
    env.parseWithin (env.maxDepth - stack.length) stack name source =
      env.parseStep (fun stack => env.parseWithin (env.maxDepth - stack.length) stack) stack name
        source := by
  unfold parseStep
  by_cases hroom : stack.length < env.maxDepth
  · obtain ⟨room, hsub⟩ : ∃ room, env.maxDepth - stack.length = room + 1 :=
      ⟨env.maxDepth - stack.length - 1, by omega⟩
    have hload : env.load stack name (some (env.parseWithin room)) = env.load stack name
        (some fun stack => env.parseWithin (env.maxDepth - stack.length) stack) := by
      refine load_congr fun target source _ => ?_
      have hlength : env.maxDepth - (stack ++ [target]).length = room := by
        rw [List.length_append, List.length_singleton]
        omega
      rw [hlength]
    rw [if_pos hroom, hsub, parseWithin, hload]
  · have hsub : env.maxDepth - stack.length = 0 := by omega
    rw [if_neg hroom, hsub, parseWithin]

/-- Whatever follows the recursion on stacks without repetitions and within the limit is parsing:
what it does elsewhere does not matter. -/
theorem eq_parse_within {recur : List String → Option String → String → Logged Markup}
    (hrecur : ∀ stack name source, env.IsStack stack →
      recur stack name source = env.parseStep recur stack name source)
    (room : Nat) {stack : List String} (hstack : env.IsStack stack)
    (hroom : stack.length + room = env.maxDepth) (name : Option String) (source : String) :
    recur stack name source = env.parseWithin room stack name source := by
  induction room generalizing stack name source with
  | zero =>
      rw [hrecur stack name source hstack, parseStep, if_neg (by omega), parseWithin]
  | succ room ih =>
      -- Loading goes on with a new name where there is room for it, so with such a stack again.
      have hload : env.load stack name (some recur) =
          env.load stack name (some (env.parseWithin room)) := by
        refine load_congr fun target source hnew => ih (hstack.concat hnew (by omega)) ?_ _ _
        rw [List.length_append, List.length_singleton]
        omega
      rw [hrecur stack name source hstack, parseStep, if_pos (by omega), parseWithin, hload]

/-! ## Chains of templates -/

/-- An include or extends line of the source has the path. -/
def Mentions (source path : String) : Prop :=
  ∃ tokens, Token.scan source = .ok tokens ∧ ∃ t ∈ tokens, t.lexeme.path? = some path

/-- A way from a template along paths in the sources: the names that it leads to, in order. The last
one need not be the name of a template that there is. -/
inductive Chain (env : Environment) : Option String → String → List String → Prop where
  | empty (name source) : Chain env name source []
  | last {name : Option String} {source path : String} :
      Mentions source path → Chain env name source [TemplateName.resolve path name]
  | more {name : Option String} {source path : String} {next : TemplateSource}
      {targets : List String} :
      Mentions source path → env.fetchFor name (TemplateName.resolve path name) = .ok next →
      Chain env (some (TemplateName.resolve path name)) next.text targets →
      Chain env name source (TemplateName.resolve path name :: targets)

/-- A template is loaded only if its name is new, there is room for it, its source is found and the
source is parsed. -/
theorem exists_of_yields_load {stack : List String} {name : Option String}
    {parseNext : Option (List String → Option String → String → Logged Markup)} {path : String}
    {tree : Markup} {before after : List Event}
    (h : Yields (env.load stack name parseNext path) before tree after) :
    TemplateName.resolve path name ∉ stack ∧
      ∃ next source between, parseNext = some next ∧
        env.fetchFor name (TemplateName.resolve path name) = .ok source ∧
        Yields (next (stack ++ [TemplateName.resolve path name])
          (some (TemplateName.resolve path name)) source.text) between tree after := by
  unfold load at h
  dsimp only at h
  split at h
  · obtain ⟨_, _, hthrow, -⟩ := yields_bind.mp h
    exact absurd hthrow not_yields_throw
  · rename_i hnew
    refine ⟨mt List.contains_iff_mem.mpr hnew, ?_⟩
    cases parseNext with
    | none => exact absurd h not_yields_throw
    | some next =>
        obtain ⟨source, _, hfetch, h⟩ := yields_bind.mp h
        obtain ⟨_, between, -, hparse⟩ := yields_bind.mp h
        exact ⟨next, source, between, rfl, (yields_lift_except.mp hfetch).1, hparse⟩

/-- Loading a template reports a cycle if its name is on the stack or if parsing its source reports
one. -/
theorem circular_of_fails_load {stack chain : List String} {name : Option String}
    {parseNext : Option (List String → Option String → String → Logged Markup)} {path : String}
    {before after : List Event}
    (h : Fails (env.load stack name parseNext path) before (.template (.circular chain)) after) :
    (TemplateName.resolve path name ∈ stack ∧ chain = stack ++ [TemplateName.resolve path name]) ∨
      TemplateName.resolve path name ∉ stack ∧
      ∃ next source between, parseNext = some next ∧
        env.fetchFor name (TemplateName.resolve path name) = .ok source ∧
        Fails (next (stack ++ [TemplateName.resolve path name])
          (some (TemplateName.resolve path name)) source.text) between
          (.template (.circular chain)) after := by
  unfold load at h
  dsimp only at h
  split at h
  · rename_i hmem
    rcases fails_bind.mp h with hthrow | ⟨_, _, hthrow, -⟩
    · cases (fails_throw.mp hthrow).1
      exact .inl ⟨List.contains_iff_mem.mp hmem, rfl⟩
    · exact absurd hthrow not_yields_throw
  · rename_i hnew
    refine .inr ⟨mt List.contains_iff_mem.mpr hnew, ?_⟩
    cases parseNext with
    | none => cases (fails_throw.mp h).1
    | some next =>
        rcases fails_bind.mp h with hfetch | ⟨source, _, hfetch, h⟩
        · exact absurd (fails_lift_except.mp hfetch).1 (fetch_for_ne_circular _ _ _ _)
        · rcases fails_bind.mp h with hreport | ⟨_, between, -, hparse⟩
          · exact absurd hreport not_fails_report
          · exact ⟨next, source, between, rfl, (yields_lift_except.mp hfetch).1, hparse⟩

/-- A source is parsed only if all templates that it mentions are loaded. -/
theorem loads_of_yields_parse_source {name : Option String} {load : String → Logged Markup}
    {source path : String} {tree : Markup} {before after : List Event}
    (h : Yields (parseSource name load source) before tree after) (hpath : Mentions source path) :
    ∃ before tree after, Yields (load path) before tree after := by
  obtain ⟨tokens, _, htokens, hparse⟩ := yields_bind.mp h
  have hscan := Parser.scan_of_of_source (yields_lift_except.mp htokens).1
  obtain ⟨others, hothers, t, ht, hpath⟩ := hpath
  rw [hscan] at hothers
  cases hothers
  exact Parser.loads_of_parse hscan hparse ht hpath

/-- Parsing a source reports a cycle only if loading a template that it mentions does. -/
theorem circular_of_fails_parse_source {name : Option String} {load : String → Logged Markup}
    {source : String} {chain : List String} {before after : List Event}
    (h : Fails (parseSource name load source) before (.template (.circular chain)) after) :
    ∃ path, Mentions source path ∧
      ∃ before after, Fails (load path) before (.template (.circular chain)) after := by
  rcases fails_bind.mp h with htokens | ⟨tokens, between, htokens, hparse⟩
  · -- What is wrong with a line is no cycle.
    have herror := (fails_lift_except.mp htokens).1
    unfold Token.ofSource at herror
    cases hscan : Token.scan source with
    | ok tokens =>
        rw [hscan] at herror
        cases herror
    | error flaw =>
        rw [hscan] at herror
        obtain ⟨line, flaw⟩ := flaw
        cases flaw <;> cases herror
  · have hscan := Parser.scan_of_of_source (yields_lift_except.mp htokens).1
    rcases Parser.fault_of_parse hscan hparse with ⟨problem, position, hfault⟩ | hload
    · cases hfault
    · obtain ⟨t, ht, path, hpath, hload⟩ := hload
      exact ⟨path, ⟨tokens, hscan, t, ht, hpath⟩, hload⟩

/-- A cycle that is reported is one: the names before the last one are different, the last one is
among them, and the names after the stack are a chain from the source. -/
theorem circular_of_fails_parse_within {room : Nat} {stack chain : List String}
    (hstack : stack.Nodup) {name : Option String} {source : String} {before after : List Event}
    (h : Fails (env.parseWithin room stack name source) before (.template (.circular chain))
      after) :
    (∃ front last, chain = front ++ [last] ∧ front.Nodup ∧ last ∈ front) ∧
      ∃ targets, chain = stack ++ targets ∧ env.Chain name source targets := by
  -- The induction is on the room. The cycle is closed by a name of the stack, or it goes on from
  -- the template that is loaded, which is then the first one of the chain.
  induction room generalizing stack name source before after with
  | zero =>
      obtain ⟨path, hpath, _, _, hload⟩ := circular_of_fails_parse_source h
      rcases circular_of_fails_load hload with ⟨hmem, rfl⟩ | ⟨-, _, _, _, hnext, -⟩
      · exact ⟨⟨stack, _, rfl, hstack, hmem⟩, _, rfl, .last hpath⟩
      · cases hnext
  | succ room ih =>
      obtain ⟨path, hpath, _, _, hload⟩ := circular_of_fails_parse_source h
      rcases circular_of_fails_load hload with
        ⟨hmem, rfl⟩ | ⟨hnew, _, next, _, ⟨⟩, hfetch, hparse⟩
      · exact ⟨⟨stack, _, rfl, hstack, hmem⟩, _, rfl, .last hpath⟩
      · obtain ⟨hcycle, targets, rfl, hchain⟩ := ih (nodup_concat hstack hnew) hparse
        exact ⟨hcycle, _ :: targets, by simp, .more hpath hfetch hchain⟩

/-- Where a source is parsed, each template that it mentions is parsed with one level of room less
and with a stack that repeats no name. -/
theorem exists_of_yields_parse_within {room : Nat} {stack : List String} (hstack : stack.Nodup)
    {name : Option String} {source path : String} {tree : Markup} {before after : List Event}
    (h : Yields (env.parseWithin room stack name source) before tree after)
    (hpath : Mentions source path) :
    (stack ++ [TemplateName.resolve path name]).Nodup ∧
      ∃ less next between tree after, room = less + 1 ∧
        env.fetchFor name (TemplateName.resolve path name) = .ok next ∧
        Yields (env.parseWithin less (stack ++ [TemplateName.resolve path name])
          (some (TemplateName.resolve path name)) next.text) between tree after := by
  rw [parse_within_eq] at h
  obtain ⟨_, tree, after, hload⟩ := loads_of_yields_parse_source h hpath
  obtain ⟨hnew, _, next, between, hnext, hfetch, hparse⟩ := exists_of_yields_load hload
  refine ⟨nodup_concat hstack hnew, ?_⟩
  cases room with
  | zero => cases hnext
  | succ less =>
      cases hnext
      exact ⟨less, next, between, tree, after, rfl, hfetch, hparse⟩

/-- Where a source is parsed all chains from it have different names, and no more of them than there
is room for. -/
theorem Chain.nodup_of_yields {name : Option String} {source : String} {targets : List String}
    (hchain : env.Chain name source targets) {room : Nat} {stack : List String}
    (hstack : stack.Nodup) {tree : Markup} {before after : List Event}
    (h : Yields (env.parseWithin room stack name source) before tree after) :
    (stack ++ targets).Nodup ∧ targets.length ≤ room := by
  induction hchain generalizing room stack tree before after with
  | empty => exact ⟨by rwa [List.append_nil], Nat.zero_le _⟩
  | last hpath =>
      obtain ⟨hnodup, less, _, _, _, _, rfl, -⟩ := exists_of_yields_parse_within hstack h hpath
      exact ⟨hnodup, Nat.le_add_left _ _⟩
  | more hpath hfetch _ ih =>
      obtain ⟨hnodup, less, next, _, _, _, rfl, hfetch', hparse⟩ :=
        exists_of_yields_parse_within hstack h hpath
      rw [hfetch] at hfetch'
      cases hfetch'
      obtain ⟨hall, hlength⟩ := ih hnodup hparse
      rw [List.append_assoc] at hall
      exact ⟨hall, Nat.succ_le_succ hlength⟩

/-! ## Templates side by side -/

/-- A source of include lines. -/
def includeLines (paths : List String) : String :=
  String.ofList (Text.joinWith ['\n'] (paths.map fun path => "include ".toList ++ path.toList))

/-- The nodes of include lines. -/
def includes (paths : List String) : List Markup :=
  paths.map fun path => .included .unknown (some path) (.block .unknown [])

/-- Include lines are the source of their nodes. -/
theorem include_lines_eq (paths : List String) :
    includeLines paths = Print.source 1 (includes paths) := by
  have hlines : Print.linesOf 1 0 (includes paths) =
      paths.map fun path => "include ".toList ++ path.toList := by
    induction paths with
    | nil => rfl
    | cons path paths ih =>
        show Print.lines 1 0 _ ++ Print.linesOf 1 0 (includes paths) = _
        rw [ih]
        rfl
  rw [includeLines, Print.source, hlines]

/-- Include lines can be written. -/
theorem are_printable_includes {paths : List String}
    (h : ∀ path ∈ paths, Print.isPath path.toList = true) :
    Print.arePrintable (includes paths) = true := by
  induction paths with
  | nil => rfl
  | cons path paths ih =>
      obtain ⟨hpath, hmore⟩ := List.forall_mem_cons.mp h
      show (Print.isPath path.toList && Print.arePrintable (includes paths)) = true
      rw [hpath, ih hmore]
      rfl

/-- Include lines are read one after the other if their templates can be loaded. -/
theorem yields_includes {context : Parser.Context} {paths : List String}
    (hload : ∀ path ∈ paths, ∀ line, Succeeds (context.load path line)) {tokens : List Token}
    (h : Print.shapes tokens = Print.lexemesOf (includes paths)) {state : Parser.State}
    {nodes : List Markup} (hrests : Print.Rests context state [] nodes) (before : List Event) :
    ∃ final after all, Yields (tokens.foldlM (Parser.step context) state) before final after ∧
      Print.Rests context final [] all := by
  induction paths generalizing tokens state nodes before with
  | nil =>
      obtain rfl := List.map_eq_nil_iff.mp h
      exact ⟨state, before, nodes, rfl, hrests⟩
  | cons path paths ih =>
      obtain ⟨hpath, hmore⟩ := List.forall_mem_cons.mp hload
      obtain ⟨line, rest, rfl, hline, hrest⟩ := Print.shapes_eq_append
        (show Print.shapes tokens = [.includePath path, .newline] ++ _ from h)
      obtain ⟨position, hfold⟩ := Parser.foldlM_include hline hrests
      obtain ⟨tree, between, htree⟩ := hpath position.line before
      have hafter := @Print.rests_after_line context [] nodes (.included position (some path) tree)
      obtain ⟨final, after, all, hfinal, hall⟩ := ih hmore hrest hafter between
      refine ⟨final, after, all, ?_, hall⟩
      rw [List.foldlM_append, hfold]
      exact yields_bind.mpr ⟨_, between, yields_bind.mpr ⟨tree, between, htree, rfl⟩, hfinal⟩

/-- A path on an include line of its own is mentioned. -/
theorem mentions_include_lines {path : String} (h : Print.isPath path.toList = true) :
    Mentions (includeLines [path]) path := by
  have hprintable : Print.arePrintable (includes [path]) = true :=
    are_printable_includes (List.forall_mem_singleton.mpr h)
  obtain ⟨tokens, hscan, hshapes⟩ := Print.scan_source Nat.one_pos hprintable
  obtain ⟨t, more, rfl, ht, -⟩ := Print.shapes_eq_cons
    (show Print.shapes tokens = .includePath path :: [.newline, .endOfSource] from hshapes)
  refine ⟨t :: more, ?_, t, List.mem_cons_self, ?_⟩
  · rw [include_lines_eq]
    exact hscan
  · rw [Print.lexeme_of_shape ht (by simp) (by simp)]
    rfl

/-- A template that has been loaded once can be loaded again, whatever has been reported. -/
theorem succeeds_load_of_yields {room : Nat} {stack : List String} {name : Option String}
    {source path : String} {tree : Markup} {before after : List Event}
    (h : Yields (env.parseWithin room stack name source) before tree after)
    (hpath : Mentions source path) :
    Succeeds (env.load stack name (env.nextWithin room) path) := by
  rw [parse_within_eq] at h
  obtain ⟨_, tree, after, hload⟩ := loads_of_yields_parse_source h hpath
  have hkeeps : Keeps eventFrame (env.load stack name (env.nextWithin room) path) := by
    refine env.keeps_load stack name _ ?_ path
    intro next hnext
    cases room with
    | zero => cases hnext
    | succ room =>
        cases hnext
        exact env.keeps_parse_within room
  intro events
  obtain ⟨-, final, hfinal, -⟩ := hkeeps _ events tree after trivial hload
  exact ⟨tree, final, hfinal⟩

/-- Include lines are parsed if each of them is, also if several of them include the same
template. -/
theorem yields_parse_include_lines {name : Option String} {paths : List String}
    (hpaths : ∀ path ∈ paths, Print.isPath path.toList = true) (before : List Event)
    (hone : ∀ path ∈ paths, ∃ tree after,
      Yields (env.parse (includeLines [path]) name) before tree after) :
    ∃ tree after, Yields (env.parse (includeLines paths) name) before tree after := by
  unfold parse at hone ⊢
  obtain ⟨tokens, hscan, hshapes⟩ :=
    Print.scan_source Nat.one_pos (are_printable_includes hpaths)
  obtain ⟨front, back, rfl, hfront, hback⟩ := Print.shapes_eq_append hshapes
  obtain ⟨last, rest, rfl, hlast, hrest⟩ := Print.shapes_eq_cons hback
  obtain rfl := List.map_eq_nil_iff.mp hrest
  have hend := Print.lexeme_of_shape hlast (by simp) (by simp)
  have hinside : .endOfSource ∉ Print.shapes front := by
    rw [hfront]
    exact Print.end_of_source_not_mem_lexemes_of _
  have htokens : Token.ofSource (includeLines paths) name = .ok (front ++ [last]) := by
    rw [Token.ofSource, include_lines_eq, hscan]
    rfl
  rw [parse_within_eq, parseSource, htokens]
  generalize hroom : env.maxDepth - name.toList.length = room at hone ⊢
  let context : Parser.Context := ⟨name, some (includeLines paths),
    fun path _ => env.load name.toList name (env.nextWithin room) path⟩
  have hload : ∀ path ∈ paths, ∀ line, Succeeds (context.load path line) := by
    intro path hpath line
    obtain ⟨tree, after, hyields⟩ := hone path hpath
    exact succeeds_load_of_yields hyields (mentions_include_lines (hpaths path hpath))
  obtain ⟨final, after, all, hfold, hall⟩ := yields_includes hload hfront
    (Print.rests_line_start [] []) before
  refine ⟨.block ⟨1, 0⟩ all, after, ?_⟩
  show Yields (Parser.parse context (front ++ [last])) before _ after
  rw [Print.parse_of_ends hinside hend]
  refine yields_bind.mpr ⟨final, after, hfold, ?_⟩
  rw [Print.step_end_of_source hend hall]
  rfl

/-- Loading comes to an end, and cycles are reported where there are any.

The recursion along the stack has a solution, and every function that follows it on stacks without
repetitions and within the limit parses like the environment: no other stack is ever met. A fault
that reports a cycle holds the names of a chain from the source, after the name of the source
itself if it has one, with the last name and no other one among those before it. If a source is
parsed, then no chain from it repeats a name or has more names than the limit. Templates that are
included side by side, the same ones or others, do not get in each other's way. -/
theorem parse_loading (env : Environment) (source : String) (name : Option String) :
    (∃ recur, ∀ stack name source,
      recur stack name source = env.parseStep recur stack name source) ∧
    (∀ recur : List String → Option String → String → Logged Markup,
      (∀ stack name source, env.IsStack stack →
        recur stack name source = env.parseStep recur stack name source) →
      recur name.toList name source = env.parse source name) ∧
    (∀ events chain after,
      (env.parse source name).run.run events = (.error (.template (.circular chain)), after) →
      (∃ front last, chain = front ++ [last] ∧ front.Nodup ∧ last ∈ front) ∧
        ∃ targets, chain = name.toList ++ targets ∧ env.Chain name source targets) ∧
    (∀ events tree after, (env.parse source name).run.run events = (.ok tree, after) →
      ∀ targets, env.Chain name source targets → env.IsStack (name.toList ++ targets)) ∧
    ∀ events paths, (∀ path ∈ paths, Print.isPath path.toList = true) →
      (∀ path ∈ paths, ∃ tree after,
        (env.parse (includeLines [path]) name).run.run events = (.ok tree, after)) →
      ∃ tree after, (env.parse (includeLines paths) name).run.run events = (.ok tree, after) := by
  have hstack := env.is_stack_to_list name
  have hroom : name.toList.length + (env.maxDepth - name.toList.length) = env.maxDepth :=
    Nat.add_sub_cancel' hstack.length_le
  refine ⟨⟨_, env.parse_within_eq_parse_step⟩, ?_, ?_, ?_, ?_⟩
  · intro recur hrecur
    exact eq_parse_within hrecur _ hstack hroom name source
  · intro events chain after hfails
    exact circular_of_fails_parse_within hstack.nodup hfails
  · intro events tree after hyields targets hchain
    obtain ⟨hnodup, hlength⟩ := hchain.nodup_of_yields hstack.nodup hyields
    refine ⟨hnodup, ?_⟩
    rw [List.length_append]
    omega
  · intro events paths hpaths hone
    exact yields_parse_include_lines hpaths events hone

/-- Two templates that include each other are a cycle, which is met from a source without a name,
and a template that is included twice is none. -/
theorem parse_loading_cycle :
    let env : Environment := { default with
      loader := some (.table [("a/x.pug", "p\n  include ../b"), ("b.pug", "div: include a/x"),
        ("c.pug", "| text")]) }
    let cycle := ["a/x.pug", "b.pug", "a/x.pug"]
    (∃ after, (env.parse "include a/x" none).run.run [] =
      (.error (.template (.circular cycle)), after)) ∧
    env.Chain none "include a/x" cycle ∧
    ∃ tree after, (env.parse (includeLines ["c", "c"]) none).run.run [] = (.ok tree, after) := by
  intro env cycle
  have hcycle : ((env.parse "include a/x" none).run.run []).1 =
      .error (.template (.circular cycle)) := by decide +kernel
  have honce : ((env.parse (includeLines ["c"]) none).run.run []).1 =
      .ok (.block ⟨1, 0⟩ [.included ⟨1, 0⟩ (some "c") (.block ⟨1, 0⟩ [.text ⟨1, 0⟩ "text"])]) := by
    decide +kernel
  obtain ⟨-, -, hcircular, -, -⟩ := parse_loading env "include a/x" none
  obtain ⟨-, -, -, -, hlines⟩ := parse_loading env "" none
  obtain ⟨-, targets, htargets, hchain⟩ := hcircular [] cycle _ (eq_mk_of_fst_eq hcycle)
  refine ⟨⟨_, eq_mk_of_fst_eq hcycle⟩, htargets ▸ hchain, hlines [] ["c", "c"] (by decide) ?_⟩
  intro path hpath
  obtain rfl : path = "c" := by simpa using hpath
  exact ⟨_, _, eq_mk_of_fst_eq honce⟩

end Environment

end ElementMarkup
