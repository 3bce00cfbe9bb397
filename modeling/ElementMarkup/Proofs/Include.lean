import ElementMarkup.Proofs.Depth
import ElementMarkup.Proofs.Frame
import ElementMarkup.Proofs.Print.RoundTrip

/-!
# Including a template

A tag that includes a template gets what the nodes of the template stand for as its children. The
nodes are compiled as they stand, so that a template that extends another one is not composed: its
parent keeps its own blocks, and the blocks of the template follow it. Main statement:
`compile_include`, which says what the children are and that they are the compiled template if it
extends no other one.
-/

namespace ElementMarkup

open Attempt

/-! ## Reading the include line -/

namespace Print

/-- A line with a plain tag is read as its name. -/
theorem reads_as_div : ReadsAs "div".toList [.tagName "div"] where
  starts := ⟨'d', ['i', 'v'], rfl, by decide⟩
  reads line column := by
    have hrest : Line.tagTokens line (column + 3) [] = .ok [] := by rw [Line.tagTokens]
    refine ⟨[⟨.tagName "div", ⟨line, column⟩⟩], ?_, rfl⟩
    rw [Line.tokens]
    show (do
      let more ← Line.tagTokens line (column + 3) []
      return ⟨.tagName "div", ⟨line, column⟩⟩ :: more : Except Flaw (List Token)) = _
    rw [hrest]
    rfl
  noDot := by simp

/-- A tag with an include line inside it is read as the tag and the line, one level deeper. -/
theorem scan_include {path : String} (hne : path.toList ≠ [])
    (hblank : ∀ c ∈ path.toList, Text.isBlank c = false) :
    ∃ tokens, Token.scan ("div\n  include " ++ path) = .ok tokens ∧
      shapes tokens = [.tagName "div", .newline, .indent none, .includePath path, .newline,
        .outdent none, .endOfSource] := by
  have hpath : isPath path.toList = true := by
    simp [isPath, hne, is_line_text_of_not_blank hblank, Text.trim_eq_self
      (fun c hc => hblank c (List.mem_of_mem_head? hc))
      (fun c hc => hblank c (List.mem_of_mem_getLast? hc))]
  let children : List Markup := [.included .unknown (some path) (.text .unknown "")]
  have hprintable : arePrintable children = true := by
    simp [children, arePrintable, isPrintable, hpath]
  have hstarts := starts_at_node Nat.two_pos reads_as_div closes_to_end fun hne =>
    starts_at_lines_of Nat.two_pos children hprintable hne (closes_to_end.succ)
  have hsource : "div\n  include " ++ path = String.ofList (Text.joinWith ['\n']
      (indented 2 0 "div".toList :: linesOf 2 1 children)) := by
    rw [← String.toList_inj, String.toList_append, String.toList_ofList]
    simp [children, linesOf, lines, indented, directiveText, Directive.word, Text.joinWith]
  have htext : ∀ line ∈ indented 2 0 "div".toList :: linesOf 2 1 children,
      isLineText line = true := by
    intro line hmem
    rcases List.mem_cons.mp hmem with rfl | hmem
    · decide
    · exact is_line_text_of_mem_lines_of children hprintable hmem
  rw [Token.scan, hsource, source_lines_join_with (List.cons_ne_nil _ _) htext]
  rw [List.append_nil] at hstarts
  exact hstarts.closes.scans ⟨rfl, by decide⟩ 1

end Print

namespace Parser

open Print

/-- An include line is parsed by loading the template. -/
theorem foldlM_include {context : Context} {path : String} {tokens : List Token}
    (h : shapes tokens = [.includePath path, .newline]) {state : State}
    {openLines : List OpenLine} {nodes : List Markup}
    (hrests : Rests context state openLines nodes) :
    ∃ position : Position, tokens.foldlM (step context) state = (do
      let tree ← context.load path position.line
      return ⟨openLines, nodes, .afterLine [.included position (some path) tree]⟩) := by
  obtain ⟨item, _, rfl, hitem, hend⟩ := shapes_eq_cons h
  obtain ⟨ending, _, rfl, hending, hnone⟩ := shapes_eq_cons hend
  obtain rfl := List.map_eq_nil_iff.mp hnone
  have hinclude := lexeme_of_shape hitem (by simp) (by simp)
  have hnewline := lexeme_of_shape hending (by simp) (by simp)
  refine ⟨item.position, ?_⟩
  have hbegin : step context state item = (do
      let tree ← context.load path item.position.line
      return ⟨openLines, nodes, .lineEnd [.included item.position (some path) tree]⟩) := by
    rw [hrests item (by simp [hinclude])]
    simp only [beginLine, beginItem, hinclude, bind_assoc, pure_bind]
  rw [List.foldlM_cons, hbegin]
  simp only [bind_assoc, pure_bind, List.foldlM_cons, List.foldlM_nil, step_newline hnewline]

/-- A tag with an include line inside it is parsed by loading the template. -/
theorem parse_include (context : Context) {tag path : String} {tokens : List Token}
    (h : shapes tokens = [.tagName tag, .newline, .indent none, .includePath path, .newline,
      .outdent none, .endOfSource]) :
    ∃ place position : Position, parse context tokens = (do
      let tree ← context.load path position.line
      return .block ⟨1, 0⟩ [.tag place tag [] (some ⟨place.line, 0⟩)
        [.included position (some path) tree]]) := by
  obtain ⟨front, _, rfl, hfront, hback⟩ := shapes_eq_append
    (show shapes tokens = [.tagName tag, .newline, .indent none, .includePath path, .newline,
      .outdent none] ++ [.endOfSource] from h)
  obtain ⟨last, _, rfl, hlast, hnone⟩ := shapes_eq_cons hback
  obtain rfl := List.map_eq_nil_iff.mp hnone
  have hinside : .endOfSource ∉ shapes front := by simp [hfront]
  have hend := lexeme_of_shape hlast (by simp) (by simp)
  obtain ⟨head, _, rfl, hhead, hbelow⟩ := shapes_eq_append
    (show shapes front = [.tagName tag, .newline] ++ _ from hfront)
  obtain ⟨opening, _, rfl, hopening, hinner⟩ := shapes_eq_cons hbelow
  obtain ⟨line, _, rfl, hline, hclose⟩ := shapes_eq_append
    (show shapes _ = [.includePath path, .newline] ++ [.outdent none] from hinner)
  obtain ⟨closing, _, rfl, hclosing, hnone⟩ := shapes_eq_cons hclose
  obtain rfl := List.map_eq_nil_iff.mp hnone
  obtain ⟨place, hfold⟩ : ∃ place : Position,
      head.foldlM (step context) ⟨[], [], .lineStart⟩ =
        pure ⟨[], [], .afterLine [.tag place tag [] (some ⟨place.line, 0⟩) []]⟩ :=
    foldlM_tag_head hhead (rests_line_start [] [])
  obtain ⟨position, hload⟩ : ∃ position : Position,
      line.foldlM (step context) ⟨_, [], .lineStart⟩ = _ :=
    foldlM_include hline (rests_line_start [⟨[.tag place tag [] (some ⟨place.line, 0⟩) []], []⟩] [])
  refine ⟨place, position, ?_⟩
  rw [parse_of_ends hinside hend, List.foldlM_append, State.start, hfold, pure_bind,
    List.foldlM_cons, step_indent hopening, pure_bind, List.foldlM_append, hload]
  simp only [bind_assoc, pure_bind, List.foldlM_cons, List.foldlM_nil,
    step_outdent hclosing (attach_tag _ _ _ _) (rests_after_line _ _ _),
    step_end_of_source hend (rests_line_start _ _)]
  rfl

end Parser

/-! ## Loading the template -/

namespace Environment

/-- A template that has a name of its own is not the empty one. -/
theorem to_list_ne_nil_of_resolve {name : String} (h : TemplateName.resolve name none = name) :
    name.toList ≠ [] := by
  intro hempty
  obtain rfl := String.toList_eq_nil_iff.mp hempty
  exact absurd h (by decide +kernel)

/-- A tag that includes a template of the loader holds the tree of its source. -/
theorem parse_including (env : Environment) {loader : Loader} {name : String}
    {source : TemplateSource} (hloader : env.loader = some loader)
    (hblank : ∀ c ∈ name.toList, Text.isBlank c = false)
    (hresolve : TemplateName.resolve name none = name)
    (hfetch : loader.fetch env.files name = .ok source) :
    ∃ place position : Position, env.parse ("div\n  include " ++ name) none = (do
      report (.loading name source.file none)
      let tree ← env.parse source.text (some name)
      return .block ⟨1, 0⟩ [.tag place "div" [] (some ⟨place.line, 0⟩)
        [.included position (some name) tree]]) := by
  obtain ⟨tokens, hscan, hshapes⟩ :=
    Print.scan_include (to_list_ne_nil_of_resolve hresolve) hblank
  obtain ⟨room, hroom⟩ := Nat.exists_eq_add_one.mpr env.max_depth_pos
  have hload : env.load [] none (some (env.parseWithin room)) name = (do
      report (.loading name source.file none)
      env.parse source.text (some name)) := by
    have hfetchFor : env.fetchFor none name = .ok source := by
      rw [fetchFor, hloader]
      exact hfetch
    simp only [load, hresolve, hfetchFor, parse, hroom]
    rfl
  have htokens : Token.ofSource ("div\n  include " ++ name) none = .ok tokens := by
    rw [Token.ofSource, hscan]
    rfl
  have hparse : env.parse ("div\n  include " ++ name) none =
      Parser.parse ⟨none, some ("div\n  include " ++ name),
        fun path _ => env.load [] none (some (env.parseWithin room)) path⟩ tokens := by
    simp only [parse, Option.toList_none, List.length_nil, Nat.sub_zero, hroom, parseWithin,
      parseSource, htokens]
    rfl
  obtain ⟨place, position, hincluded⟩ := Parser.parse_include _ hshapes
  refine ⟨place, position, ?_⟩
  rw [hparse, hincluded]
  simp only [hload, bind_assoc]

end Environment

/-! ## Compiling the template where it is included -/

namespace Compiler

variable {ι : Type}

/-- The children that nodes stand for on their own: they are compiled in order as they stand, with
neither overrides nor interpolations, and lists give way to their items. -/
def StandsFor (options : Options) (nodes : List Markup) (children : List (CallTree ι)) : Prop :=
  ∃ trees w, Yields (nodes.mapM (compile options fun _ => none)) ⟨.ofList [], []⟩ trees w ∧
    CallTree.flatten trees = children

/-- The events before do not matter to what nodes stand for. -/
theorem stands_for_iff (options : Options) (nodes : List Markup) (children : List (CallTree ι))
    (events : List Event) :
    StandsFor options nodes children ↔
      ∃ trees w, Yields (nodes.mapM (compile options fun _ => none)) ⟨.ofList [], events⟩ trees w ∧
        CallTree.flatten trees = children := by
  have hkeeps : Keeps workspaceFrame
      (nodes.mapM (compile options fun _ => none) : Attempt (Workspace ι) _) :=
    keeps_mapM (keeps_compile_within options _ _) nodes
  constructor
  · rintro ⟨trees, w, htrees, hflat⟩
    obtain ⟨-, final, hfinal, -⟩ := hkeeps ⟨.ofList [], []⟩ ⟨.ofList [], events⟩ trees w rfl htrees
    exact ⟨trees, final, hfinal, hflat⟩
  · rintro ⟨trees, w, htrees, hflat⟩
    obtain ⟨-, final, hfinal, -⟩ := hkeeps ⟨.ofList [], events⟩ ⟨.ofList [], []⟩ trees w rfl htrees
    exact ⟨trees, final, hfinal, hflat⟩

/-- What nodes in a row stand for is what each of them stands for, in order. -/
theorem stands_for_cons (options : Options) (node : Markup) (nodes : List Markup)
    (children : List (CallTree ι)) :
    StandsFor options (node :: nodes) children ↔
      ∃ first rest, StandsFor options [node] first ∧ StandsFor options nodes rest ∧
        first ++ rest = children := by
  -- Without interpolations the cursor is empty, and compiling a node leaves it so.
  have hempty {result : CallTree ι} {w : Workspace ι}
      (h : Yields (compile options (fun _ => none) node) ⟨.ofList [], []⟩ result w) :
      w = ⟨.ofList [], w.events⟩ := by
    obtain ⟨⟨hsize, -⟩, -⟩ :=
      keeps_compile_within options _ _ node ⟨.ofList [], []⟩ ⟨.ofList [], []⟩ result w rfl h
    obtain ⟨cursor, events⟩ := w
    obtain rfl : cursor = .ofList [] := Cursor.eq_of_list_nil hsize
    rfl
  constructor
  · rintro ⟨_, w, htrees, rfl⟩
    obtain ⟨result, trees, u, hresult, hmore, rfl⟩ := yields_mapM_cons.mp htrees
    rw [hempty hresult] at hmore
    refine ⟨CallTree.flatten [result], CallTree.flatten trees, ⟨[result], u, ?_, rfl⟩,
      (stands_for_iff options nodes _ u.events).mpr ⟨trees, w, hmore, rfl⟩, ?_⟩
    · exact yields_mapM_cons.mpr ⟨result, [], u, hresult, rfl, rfl⟩
    · simp only [CallTree.flatten, List.append_nil]
  · rintro ⟨_, _, ⟨_, w, hfirst, rfl⟩, hrest, rfl⟩
    obtain ⟨result, _, u, hresult, hnone, rfl⟩ := yields_mapM_cons.mp hfirst
    obtain ⟨rfl, rfl⟩ := yields_mapM_nil.mp hnone
    obtain ⟨trees, final, htrees, rfl⟩ := (stands_for_iff options nodes _ u.events).mp hrest
    rw [← hempty hresult] at htrees
    refine ⟨result :: trees, final, yields_mapM_cons.mpr ⟨result, trees, u, hresult, htrees, rfl⟩,
      ?_⟩
    simp only [CallTree.flatten, List.append_nil]

/-- Nodes stand for a single child if the first one stands for it and the others for nothing, or the
other way round. -/
theorem stands_for_cons_singleton (options : Options) (node : Markup) (nodes : List Markup)
    (child : CallTree ι) :
    StandsFor options (node :: nodes) [child] ↔
      (StandsFor options [node] [child] ∧ StandsFor options nodes ([] : List (CallTree ι))) ∨
      (StandsFor options [node] ([] : List (CallTree ι)) ∧ StandsFor options nodes [child]) := by
  rw [stands_for_cons]
  constructor
  · rintro ⟨first, rest, hfirst, hrest, heq⟩
    rcases List.append_eq_singleton_iff.mp heq with ⟨rfl, rfl⟩ | ⟨rfl, rfl⟩
    · exact .inr ⟨hfirst, hrest⟩
    · exact .inl ⟨hfirst, hrest⟩
  · rintro (⟨hfirst, hrest⟩ | ⟨hfirst, hrest⟩)
    · exact ⟨_, _, hfirst, hrest, rfl⟩
    · exact ⟨_, _, hfirst, hrest, rfl⟩

/-- An included tree gives what its nodes stand for, if its levels fit into the room. -/
theorem compile_within_top_level (options : Options) {tree : Markup} {room : Nat}
    (hroom : tree.height ≤ room) (hdepth : room ≤ options.maxDepth.toNat)
    (wrap : List (CallTree ι) → CallTree ι) :
    (do
      let result ← compileWithin options (fun _ => none) room tree
      return wrap (CallTree.flatten [result]) : Attempt (Workspace ι) (CallTree ι)) = (do
      let trees ← tree.topLevel.mapM (compile options fun _ => none)
      return wrap (CallTree.flatten trees)) := by
  have hheight := Nat.le_trans hroom hdepth
  cases tree with
  | block position nodes =>
      -- One level of room more makes the nodes compile with the room that a template has.
      rw [compile_within_eq_of_height_le options hroom (Nat.le_succ_of_le hheight)]
      show (do
        let result ← (do return .list (← nodes.mapM (compile options fun _ => none)))
        return wrap (CallTree.flatten [result]) : Attempt (Workspace ι) (CallTree ι)) = _
      simp only [bind_assoc, pure_bind, CallTree.flatten, CallTree.flattenItem, List.append_nil]
      rfl
  | _ =>
      rw [compile_within_eq_of_height_le options hroom hheight]
      simp only [Markup.topLevel, List.mapM_cons, List.mapM_nil, bind_assoc, pure_bind]
      rfl

/-- The children of a plain tag that includes a tree are what the nodes of the tree stand for. -/
theorem compile_included (options : Options) {tree : Markup}
    (hroom : tree.height + 2 ≤ options.maxDepth.toNat) (place : Position)
    (blockPosition : Option Position) (position : Position) (path : Option String) :
    compile options (fun _ => none)
        (.tag place "div" [] blockPosition [.included position path tree]) = (do
      let trees ← tree.topLevel.mapM (compile options fun _ => none)
      return .call options.factory (.literal (.text "div") :: .null :: CallTree.flatten trees) :
        Attempt (Workspace ι) (CallTree ι)) := by
  obtain ⟨room, hdepth⟩ := Nat.exists_eq_add_of_le' (Nat.le_of_add_left_le hroom)
  have hstep : compile options (fun _ => none)
      (.tag place "div" [] blockPosition [.included position path tree]) = (do
        let props ← properties options []
        let items ← [Markup.included position path tree].mapM
          (compileWithin options (fun _ => none) (room + 1))
        return .call options.factory (tagTree "div" :: props :: CallTree.flatten items) :
          Attempt (Workspace ι) (CallTree ι)) := by
    rw [compile, hdepth]
    rfl
  have hheight : tree.height ≤ room := by omega
  rw [hstep, properties_of_merge_eq_nil rfl]
  simp only [pure_bind, List.mapM_cons, List.mapM_nil, bind_assoc]
  exact compile_within_top_level options hheight (by omega)
    fun children => .call options.factory (.literal (.text "div") :: .null :: children)

end Compiler

/-! ## The template on its own and where it is included -/

/-- The nodes of a template that extends another one start with its extends line. -/
def Markup.isDerived : List Markup → Bool
  | .extended _ _ _ :: _ => true
  | _ => false

/-- A template that extends no other one has a single root and no overrides. -/
theorem Composition.eq_of_yields_of_nodes {nodes : List Markup} {composition : Composition}
    {events final : List Event} (hderived : Markup.isDerived nodes = false)
    (h : Yields (ofNodes nodes) events composition final) :
    ∃ root, nodes = [root] ∧ composition = ⟨root, []⟩ := by
  unfold ofNodes at h
  split at h
  · exact absurd h not_yields_throw
  · cases hderived
  · exact ⟨_, rfl, (yields_pure.mp h).1.symm⟩
  · exact absurd h not_yields_throw

namespace Environment

open Compiler (StandsFor)

variable {ι : Type} {env : Environment} {loader : Loader} {name : String}
  {source : TemplateSource} {tree : Markup} {loaded : List Event}

/-- Parsing a source gives the same tree after any events. -/
theorem yields_parse_of_yields {text : String} {label : Option String} {events final : List Event}
    (h : Yields (env.parse text label) events tree final) (others : List Event) :
    ∃ after, Yields (env.parse text label) others tree after := by
  obtain ⟨-, after, hafter, -⟩ := env.keeps_parse_within _ _ _ _ events others tree final trivial h
  exact ⟨after, hafter⟩

/-- A tag that includes a template gets what the nodes of the template stand for. -/
theorem yields_including (hloader : env.loader = some loader)
    (hblank : ∀ c ∈ name.toList, Text.isBlank c = false)
    (hresolve : TemplateName.resolve name none = name)
    (hfetch : loader.fetch env.files name = .ok source)
    (htree : Yields (env.parse source.text (some name)) [] tree loaded)
    (hroom : tree.height + 2 ≤ env.maxDepth) (result : CallTree ι) :
    (∃ events, Yields (env.compile ["div\n  include " ++ name] [] none) [] result events) ↔
      ∃ children, StandsFor env.options tree.topLevel children ∧
        .call env.factory (.literal (.text "div") :: .null :: children) = result := by
  obtain ⟨place, position, hparse⟩ := parse_including env hloader hblank hresolve hfetch
  let root : Markup := .tag place "div" [] (some ⟨place.line, 0⟩)
    [.included position (some name) tree]
  have hmargin : Fragments.startsAtMargin ("div\n  include " ++ name).toList = true := by
    rw [String.toList_append]
    exact Fragments.starts_at_margin_cons (by decide)
  obtain ⟨after, hafter⟩ := yields_parse_of_yields htree
    [.encoded none 1 0, .loading name source.file none]
  have hcomposition : Yields (env.composition ["div\n  include " ++ name] 0 none) []
      ⟨root, []⟩ after := by
    rw [composition_of_starts_at_margin env hmargin, hparse]
    simp only [yields_bind, yields_report, yields_pure]
    exact ⟨(), _, rfl, _, after, ⟨(), _, rfl, tree, after, hafter, rfl, rfl⟩, rfl⟩
  have hcompile : Compiler.compile env.options (Composition.lookup ⟨root, []⟩) root = (do
      let trees ← tree.topLevel.mapM (Compiler.compile env.options fun _ => none)
      return .call env.factory (.literal (.text "div") :: .null :: CallTree.flatten trees) :
        Attempt (Compiler.Workspace ι) (CallTree ι)) :=
    Compiler.compile_included env.options hroom place _ position _
  constructor
  · rintro ⟨events, h⟩
    obtain ⟨_, _, w, hcomposed, hresult, -⟩ := yields_compile.mp h
    obtain ⟨rfl, rfl⟩ := yields_unique hcomposed hcomposition
    rw [hcompile] at hresult
    simp only [yields_bind, yields_pure] at hresult
    obtain ⟨trees, _, htrees, rfl, rfl⟩ := hresult
    exact ⟨_, (Compiler.stands_for_iff _ _ _ _).mpr ⟨trees, _, htrees, rfl⟩, rfl⟩
  · rintro ⟨children, hchildren, rfl⟩
    obtain ⟨trees, w, htrees, rfl⟩ := (Compiler.stands_for_iff _ _ _ after).mp hchildren
    refine ⟨_, yields_compile.mpr ⟨_, after, w, hcomposition, ?_, rfl⟩⟩
    rw [hcompile]
    simp only [yields_bind, yields_pure]
    exact ⟨trees, w, htrees, rfl, rfl⟩

/-- A template that extends no other one stands for what it is compiled to. -/
theorem stands_for_of_get_template (hloader : env.loader = some loader)
    (hfetch : loader.fetch env.files name = .ok source)
    (hmargin : Fragments.startsAtMargin source.text.toList = true)
    (htree : Yields (env.parse source.text (some name)) [] tree loaded)
    (hderived : Markup.isDerived tree.topLevel = false) {result : CallTree ι}
    {events : List Event} (hget : Yields (env.getTemplate name) [] result events) :
    StandsFor env.options tree.topLevel (CallTree.flatten [result]) := by
  have hcompile : Yields (env.compile [source.text] [] (some name)) [] result events := by
    unfold getTemplate at hget
    simp only [hloader, hfetch] at hget
    exact hget
  obtain ⟨composition, composed, w, hcomposition, hresult, -⟩ := yields_compile.mp hcompile
  change Yields (env.composition [source.text] 0 (some name)) [] composition composed
    at hcomposition
  rw [composition_of_starts_at_margin env hmargin] at hcomposition
  simp only [yields_bind, yields_report] at hcomposition
  obtain ⟨_, _, rfl, parsed, before, hparsed, hcompose⟩ := hcomposition
  -- The encoding is reported first, so that the two trees are read after different events.
  obtain ⟨after, hafter⟩ := yields_parse_of_yields hparsed []
  obtain ⟨rfl, -⟩ := yields_unique hafter htree
  obtain ⟨root, hroot, rfl⟩ := Composition.eq_of_yields_of_nodes hderived hcompose
  rw [hroot, Compiler.stands_for_iff _ _ _ composed]
  exact ⟨[result], w, yields_mapM_cons.mpr ⟨result, [], w, hresult, rfl, rfl⟩, rfl⟩

/-- Including a template that the loader serves: the children of the tag are what the nodes of the
template stand for. If the template extends no other one, this is the compiled template. If it does,
this is the compiled template only if the parent as it stands is and the blocks of the template have
no content, or the other way round. -/
theorem compile_include (ι : Type) (env : Environment) (loader : Loader) (name : String)
    (source : TemplateSource) (tree : Markup) (callee : String) (arguments : List (CallTree ι))
    (loaded events : List Event) (hloader : env.loader = some loader)
    (hblank : ∀ c ∈ name.toList, Text.isBlank c = false)
    (hresolve : TemplateName.resolve name none = name)
    (hfetch : loader.fetch env.files name = .ok source)
    (hmargin : Fragments.startsAtMargin source.text.toList = true)
    (htree : (env.parse source.text (some name)).outcome = (.ok tree, loaded))
    (hroom : tree.height + 2 ≤ env.maxDepth)
    (hget : (env.getTemplate name).outcome = (.ok (.call callee arguments), events)) :
    let template : CallTree ι := .call callee arguments
    let including : Except Fault (CallTree ι) :=
      (env.compile ["div\n  include " ++ name] [] none).outcome.1
    (∀ children,
      including = .ok (.call env.factory (.literal (.text "div") :: .null :: children)) ↔
        StandsFor env.options tree.topLevel children) ∧
    (Markup.isDerived tree.topLevel = false →
      including = .ok (.call env.factory [.literal (.text "div"), .null, template])) ∧
    (∀ position path parent blocks, tree.topLevel = .extended position path parent :: blocks →
      (including = .ok (.call env.factory [.literal (.text "div"), .null, template]) ↔
        (StandsFor env.options [.extended position path parent] [template] ∧
          StandsFor env.options blocks ([] : List (CallTree ι))) ∨
        (StandsFor env.options [.extended position path parent] ([] : List (CallTree ι)) ∧
          StandsFor env.options blocks [template]))) := by
  have hchildren (children : List (CallTree ι)) :
      (env.compile ["div\n  include " ++ name] [] none).outcome.1 =
          .ok (.call env.factory (.literal (.text "div") :: .null :: children)) ↔
        StandsFor env.options tree.topLevel children := by
    rw [fst_outcome_eq_ok, yields_including hloader hblank hresolve hfetch htree hroom]
    constructor
    · rintro ⟨others, hothers, heq⟩
      cases heq
      exact hothers
    · intro h
      exact ⟨children, h, rfl⟩
  refine ⟨hchildren, ?_, ?_⟩
  · intro hderived
    rw [hchildren]
    exact stands_for_of_get_template hloader hfetch hmargin htree hderived hget
  · intro position path parent blocks hnodes
    rw [hchildren, hnodes]
    exact Compiler.stands_for_cons_singleton env.options _ blocks _

/-- A template with a block of its own and an include line of its own. -/
theorem compile_include_plain :
    let text := "section.a\n  block main\n    | x\n  include u.pug"
    let env : Environment :=
      { default with loader := some (.table [("t.pug", text), ("u.pug", "b: i")]) }
    ∃ (tree : Markup) (callee : String) (arguments : List (CallTree Nat)),
      (env.parse text (some "t.pug")).outcome.1 = .ok tree ∧ tree.height + 2 ≤ env.maxDepth ∧
      Markup.isDerived tree.topLevel = false ∧
      (env.getTemplate "t.pug").outcome.1 = .ok (.call callee arguments) ∧
      (env.compile ["div\n  include t.pug"] [] none).outcome.1 =
        .ok (.call env.factory [.literal (.text "div"), .null, .call callee arguments]) := by
  intro text env
  let element (tag : String) (properties : CallTree Nat) (children : List (CallTree Nat)) :=
    CallTree.call env.factory (.literal (.text tag) :: properties :: children)
  let tree : Markup := .block ⟨1, 0⟩ [.tag ⟨1, 0⟩ "section" [⟨"class", .text "a"⟩] (some ⟨1, 0⟩)
    [.namedBlock ⟨2, 2⟩ "main" [.text ⟨3, 4⟩ "x"],
      .included ⟨4, 2⟩ (some "u.pug") (.block ⟨1, 0⟩ [.tag ⟨1, 0⟩ "b" [] (some ⟨1, 0⟩)
        [.tag ⟨1, 3⟩ "i" [] (some ⟨1, 0⟩) []]])]]
  let arguments : List (CallTree Nat) := [.literal (.text "section"),
    .props [⟨"className", .literal (.text "a"), false⟩], .literal (.text "x"),
    element "b" .null [element "i" .null []]]
  have htree : (env.parse text (some "t.pug")).outcome.1 = .ok tree := by decide +kernel
  have hget : (env.getTemplate "t.pug").outcome.1 = .ok (.call env.factory arguments) := by
    decide +kernel
  have hblank : ∀ c ∈ "t.pug".toList, Text.isBlank c = false := by
    have hall : ("t.pug".toList.all fun c => !Text.isBlank c) = true := by decide +kernel
    simpa only [List.all_eq_true, Bool.not_eq_true'] using hall
  have hroom : tree.height + 2 ≤ env.maxDepth := by decide +kernel
  have hderived : Markup.isDerived tree.topLevel = false := by decide +kernel
  have hplain := (compile_include Nat env _ "t.pug" ⟨text, none⟩ tree env.factory arguments _ _ rfl
    hblank (by decide +kernel) rfl (by decide +kernel) (eq_mk_of_fst_eq htree) hroom
    (eq_mk_of_fst_eq hget)).2.1 hderived
  exact ⟨tree, env.factory, arguments, htree, hroom, hderived, hget, hplain⟩

/-- A template that replaces a block of its parent: on its own it has the new content in the place
of the old one, but where it is included the old content stays and the new one follows the
element. -/
theorem compile_include_derived :
    let env : Environment := { default with
      loader := some (.table [("p.pug", "section\n  block a\n    | x"),
        ("t.pug", "extends p.pug\nblock a\n  | y")]) }
    let element (tag : String) (children : List (CallTree Nat)) : CallTree Nat :=
      .call env.factory (.literal (.text tag) :: .null :: children)
    let template := element "section" [.literal (.text "y")]
    let including := (env.compile ["div\n  include t.pug"] [] none).outcome.1
    (env.getTemplate "t.pug").outcome.1 = .ok template ∧
      including = .ok (element "div"
        [element "section" [.literal (.text "x")], .literal (.text "y")]) ∧
      including ≠ .ok (element "div" [template]) := by
  intro env element template including
  exact ⟨by decide +kernel, by decide +kernel, by decide +kernel⟩

end Environment

end ElementMarkup
