import ElementMarkup.Proofs.Congruence
import ElementMarkup.Proofs.Environment
import ElementMarkup.Proofs.Parser
import ElementMarkup.Proofs.Placeholder

/-!
# Carriage returns at line ends

Markup may end its lines with a carriage return and a line feed. Once the text is in place this
makes no difference, since the returns are removed before anything is read. The text is put in place
earlier, by the indentation of its first line that is not empty, and there a line with nothing but a
carriage return counts as not empty: a template that starts with a line end and is indented stays
where it is. Main statement: `compile_with_returns`. `compile_with_returns_indented` is a template
that compiles without carriage returns only.
-/

namespace ElementMarkup

/-! ## Lines with carriage returns -/

namespace Text

/-- The text with a carriage return before each line feed. -/
def withReturns : List Char → List Char
  | [] => []
  | c :: cs => if c = '\n' then '\r' :: '\n' :: withReturns cs else c :: withReturns cs

/-- Texts in a row get their carriage returns one after the other. -/
theorem with_returns_append (first second : List Char) :
    withReturns (first ++ second) = withReturns first ++ withReturns second := by
  induction first with
  | nil => rfl
  | cons c first ih =>
      rw [List.cons_append, withReturns, withReturns, ih]
      split <;> rfl

/-- A text of one line gets no carriage return. -/
theorem with_returns_eq_self {cs : List Char} (h : '\n' ∉ cs) : withReturns cs = cs := by
  induction cs with
  | nil => rfl
  | cons c cs ih =>
      rw [List.mem_cons, not_or] at h
      rw [withReturns, if_neg (Ne.symm h.1), ih h.2]

/-- Lines, and the same lines with carriage returns at the end of some of them but not of the last
one. -/
inductive Returned : List (List Char) → List (List Char) → Prop where
  | last (line : List Char) : Returned [line] [line]
  | kept {line : List Char} {lines others : List (List Char)} :
      Returned lines others → Returned (line :: lines) (line :: others)
  | added {line : List Char} {lines others : List (List Char)} :
      Returned lines others → Returned (line :: lines) ((line ++ ['\r']) :: others)

/-- A character in front of the first line makes no difference. -/
theorem Returned.modify_head {lines others : List (List Char)} (h : Returned lines others)
    (c : Char) : Returned (lines.modifyHead (c :: ·)) (others.modifyHead (c :: ·)) := by
  cases h with
  | last line => exact .last _
  | kept h => exact .kept h
  | added h => exact .added h

/-- Lines may be cut from the left, together with the carriage return if nothing else is left. -/
theorem Returned.map_drop {lines others : List (List Char)} (h : Returned lines others)
    (width : Nat) : Returned (lines.map (List.drop width)) (others.map (List.drop width)) := by
  induction h with
  | last line => exact .last _
  | kept _ ih => exact .kept ih
  | @added line lines others _ ih =>
      rw [List.map_cons, List.map_cons]
      by_cases hwidth : width ≤ line.length
      · rw [List.drop_append_of_le_length hwidth]
        exact .added ih
      · have hline : line.drop width = [] := List.drop_eq_nil_iff.mpr (by omega)
        have hreturn : (line ++ ['\r']).drop width = [] := by
          refine List.drop_eq_nil_iff.mpr ?_
          rw [List.length_append, List.length_singleton]
          omega
        rw [hline, hreturn]
        exact .kept ih

/-- The lines of a text get the carriage returns of the text. -/
theorem returned_split_on (cs : List Char) :
    Returned (splitOn '\n' cs) (splitOn '\n' (withReturns cs)) := by
  induction cs with
  | nil => exact .last []
  | cons c cs ih =>
      by_cases hc : c = '\n'
      · subst hc
        have hreturn : splitOn '\n' (withReturns ('\n' :: cs)) =
            ([] ++ ['\r']) :: splitOn '\n' (withReturns cs) := by
          simp [withReturns, splitOn]
        have hline : splitOn '\n' ('\n' :: cs) = [] :: splitOn '\n' cs := by simp [splitOn]
        rw [hreturn, hline]
        exact .added ih
      · rw [withReturns, if_neg hc, split_on_cons_of_ne hc, split_on_cons_of_ne hc]
        exact ih.modify_head c

/-- A line without carriage returns is kept when line ends are unified. -/
theorem unify_line_ends_append {line : List Char} (h : '\r' ∉ line) (rest : List Char) :
    unifyLineEnds (line ++ rest) = line ++ unifyLineEnds rest := by
  induction line with
  | nil => rfl
  | cons c line ih =>
      rw [List.mem_cons, not_or] at h
      rw [List.cons_append, unifyLineEnds, ih h.2, List.cons_append]
      rintro rest rfl
      exact absurd rfl h.1

/-- A line in front of others is followed by a line feed. -/
theorem join_with_cons {parts : List (List Char)} (h : parts ≠ []) (separator : Char)
    (part : List Char) :
    joinWith [separator] (part :: parts) = part ++ separator :: joinWith [separator] parts := by
  obtain ⟨next, more, rfl⟩ := List.exists_cons_of_ne_nil h
  simp [joinWith, List.intercalate_cons_cons]

/-- Carriage returns at line ends disappear when line ends are unified. -/
theorem Returned.unify_line_ends {lines others : List (List Char)} (h : Returned lines others)
    (hplain : ∀ line ∈ lines, '\r' ∉ line) :
    unifyLineEnds (joinWith ['\n'] others) = joinWith ['\n'] lines := by
  have hne {lines others : List (List Char)} (h : Returned lines others) :
      lines ≠ [] ∧ others ≠ [] := by cases h <;> simp
  induction h with
  | last line =>
      simp only [joinWith, List.intercalate_singleton]
      exact unify_line_ends_eq_self (hplain line List.mem_cons_self)
  | kept h ih =>
      obtain ⟨hline, hlines⟩ := List.forall_mem_cons.mp hplain
      obtain ⟨hne, hne'⟩ := hne h
      rw [join_with_cons hne, join_with_cons hne', unify_line_ends_append hline, ← ih hlines]
      rfl
  | added h ih =>
      obtain ⟨hline, hlines⟩ := List.forall_mem_cons.mp hplain
      obtain ⟨hne, hne'⟩ := hne h
      rw [join_with_cons hne, join_with_cons hne', List.append_assoc, unify_line_ends_append hline,
        ← ih hlines]
      rfl

/-- The lines of a text, joined, are the text. -/
theorem join_with_split_on (separator : Char) (cs : List Char) :
    joinWith [separator] (splitOn separator cs) = cs := by
  rw [split_on_eq]
  exact List.intercalate_splitOn separator

/-- What stands on a line of a text stands in the text. -/
theorem mem_of_mem_split_on {separator c : Char} {cs part : List Char}
    (hpart : part ∈ splitOn separator cs) (hc : c ∈ part) : c ∈ cs := by
  rw [← join_with_split_on separator cs]
  generalize splitOn separator cs = parts at hpart
  induction parts with
  | nil => cases hpart
  | cons first parts ih =>
      by_cases hparts : parts = []
      · subst hparts
        obtain rfl := List.mem_singleton.mp hpart
        simpa [joinWith] using hc
      · rw [join_with_cons hparts, List.mem_append]
        rcases List.mem_cons.mp hpart with rfl | hmore
        · exact .inl hc
        · exact .inr (List.mem_cons_of_mem _ (ih hmore))

end Text

/-! ## Putting the text in place -/

namespace Fragments

open Text (Returned splitOn joinWith withReturns unifyLineEnds)

/-- How far a text is moved to the left. -/
def margin (cs : List Char) : Nat :=
  ((splitOn '\n' cs).find? fun line => !line.isEmpty).elim 0 leadingRun

/-- A text from which nothing is cut stays as it is. -/
theorem join_with_map_drop_zero (cs : List Char) :
    joinWith ['\n'] ((splitOn '\n' cs).map (List.drop 0)) = cs := by
  show joinWith ['\n'] ((splitOn '\n' cs).map id) = cs
  rw [List.map_id, Text.join_with_split_on]

/-- The text is moved to the left as far as its margin says. -/
theorem deindent_eq (cs : List Char) :
    deindent cs = joinWith ['\n'] ((splitOn '\n' cs).map (List.drop (margin cs))) := by
  unfold deindent margin
  dsimp only
  cases (splitOn '\n' cs).find? (fun line => !line.isEmpty) with
  | none => exact (join_with_map_drop_zero cs).symm
  | some line =>
      dsimp only [Option.elim_some]
      by_cases hrun : leadingRun line = 0
      · rw [if_pos hrun, hrun]
        exact (join_with_map_drop_zero cs).symm
      · exact if_neg hrun

/-- A carriage return is no indentation. -/
theorem leading_run_append_return (line : List Char) :
    leadingRun (line ++ ['\r']) = leadingRun line := by
  cases line with
  | nil => rfl
  | cons c line =>
      rw [List.cons_append, leadingRun, leadingRun]
      split
      · rename_i hc
        have hreturn : ['\r'].takeWhile (· == c) = [] := by
          rcases hc with rfl | rfl <;> rfl
        rw [List.takeWhile_append, hreturn]
        split
        · rename_i hall
          rw [List.append_nil, ← hall]
        · rfl
      · rfl

/-- With carriage returns an empty first line is the first line that is not empty, so that the text
is not moved. Otherwise it is moved as far as without them. -/
theorem margin_with_returns (cs : List Char) :
    margin (withReturns cs) = if cs.head? = some '\n' then 0 else margin cs := by
  unfold margin
  cases cs with
  | nil => rfl
  | cons c cs =>
      by_cases hc : c = '\n'
      · subst hc
        have hlines : splitOn '\n' (withReturns ('\n' :: cs)) =
            ['\r'] :: splitOn '\n' (withReturns cs) := by simp [withReturns, splitOn]
        rw [hlines]
        rfl
      · rw [if_neg (by simpa using hc)]
        -- The first line holds a character in both texts.
        have hreturned := Text.returned_split_on (c :: cs)
        obtain ⟨part, parts, hlines⟩ : ∃ part parts,
            splitOn '\n' (c :: cs) = (c :: part) :: parts := by
          rw [splitOn, if_neg hc]
          split
          · exact ⟨[], [], rfl⟩
          · exact ⟨_, _, rfl⟩
        rw [hlines] at hreturned ⊢
        generalize splitOn '\n' (withReturns (c :: cs)) = others at hreturned ⊢
        cases hreturned with
        | last => rfl
        | kept => rfl
        | added => exact leading_run_append_return (c :: part)

/-- What is read of a text with carriage returns: the text itself if it starts with a line end, and
otherwise what is read of the text without them. -/
theorem unify_line_ends_deindent_with_returns {cs : List Char} (hplain : '\r' ∉ cs) :
    unifyLineEnds (deindent (withReturns cs)) =
      if cs.head? = some '\n' then cs else deindent cs := by
  have hlines (width : Nat) :
      ∀ line ∈ (splitOn '\n' cs).map (List.drop width), '\r' ∉ line := by
    intro line hline hreturn
    obtain ⟨part, hpart, rfl⟩ := List.mem_map.mp hline
    exact hplain (Text.mem_of_mem_split_on hpart (List.mem_of_mem_drop hreturn))
  rw [deindent_eq, ((Text.returned_split_on cs).map_drop _).unify_line_ends (hlines _),
    margin_with_returns]
  split
  · exact join_with_map_drop_zero cs
  · exact (deindent_eq cs).symm

/-- A text without carriage returns has none after it has been moved. -/
theorem unify_line_ends_deindent {cs : List Char} (hplain : '\r' ∉ cs) :
    unifyLineEnds (deindent cs) = deindent cs := by
  refine Text.unify_line_ends_eq_self fun hreturn => ?_
  rw [deindent_eq] at hreturn
  rcases Text.mem_join_with hreturn with hreturn | ⟨line, hline, hreturn⟩
  · cases hreturn
  · obtain ⟨part, hpart, rfl⟩ := List.mem_map.mp hline
    exact hplain (Text.mem_of_mem_split_on hpart (List.mem_of_mem_drop hreturn))

/-- A fragment with a carriage return before each line feed. -/
def fragmentWithReturns (fragment : String) : String :=
  String.ofList (withReturns fragment.toList)

/-- A mark holds no line end. -/
theorem not_mem_token {c : Char} (hc : c = '\n' ∨ c = '\r') (index : Nat) :
    c ∉ Placeholder.token index := by
  intro hmem
  rcases Placeholder.mem_token hmem with rfl | rfl | hdigit
  · rcases hc with hc | hc <;> cases hc
  · rcases hc with hc | hc <;> cases hc
  · rcases hc with rfl | rfl <;> cases hdigit

/-- Fragments with carriage returns make up the text with carriage returns. -/
theorem join_from_with_returns (index count : Nat) (fragments : List String) :
    joinFrom index count (fragments.map fragmentWithReturns) =
      withReturns (joinFrom index count fragments) := by
  induction fragments generalizing index with
  | nil => rfl
  | cons fragment fragments ih =>
      have hmark : withReturns (if index < count then Placeholder.token index else []) =
          if index < count then Placeholder.token index else [] := by
        refine Text.with_returns_eq_self ?_
        split
        · exact not_mem_token (.inl rfl) index
        · exact List.not_mem_nil
      rw [List.map_cons, joinFrom, joinFrom, Text.with_returns_append, Text.with_returns_append,
        hmark, ih, fragmentWithReturns, String.toList_ofList]

/-- Fragments without carriage returns make up a text without them. -/
theorem not_mem_join_from {fragments : List String}
    (hplain : ∀ fragment ∈ fragments, '\r' ∉ fragment.toList) (index count : Nat) :
    '\r' ∉ joinFrom index count fragments := by
  induction fragments generalizing index with
  | nil => exact List.not_mem_nil
  | cons fragment fragments ih =>
      obtain ⟨hfirst, hmore⟩ := List.forall_mem_cons.mp hplain
      have hmark : '\r' ∉ if index < count then Placeholder.token index else [] := by
        split
        · exact not_mem_token (.inr rfl) index
        · exact List.not_mem_nil
      rw [joinFrom]
      simp only [List.mem_append, not_or]
      exact ⟨⟨hfirst, hmark⟩, ih hmore (index + 1)⟩

end Fragments

/-! ## Faults that quote their source -/

/-- The fault without the source that it quotes. -/
def Fault.unquoted : Fault → Fault
  | template (.badSyntax stage fault) => template (.badSyntax stage { fault with source := none })
  | fault => fault

namespace Attempt

variable {σ α : Type}

/-- Two outcomes that are the same, except that their faults may quote different sources. -/
inductive Alike : Except Fault α × σ → Except Fault α × σ → Prop where
  | value (a : α) (s : σ) : Alike (.ok a, s) (.ok a, s)
  | fault {first second : Fault} (s : σ) :
      first.unquoted = second.unquoted → Alike (.error first, s) (.error second, s)

/-- An outcome is like itself. -/
theorem alike_refl (outcome : Except Fault α × σ) : Alike outcome outcome := by
  obtain ⟨result, s⟩ := outcome
  cases result with
  | ok a => exact .value a s
  | error fault => exact .fault s rfl

/-- Attempts that differ at most in the sources that their faults quote. -/
def upToSource (σ : Type) : Congruence σ where
  rel x y := ∀ s, Alike (x.run.run s) (y.run.run s)
  rel_pure _ _ := alike_refl _
  rel_throw _ _ := alike_refl _
  rel_bind {α β x y f g} hfirst hsecond s := by
    rw [run_bind, run_bind]
    have h := hfirst s
    generalize x.run.run s = first, y.run.run s = second at h ⊢
    cases h with
    | value a t => exact hsecond a t
    | fault t hfault => exact .fault t hfault

end Attempt

open Attempt

/-! ## Compiling -/

namespace Token

/-- Sources with the same unified line ends have the same tokens and the same faults. -/
theorem of_source_congr {source other : String}
    (h : Text.unifyLineEnds source.toList = Text.unifyLineEnds other.toList)
    (name : Option String) : ofSource source name = ofSource other name := by
  have hfault : LineFlaw.fault name source = LineFlaw.fault name other := by
    funext flaw
    unfold LineFlaw.fault
    rw [h]
  unfold ofSource scan sourceLines
  rw [h, hfault]

end Token

namespace Environment

variable {ι : Type}

/-- Sources with the same unified line ends have the same tree, or faults that differ at most in the
source that they quote. -/
theorem up_to_source_parse (env : Environment) {source other : String}
    (h : Text.unifyLineEnds source.toList = Text.unifyLineEnds other.toList)
    (name : Option String) :
    (upToSource _).rel (env.parse source name) (env.parse other name) := by
  rw [parse, parse, parse_within_eq, parse_within_eq]
  exact rel_parse_source (Token.of_source_congr h name)
    ⟨fun _ _ _ => .fault _ rfl, fun _ _ _ => alike_refl _⟩

/-- What is said about fragments before they are looked at. -/
def announce (name : Option String) (fragments count : Nat) : Logged Unit := do
  if fragments = 0 then throw (.template .noFragments)
  if fragments ≠ count + 1 then report (.fragmentMismatch fragments count)
  report (.encoded name fragments count)

/-- The call tree of a source with placeholders for the interpolations. -/
def compileSource (env : Environment) (source : String) (interpolations : List (CallTree ι))
    (name : Option String) : Logged (CallTree ι) := do
  let tree ← env.parse source name
  let composition ← Composition.ofNodes tree.topLevel
  let (result, cursor) ← env.compileComposition composition interpolations
  if !cursor.unconsumed.isEmpty then
    report (.interpolationsUnused name cursor.unconsumed)
  report (.compiled name cursor.consumed cursor.size)
  return result

/-- The call tree of fragments that are left where they stand. -/
def compileInPlace (env : Environment) (fragments : List String)
    (interpolations : List (CallTree ι)) (name : Option String) : Logged (CallTree ι) := do
  announce name fragments.length interpolations.length
  env.compileSource (String.ofList (Fragments.join fragments interpolations.length)) interpolations
    name

/-- A compilation announces its fragments and compiles the text that they make up. -/
theorem compile_eq (env : Environment) (fragments : List String)
    (interpolations : List (CallTree ι)) (name : Option String) :
    env.compile fragments interpolations name = (do
      announce name fragments.length interpolations.length
      env.compileSource
        (String.ofList (Fragments.deindent (Fragments.join fragments interpolations.length)))
        interpolations name) := by
  unfold compile Fragments.encode announce
  cases fragments with
  | nil => rfl
  | cons fragment fragments =>
      by_cases hlength : (fragment :: fragments).length ≠ interpolations.length + 1
      · simp only [if_pos hlength]
        rfl
      · simp only [if_neg hlength]
        rfl

/-- Fragments with carriage returns compile like any source of which the same is read. -/
theorem up_to_source_compile (env : Environment) (fragments : List String)
    (interpolations : List (CallTree ι)) (name : Option String) {source : List Char}
    (h : Text.unifyLineEnds source = Text.unifyLineEnds (Fragments.deindent
      (Text.withReturns (Fragments.join fragments interpolations.length)))) :
    (upToSource _).rel
      (do
        announce name fragments.length interpolations.length
        env.compileSource (String.ofList source) interpolations name)
      (env.compile (fragments.map Fragments.fragmentWithReturns) interpolations name) := by
  have hjoin : Fragments.join (fragments.map Fragments.fragmentWithReturns)
      interpolations.length = Text.withReturns (Fragments.join fragments interpolations.length) :=
    Fragments.join_from_with_returns 0 _ fragments
  rw [compile_eq, hjoin, List.length_map]
  refine (upToSource _).rel_bind (fun _ => alike_refl _) fun _ => ?_
  refine (upToSource _).rel_bind ?_ fun _ _ => alike_refl _
  refine env.up_to_source_parse ?_ name
  rw [String.toList_ofList, String.toList_ofList, h]

/-- Fragments that are left where they stand do not compile if the first line that is not blank is
indented. -/
theorem compile_in_place_of_starts_indented (env : Environment) {fragments : List String}
    {interpolations : List (CallTree ι)} (name : Option String)
    (h : Token.startsIndented
      (String.ofList (Fragments.join fragments interpolations.length)) = true)
    (events : List Event) :
    ∃ fault after, (env.compileInPlace fragments interpolations name).run.run events =
      (.error fault, after) := by
  rcases yields_or_fails (env.compileInPlace fragments interpolations name) events with
    ⟨result, after, hyields⟩ | hfails
  · obtain ⟨_, _, -, hyields⟩ := yields_bind.mp hyields
    obtain ⟨tree, _, hparse, -⟩ := yields_bind.mp hyields
    rw [parse, parse_within_eq] at hparse
    obtain ⟨tokens, _, htokens, hparse⟩ := yields_bind.mp hparse
    have hscan := Parser.scan_of_of_source (yields_lift_except.mp htokens).1
    obtain ⟨position, hthrow⟩ := Parser.parse_of_indent (Token.stream_scan hscan)
      ((Token.is_indent_head_scan hscan).trans h)
    rw [hthrow] at hparse
    exact absurd hparse not_yields_throw
  · exact hfails

/-- Carriage returns before the line feeds of a template make no difference, except that a template
which starts with a line end is then left where it stands.

If the template does not start with a line end, or if its first line that is not empty is not
indented, the outcome is the same with and without carriage returns: the same call tree, or the same
fault up to the source that it quotes. Any template that starts with a line end has with carriage
returns the outcome that it has in place, which is a fault if its first line that is not blank is
indented. -/
theorem compile_with_returns (env : Environment) (fragments : List String)
    (hplain : ∀ fragment ∈ fragments, '\r' ∉ fragment.toList)
    (interpolations : List (CallTree ι)) (name : Option String) (events : List Event) :
    let text := Fragments.join fragments interpolations.length
    let plain := (env.compile fragments interpolations name).run.run events
    let inPlace := (env.compileInPlace fragments interpolations name).run.run events
    let returned := (env.compile (fragments.map Fragments.fragmentWithReturns) interpolations
      name).run.run events
    ((text.head? = some '\n' → Fragments.startsAtMargin text = true) → Alike plain returned) ∧
    (text.head? = some '\n' → Alike inPlace returned) ∧
    (text.head? = some '\n' → Token.startsIndented (String.ofList text) = true →
      ∃ fault after, returned = (.error fault, after)) := by
  intro text plain inPlace returned
  have hreturns : '\r' ∉ text := Fragments.not_mem_join_from hplain 0 _
  have hread := Fragments.unify_line_ends_deindent_with_returns hreturns
  have hinPlace (hhead : text.head? = some '\n') : Alike inPlace returned := by
    refine env.up_to_source_compile fragments interpolations name ?_ events
    rw [hread, if_pos hhead, Text.unify_line_ends_eq_self hreturns]
  refine ⟨fun hmargin => ?_, hinPlace, fun hhead hindented => ?_⟩
  · have hplain : plain = (do
        announce name fragments.length interpolations.length
        env.compileSource (String.ofList (Fragments.deindent text)) interpolations name :
          Logged (CallTree ι)).run.run events := by
      rw [← compile_eq]
    rw [hplain]
    refine env.up_to_source_compile fragments interpolations name ?_ events
    rw [hread, Fragments.unify_line_ends_deindent hreturns]
    split
    · rename_i hhead
      exact Fragments.deindent_of_starts_at_margin (hmargin hhead)
    · rfl
  · obtain ⟨fault, after, hfails⟩ := env.compile_in_place_of_starts_indented name hindented events
    have halike := hinPlace hhead
    rw [show inPlace = _ from hfails] at halike
    generalize returned = outcome at halike ⊢
    cases halike with
    | fault => exact ⟨_, _, rfl⟩

/-- An indented template of several lines with an interpolation between its fragments has the same
outcome with carriage returns; one that starts with a line end is left where it stands and fails. -/
theorem compile_with_returns_fragments :
    let fragments := ["  div\n    p a", "\n    | b"]
    let interpolations : List (CallTree Nat) := [.interpolation 3]
    let run (fragments : List String) :=
      (default.compile fragments interpolations none).run.run []
    Alike (run fragments) (run (fragments.map Fragments.fragmentWithReturns)) ∧
      Alike ((default.compileInPlace ["\n  p"] interpolations none).run.run [])
        (run ["\r\n  p"]) ∧
      ∃ fault after, run ["\r\n  p"] = (.error fault, after) := by
  intro fragments interpolations run
  obtain ⟨halike, -⟩ :=
    compile_with_returns default fragments (by simp [fragments]) interpolations none []
  obtain ⟨-, hinPlace, hfails⟩ :=
    compile_with_returns default ["\n  p"] (by simp) interpolations none []
  have hreturned : ["\n  p"].map Fragments.fragmentWithReturns = ["\r\n  p"] := by decide +kernel
  rw [hreturned] at hinPlace hfails
  have hhead : (Fragments.join ["\n  p"] interpolations.length).head? = some '\n' := by
    decide +kernel
  have hindented : Token.startsIndented
      (String.ofList (Fragments.join ["\n  p"] interpolations.length)) = true := by
    decide +kernel
  refine ⟨halike fun hother => ?_, hinPlace hhead, hfails hhead hindented⟩
  cases hother

/-- A template that starts with a line end and is indented compiles, but not with a carriage return
at that line end. -/
theorem compile_with_returns_indented :
    Fragments.fragmentWithReturns "\n  div" = "\r\n  div" ∧
    (∃ after, (default.compile ["\n  div"] ([] : List (CallTree Nat)) none).run.run [] =
      (.ok (.call "React.createElement" [.literal (.text "div"), .null]), after)) ∧
    ∃ fault after, (default.compile ["\r\n  div"] ([] : List (CallTree Nat)) none).run.run [] =
      (.error (.template (.badSyntax .parsing fault)), after) ∧
      fault.problem = .unexpectedIndentation := by
  have hplain : ((default.compile ["\n  div"] ([] : List (CallTree Nat)) none).run.run []).1 =
      .ok (.call "React.createElement" [.literal (.text "div"), .null]) := by decide +kernel
  have hreturned : ((default.compile ["\r\n  div"] ([] : List (CallTree Nat)) none).run.run []).1 =
      .error (.template (.badSyntax .parsing
        ⟨.unexpectedIndentation, some 2, some 0, none, some "\r\n  div"⟩)) := by decide +kernel
  exact ⟨by decide +kernel, ⟨_, eq_mk_of_fst_eq hplain⟩, _, _, eq_mk_of_fst_eq hreturned, rfl⟩

end Environment

end ElementMarkup
