import ElementMarkup.Proofs.LineEnds
import Mathlib.Data.List.Forall2

/-!
# Templates at any indentation

A template may stand at any indentation in the host program: if all its lines are moved to the right
by the same run of spaces or tabs, the markup text stays the same. `Indents` says that fragments are
others with an indentation put in front of the lines of the text that they make up, each inside the
fragment in which the line starts. A line may go through several fragments and placeholders, so that
the relation follows the text from fragment to fragment. Main statement: `compile_indented`.
-/

namespace ElementMarkup

namespace Text

/-- A text that holds no separator belongs to the first part of what follows it. -/
theorem split_on_append_of_not_mem {separator : Char} {cs : List Char} (h : separator ∉ cs)
    (rest : List Char) :
    splitOn separator (cs ++ rest) = (splitOn separator rest).modifyHead (cs ++ ·) := by
  induction cs with
  | nil =>
      rw [List.nil_append]
      cases splitOn separator rest <;> rfl
  | cons c cs ih =>
      rw [List.mem_cons, not_or] at h
      have hc : ¬ (c == separator) = true := by simpa using Ne.symm h.1
      rw [List.cons_append, split_on_eq, List.splitOn_cons_eq_if_modifyHead, if_neg hc,
        ← split_on_eq, ih h.2, List.modifyHead_modifyHead]
      rfl

end Text

namespace Fragments

open Text (splitOn joinWith)

variable {indent : List Char}

/-! ## Indented texts -/

/-- `Indented indent fresh cs next ds` says that the text `ds` is the text `cs` with the indentation
put in front of its lines. If `fresh` holds, the texts start where a line does and the indentation
is not there yet; `next` says the same of what follows them. Every line that is not empty gets the
indentation, and an empty line may get it. -/
inductive Indented (indent : List Char) : Bool → List Char → Bool → List Char → Prop where
  | done (fresh : Bool) : Indented indent fresh [] fresh []
  | indent {next : Bool} {cs ds : List Char} :
      Indented indent false cs next ds → Indented indent true cs next (indent ++ ds)
  | newline {fresh next : Bool} {cs ds : List Char} :
      Indented indent true cs next ds → Indented indent fresh ('\n' :: cs) next ('\n' :: ds)
  | char {next : Bool} {c : Char} {cs ds : List Char} :
      c ≠ '\n' → Indented indent false cs next ds →
      Indented indent false (c :: cs) next (c :: ds)

/-- Texts in a row are indented one after the other. -/
theorem Indented.append {fresh between next : Bool} {cs ds more others : List Char}
    (hfirst : Indented indent fresh cs between ds)
    (hsecond : Indented indent between more next others) :
    Indented indent fresh (cs ++ more) next (ds ++ others) := by
  induction hfirst with
  | done => exact hsecond
  | indent _ ih =>
      rw [List.append_assoc]
      exact .indent (ih hsecond)
  | newline _ ih => exact .newline (ih hsecond)
  | char hc _ ih => exact .char hc (ih hsecond)

/-- What stands within a line stays as it is. -/
theorem indented_of_not_mem {cs : List Char} (h : '\n' ∉ cs) :
    Indented indent false cs false cs := by
  induction cs with
  | nil => exact .done false
  | cons c cs ih =>
      rw [List.mem_cons, not_or] at h
      exact .char (Ne.symm h.1) (ih h.2)

/-- A line, and the line with the indentation in front of it. An empty line may do without it. -/
inductive IndentedLine (indent : List Char) : List Char → List Char → Prop where
  | indented (line : List Char) : IndentedLine indent line (indent ++ line)
  | empty : IndentedLine indent [] []

/-- Lines, and the same lines with the indentation, where the first line has it already unless the
text starts afresh. -/
inductive IndentedLines (indent : List Char) :
    Bool → List (List Char) → List (List Char) → Prop where
  | fresh {lines others : List (List Char)} :
      List.Forall₂ (IndentedLine indent) lines others → IndentedLines indent true lines others
  | within {line : List Char} {lines others : List (List Char)} :
      List.Forall₂ (IndentedLine indent) lines others →
      IndentedLines indent false (line :: lines) (line :: others)

/-- The lines of an indented text are those of the text with the indentation. -/
theorem Indented.lines (hindent : '\n' ∉ indent) {fresh next : Bool} {cs ds : List Char}
    (h : Indented indent fresh cs next ds) :
    IndentedLines indent fresh (splitOn '\n' cs) (splitOn '\n' ds) := by
  have hnewline (rest : List Char) : splitOn '\n' ('\n' :: rest) = [] :: splitOn '\n' rest :=
    if_pos rfl
  induction h with
  | done fresh =>
      cases fresh with
      | true => exact .fresh (.cons .empty .nil)
      | false => exact .within .nil
  | @indent _ cs ds _ ih =>
      rw [Text.split_on_append_of_not_mem hindent]
      generalize splitOn '\n' cs = lines, splitOn '\n' ds = others at ih ⊢
      cases ih with
      | within hlines => exact .fresh (.cons (.indented _) hlines)
  | @newline fresh _ cs ds _ ih =>
      rw [hnewline, hnewline]
      generalize splitOn '\n' cs = lines, splitOn '\n' ds = others at ih ⊢
      cases ih with
      | fresh hlines =>
          cases fresh with
          | true => exact .fresh (.cons .empty hlines)
          | false => exact .within hlines
  | @char _ c cs ds hc _ ih =>
      have hline : '\n' ∉ [c] := by simpa using Ne.symm hc
      have hchar (rest : List Char) :
          splitOn '\n' (c :: rest) = (splitOn '\n' rest).modifyHead (c :: ·) :=
        Text.split_on_append_of_not_mem hline rest
      rw [hchar, hchar]
      generalize splitOn '\n' cs = lines, splitOn '\n' ds = others at ih ⊢
      cases ih with
      | within hlines => exact .within hlines

/-! ## Moving the text back -/

/-- The first line that is not empty. -/
def firstLine? (lines : List (List Char)) : Option (List Char) :=
  lines.find? fun line => !line.isEmpty

/-- A run of blanks in front of a line is the whole run that the line starts with, if the line
itself starts with no blank. -/
theorem leading_run_replicate_append {blank : Char} (hblank : blank = ' ' ∨ blank = '\t')
    (width : Nat) {line : List Char} (hline : line.head? ≠ some blank) :
    leadingRun (List.replicate (width + 1) blank ++ line) = width + 1 := by
  have hrun : line.takeWhile (· == blank) = [] := by
    cases line with
    | nil => rfl
    | cons c line =>
        refine List.takeWhile_cons_of_neg ?_
        simpa using fun h : c = blank => hline (by rw [h]; rfl)
  have hall : ∀ c ∈ List.replicate width blank, (c == blank) = true := by
    intro c hc
    rw [List.eq_of_mem_replicate hc, beq_self_eq_true]
  rw [List.replicate_succ, List.cons_append, leadingRun, if_pos hblank.symm,
    List.takeWhile_append_of_pos hall, hrun, List.append_nil, List.length_replicate]

/-- Lines that get no indentation stay as they are. -/
theorem eq_of_forall₂_nil {lines others : List (List Char)}
    (h : List.Forall₂ (IndentedLine []) lines others) : lines = others := by
  rw [← List.forall₂_eq_eq_eq]
  refine h.imp fun _ _ hline => ?_
  cases hline <;> rfl

/-- If the first line that is not empty starts at the margin, then the indentation is what the first
line that is not empty starts with afterwards, unless no line got it. -/
theorem leading_run_first_line? {blank : Char} (hblank : blank = ' ' ∨ blank = '\t') {width : Nat}
    {lines others : List (List Char)}
    (h : List.Forall₂ (IndentedLine (List.replicate (width + 1) blank)) lines others)
    (hfirst : ∀ line ∈ firstLine? lines, line.head? ≠ some blank) :
    lines = others ∨ ∃ line ∈ firstLine? others, leadingRun line = width + 1 := by
  induction h with
  | nil => exact .inl rfl
  | @cons line other lines others hline _ ih =>
      cases hline with
      | empty =>
          -- An empty line without the indentation is no first line, neither before nor after.
          exact (ih hfirst).imp_left fun heq => by rw [heq]
      | indented =>
          refine .inr ⟨_, List.find?_cons_of_pos (by simp), ?_⟩
          refine leading_run_replicate_append hblank width ?_
          cases line with
          | nil => simp
          | cons c line => exact hfirst (c :: line) rfl

/-- A line is what is left of the indented line without the indentation. -/
theorem IndentedLine.drop {line other : List Char} (h : IndentedLine indent line other) :
    other.drop indent.length = line := by
  cases h with
  | indented => exact List.drop_left
  | empty => exact List.drop_nil

/-- A text that starts at the margin comes back if its lines are indented and the text is moved to
the left again. -/
theorem deindent_of_indented {blank : Char} (hblank : blank = ' ' ∨ blank = '\t') {width : Nat}
    {next : Bool} {cs ds : List Char} (h : Indented (List.replicate width blank) true cs next ds)
    (hstart : startsAtMargin cs = true) : deindent ds = cs := by
  have hindent : '\n' ∉ List.replicate width blank := by
    intro hmem
    have heq := List.eq_of_mem_replicate hmem
    rcases hblank with rfl | rfl <;> cases heq
  obtain ⟨hlines⟩ := h.lines hindent
  have hsame (heq : splitOn '\n' cs = splitOn '\n' ds) : deindent ds = cs := by
    have htext : cs = ds := by
      rw [← Text.join_with_split_on '\n' cs, heq, Text.join_with_split_on]
    rw [← htext, deindent_of_starts_at_margin hstart]
  cases width with
  | zero => exact hsame (eq_of_forall₂_nil hlines)
  | succ width =>
      have hfirst : ∀ line ∈ firstLine? (splitOn '\n' cs), line.head? ≠ some blank := by
        intro line hline
        unfold startsAtMargin at hstart
        rw [show (splitOn '\n' cs).find? (fun line => !line.isEmpty) = some line from hline]
          at hstart
        simp only [Option.all_some, Bool.and_eq_true, bne_iff_ne] at hstart
        rcases hblank with rfl | rfl
        · exact hstart.1
        · exact hstart.2
      rcases leading_run_first_line? hblank hlines hfirst with heq | ⟨line, hline, hrun⟩
      · exact hsame heq
      · have hmargin : margin ds = width + 1 := by
          unfold margin
          rw [show (splitOn '\n' ds).find? (fun line => !line.isEmpty) = some line from hline]
          exact hrun
        have hback : (splitOn '\n' ds).map (List.drop (width + 1)) = splitOn '\n' cs := by
          rw [← List.forall₂_eq_eq_eq, List.forall₂_map_left_iff]
          refine (hlines.imp fun _ _ hline => ?_).flip
          have hdrop := hline.drop
          rwa [List.length_replicate] at hdrop
        rw [deindent_eq, hmargin, hback, Text.join_with_split_on]

/-! ## Indented fragments -/

/-- `IndentsFrom indent count index fresh fragments indented` says that the fragments `indented`,
the first of which has the place `index`, are `fragments` with the indentation put in front of the
lines of the text that they make up. A placeholder stands on a line, so that the indentation is
there before it. -/
inductive IndentsFrom (indent : List Char) (count : Nat) :
    Nat → Bool → List String → List String → Prop where
  | nil (index : Nat) (fresh : Bool) : IndentsFrom indent count index fresh [] []
  | cons {index : Nat} {fresh next : Bool} {fragment other : String}
      {fragments indented : List String} :
      Indented indent fresh fragment.toList next other.toList → (index < count → next = false) →
      IndentsFrom indent count (index + 1) next fragments indented →
      IndentsFrom indent count index fresh (fragment :: fragments) (other :: indented)

/-- The fragments `indented` are `fragments` with the indentation put in front of every line of the
text that they make up with `count` interpolations. Empty lines may get it or not. -/
def Indents (indent : List Char) (count : Nat) (fragments indented : List String) : Prop :=
  IndentsFrom indent count 0 true fragments indented

/-- Indented fragments are as many as before. -/
theorem IndentsFrom.length_eq {count index : Nat} {fresh : Bool} {fragments indented : List String}
    (h : IndentsFrom indent count index fresh fragments indented) :
    indented.length = fragments.length := by
  induction h with
  | nil => rfl
  | cons _ _ _ ih => rw [List.length_cons, List.length_cons, ih]

/-- Indented fragments make up the indented text. -/
theorem IndentsFrom.join_from {count index : Nat} {fresh : Bool} {fragments indented : List String}
    (h : IndentsFrom indent count index fresh fragments indented) :
    ∃ next, Indented indent fresh (joinFrom index count fragments) next
      (joinFrom index count indented) := by
  induction h with
  | nil index fresh => exact ⟨fresh, .done fresh⟩
  | @cons index fresh next fragment other fragments indented hfragment hmark _ ih =>
      obtain ⟨final, hmore⟩ := ih
      have htoken : Indented indent next (if index < count then Placeholder.token index else [])
          next (if index < count then Placeholder.token index else []) := by
        split
        · rename_i hlt
          rw [hmark hlt]
          exact indented_of_not_mem (not_mem_token (.inl rfl) index)
        · exact .done next
      exact ⟨final, (hfragment.append htoken).append hmore⟩

/-- Indented fragments have the same markup text, and the same is said about them. -/
theorem encode_of_indents {blank : Char} (hblank : blank = ' ' ∨ blank = '\t') {width count : Nat}
    {fragments indented : List String}
    (h : Indents (List.replicate width blank) count fragments indented)
    (hstart : startsAtMargin (join fragments count) = true) :
    encode indented count = encode fragments count := by
  obtain ⟨_, htext⟩ := h.join_from
  have hempty : indented.isEmpty = fragments.isEmpty := by
    rw [Bool.eq_iff_iff, List.isEmpty_iff_length_eq_zero, List.isEmpty_iff_length_eq_zero,
      h.length_eq]
  unfold encode
  rw [hempty, h.length_eq, deindent_of_starts_at_margin hstart,
    show deindent (join indented count) = join fragments count from
      deindent_of_indented hblank htext hstart]

end Fragments

/-- The indentation of a template in the host program does not matter.

If a template starts at the margin, that is if the first line of its text that is not empty starts
with neither a space nor a tab, then putting the same run of spaces or tabs in front of every line,
except perhaps of empty ones, changes neither the markup text nor anything that is reported on the
way to it. So the fragments compile in the same way, in every environment and with all
interpolations. -/
theorem Environment.compile_indented {blank : Char} (hblank : blank = ' ' ∨ blank = '\t')
    {width count : Nat} {fragments indented : List String}
    (hindented : Fragments.Indents (List.replicate width blank) count fragments indented)
    (hstart : Fragments.startsAtMargin (Fragments.join fragments count) = true) :
    Fragments.encode indented count = Fragments.encode fragments count ∧
    ∀ (ι : Type) (env : Environment) (interpolations : List (CallTree ι)) (name : Option String),
      interpolations.length = count →
      env.compile indented interpolations name = env.compile fragments interpolations name := by
  have hencode := Fragments.encode_of_indents hblank hindented hstart
  refine ⟨hencode, fun ι env interpolations name hcount => ?_⟩
  unfold compile
  rw [hcount, hencode, hindented.length_eq]

/-- A template that starts with an empty line and has a placeholder at the start of the next one,
moved to the right by a tab. Of its two empty lines the first one gets the tab. The last line starts
where two fragments meet without a placeholder between them, and gets the tab in the second one. -/
theorem Environment.compile_indented_tab :
    let fragments := ["\n", "\n\n  p\n", "b"]
    let indented := ["\t\n\t", "\n\n\t  p\n", "\tb"]
    Fragments.Indents ['\t'] 1 fragments indented ∧
    Fragments.startsAtMargin (Fragments.join fragments 1) = true ∧
    Fragments.encode indented 1 = Fragments.encode fragments 1 ∧
    default.compile indented [.interpolation 3] none =
      default.compile fragments [.interpolation 3] none := by
  intro fragments indented
  have hfirst : Fragments.Indented ['\t'] true "\n".toList false "\t\n\t".toList :=
    .indent (.newline (.indent (.done false)))
  have hsecond : Fragments.Indented ['\t'] false "\n\n  p\n".toList true "\n\n\t  p\n".toList :=
    .newline (.newline (.indent (.char (by decide) (.char (by decide) (.char (by decide)
      (.newline (.done true)))))))
  have hthird : Fragments.Indented ['\t'] true "b".toList false "\tb".toList :=
    .indent (.char (by decide) (.done false))
  have hindents : Fragments.Indents (List.replicate 1 '\t') 1 fragments indented :=
    .cons hfirst (fun _ => rfl) (.cons hsecond (fun h => absurd h (by decide))
      (.cons hthird (fun _ => rfl) (.nil _ _)))
  have hstart : Fragments.startsAtMargin (Fragments.join fragments 1) = true := by decide +kernel
  obtain ⟨hencode, hcompile⟩ := compile_indented (.inr rfl) hindents hstart
  exact ⟨hindents, hstart, hencode, hcompile Nat default _ none rfl⟩

end ElementMarkup
