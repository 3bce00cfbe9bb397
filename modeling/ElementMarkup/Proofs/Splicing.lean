import ElementMarkup.Proofs.Compiler
import ElementMarkup.Proofs.Placeholder
import Mathlib.Data.List.Infix

/-!
# Splicing loses no text

Outside of strict mode a text with placeholders is spliced without fail. It is cut into stretches:
its marks, found from left to right, and the text between them. Each stretch of text becomes a
literal. A mark becomes the interpolation with its number, if that one is left when the mark is
reached, and otherwise nothing. Written one after the other the stretches are the text again. Main
statement: `splice_stretches`.
-/

namespace ElementMarkup.Placeholder

/-! ## Where marks start -/

/-- A text with a mark somewhere in it. -/
def HasMark (cs : List Char) : Prop :=
  ∃ digits, IsNumber digits ∧ mark digits <:+: cs

/-- No mark starts inside a text, not even one that goes on in what follows it. -/
def Clear (cs rest : List Char) : Prop :=
  ∀ digits, IsNumber digits → ∀ part, part ≠ [] → part <:+ cs → ¬ mark digits <+: part ++ rest

/-- Where no mark starts there is none. -/
theorem Clear.not_has_mark {cs rest : List Char} (h : Clear cs rest) : ¬ HasMark cs := by
  rintro ⟨digits, hnumber, before, after, rfl⟩
  have hsuffix : mark digits ++ after <:+ before ++ mark digits ++ after :=
    ⟨before, by rw [List.append_assoc]⟩
  have hprefix : mark digits <+: mark digits ++ after ++ rest :=
    ⟨after ++ rest, by rw [List.append_assoc]⟩
  exact h digits hnumber _ (List.cons_ne_nil _ _) hsuffix hprefix

/-- No mark starts inside an empty text. -/
theorem clear_nil (rest : List Char) : Clear [] rest := by
  intro digits _ part hne hsuffix
  exact absurd (List.suffix_nil.mp hsuffix) hne

/-- A mark inside a text starts at its first character or later. -/
theorem Clear.cons {c : Char} {cs rest : List Char} (h : Clear cs rest)
    (hfirst : first? (c :: (cs ++ rest)) = none) : Clear (c :: cs) rest := by
  intro digits hnumber part hne hsuffix hprefix
  rcases List.suffix_cons_iff.mp hsuffix with rfl | hlater
  · obtain ⟨more, hmore⟩ := hprefix
    rw [← List.cons_append, ← hmore, first?_mark hnumber] at hfirst
    cases hfirst
  · exact h digits hnumber part hne hlater hprefix

/-- What is found at the start of a text is a mark. -/
theorem eq_mark_append_of_first? {cs digits rest : List Char}
    (h : first? cs = some (digits, rest)) : IsNumber digits ∧ cs = mark digits ++ rest := by
  unfold first? at h
  split at h
  · rename_i inner
    split at h
    · rename_i d ds after htake hdrop
      cases h
      have hdigits : ∀ c ∈ d :: ds, Text.isDigit c = true :=
        htake ▸ List.all_eq_true.mp List.all_takeWhile
      have hinner : d :: ds ++ '~' :: '/' :: rest = inner := by
        rw [← htake, ← hdrop, List.takeWhile_append_dropWhile]
      refine ⟨⟨List.cons_ne_nil _ _, hdigits⟩, ?_⟩
      rw [← hinner]
      simp [mark]
    · cases h
  · cases h

/-- The marks of a text and what follows each of them, as they are written. -/
def markSource (marks : List (List Char × List Char)) : List Char :=
  marks.flatMap fun entry => mark entry.1 ++ entry.2

/-- A text is its pieces in a row. -/
theorem head_append_mark_source_split (cs : List Char) :
    (split cs).head ++ markSource (split cs).marks = cs := by
  fun_induction split cs with
  | case1 => rfl
  | case2 c rest digits after hfirst pieces ih =>
      show [] ++ (mark digits ++ pieces.head ++ markSource pieces.marks) = c :: rest
      rw [List.nil_append, List.append_assoc, ih, (eq_mark_append_of_first? hfirst).2]
  | case3 c rest hfirst pieces ih => exact congrArg (List.cons c) ih

/-- A text that is cut somewhere holds a mark. -/
theorem has_mark_of_marks_ne_nil {cs : List Char} (h : (split cs).marks ≠ []) : HasMark cs := by
  fun_induction split cs with
  | case1 => exact absurd rfl h
  | case2 c rest digits after hfirst pieces ih =>
      obtain ⟨hnumber, heq⟩ := eq_mark_append_of_first? hfirst
      exact ⟨digits, hnumber, [], after, heq.symm⟩
  | case3 c rest hfirst pieces ih =>
      obtain ⟨digits, hnumber, hinfix⟩ := ih h
      exact ⟨digits, hnumber, List.infix_cons hinfix⟩

end ElementMarkup.Placeholder

namespace ElementMarkup.Compiler

open ElementMarkup.Attempt

variable {ι : Type}

/-! ## Stretches -/

/-- A stretch of a text: one between marks, or a mark and the interpolation that it takes, if it
takes one. -/
inductive Stretch (ι : Type) where
  | text (cs : List Char)
  | mark (digits : List Char) (taken : Option (CallTree ι))

namespace Stretch

/-- The stretch as it is written. -/
def source : Stretch ι → List Char
  | text cs => cs
  | mark digits _ => Placeholder.mark digits

/-- What the stretch becomes. -/
def items : Stretch ι → List (CallTree ι)
  | text cs => [CallTree.text cs]
  | mark _ taken => taken.toList

/-- A stretch between marks. -/
def isText : Stretch ι → Bool
  | text _ => true
  | mark _ _ => false

/-- The marks among the stretches are those that are found from left to right: none of them starts
further left, and what is between two of them is one stretch. -/
def Leftmost : List (Stretch ι) → Prop
  | [] => True
  | text cs :: more =>
    Placeholder.Clear cs (more.flatMap source) ∧ (∀ next ∈ more.head?, next.isText = false) ∧
      Leftmost more
  | mark digits _ :: more => Placeholder.IsNumber digits ∧ Leftmost more

/-- No stretch between marks holds a mark. -/
theorem Leftmost.not_has_mark {stretches : List (Stretch ι)} (h : Leftmost stretches)
    {cs : List Char} (hmem : text cs ∈ stretches) : ¬ Placeholder.HasMark cs := by
  induction stretches with
  | nil => cases hmem
  | cons stretch more ih =>
      cases stretch with
      | text first =>
          rcases List.mem_cons.mp hmem with heq | hmore
          · cases heq
            exact h.1.not_has_mark
          · exact ih h.2.2 hmore
      | mark digits taken =>
          rcases List.mem_cons.mp hmem with heq | hmore
          · cases heq
          · exact ih h.2 hmore

/-- The stretch for what is between two marks, unless they touch. -/
def between (cs : List Char) : List (Stretch ι) :=
  if cs.isEmpty then [] else [text cs]

/-- What is between two marks is written as it is. -/
theorem source_between (cs : List Char) : (between cs : List (Stretch ι)).flatMap source = cs := by
  cases cs with
  | nil => rfl
  | cons c cs => exact List.append_nil _

/-- What is between two marks becomes a literal, unless it is empty. -/
theorem items_between (cs : List Char) :
    (between cs : List (Stretch ι)).flatMap items = segment cs := by
  cases cs with
  | nil => rfl
  | cons c cs => rfl

/-- The stretch between two marks is not empty. -/
theorem ne_nil_of_mem_between {cs other : List Char}
    (h : text other ∈ (between cs : List (Stretch ι))) : other ≠ [] := by
  cases cs with
  | nil => cases h
  | cons c cs =>
      cases List.mem_singleton.mp h
      exact List.cons_ne_nil _ _

/-- A stretch in which no mark starts may stand in front of a mark. -/
theorem Leftmost.between_append {cs : List Char} {stretches : List (Stretch ι)}
    (hclear : Placeholder.Clear cs (stretches.flatMap source))
    (hnext : ∀ next ∈ stretches.head?, next.isText = false) (h : Leftmost stretches) :
    Leftmost (between cs ++ stretches) := by
  cases cs with
  | nil => exact h
  | cons c cs => exact ⟨hclear, hnext, h⟩

end Stretch

/-! ## Marks that are met -/

/-- What is left after a mark with the given number: its interpolation is taken if it is left, and
otherwise the mark is reported as dropped. -/
def Workspace.afterMark (w : Workspace ι) (index : Nat) : Workspace ι :=
  match w.cursor.free? index with
  | some _ => { w with cursor := (w.cursor.mark index).advance }
  | none => { w with events := w.events ++ [.placeholderDropped index w.cursor.size] }

/-- The stretches are met from left to right. Each mark takes the interpolation with its number
exactly if that one is left when the mark is met. -/
def Meets (w : Workspace ι) : List (Stretch ι) → Workspace ι → Prop
  | [], v => w = v
  | .text _ :: more, v => Meets w more v
  | .mark digits taken :: more, v =>
    taken = w.cursor.free? (Text.digitsValue digits) ∧
      Meets (w.afterMark (Text.digitsValue digits)) more v

/-- The stretches of the marks of a text, and of what follows each of them. -/
def markStretches (w : Workspace ι) : List (List Char × List Char) → List (Stretch ι)
  | [] => []
  | (digits, text) :: marks =>
    .mark digits (w.cursor.free? (Text.digitsValue digits)) :: Stretch.between text ++
      markStretches (w.afterMark (Text.digitsValue digits)) marks

/-- What is left after the marks of a text. -/
def Workspace.afterMarks (w : Workspace ι) (marks : List (List Char × List Char)) : Workspace ι :=
  marks.foldl (fun w entry => w.afterMark (Text.digitsValue entry.1)) w

variable (w : Workspace ι)

/-- Outside of strict mode a mark becomes its interpolation if that one is left. -/
theorem yields_take_interpolation (index : Nat) :
    Yields (takeInterpolation false index) w (w.cursor.free? index).toList (w.afterMark index) := by
  unfold Workspace.afterMark
  cases hfree : w.cursor.free? index with
  | none => exact yields_take_interpolation_of_none hfree
  | some item => exact yields_take_interpolation_of_some false hfree

/-- The marks of a text and what follows them become what their stretches do. -/
theorem yields_splice_marks {marks : List (List Char × List Char)}
    (h : ∀ entry ∈ marks, entry.1.length ≤ integerDigitLimit) :
    Yields (spliceMarks false marks) w ((markStretches w marks).flatMap Stretch.items)
      (w.afterMarks marks) := by
  induction marks generalizing w with
  | nil => exact yields_pure.mpr ⟨rfl, rfl⟩
  | cons entry marks ih =>
      obtain ⟨digits, text⟩ := entry
      obtain ⟨hdigits, hmarks⟩ := List.forall_mem_cons.mp h
      have hindex : Placeholder.index digits = .ok (Text.digitsValue digits) :=
        if_neg (Nat.not_lt.mpr hdigits)
      simp only [spliceMarks, yields_bind, yields_lift_except, yields_pure]
      refine ⟨_, w, ⟨hindex, rfl⟩, _, _, yields_take_interpolation w _, _, _, ih _ hmarks, ?_, rfl⟩
      rw [markStretches, List.cons_append, List.flatMap_cons, List.flatMap_append,
        Stretch.items_between, List.append_assoc]
      rfl

/-- What is between two marks changes nothing. -/
theorem meets_between_append {cs : List Char} {stretches : List (Stretch ι)} {v : Workspace ι}
    (h : Meets w stretches v) : Meets w (Stretch.between cs ++ stretches) v := by
  cases cs with
  | nil => exact h
  | cons c cs => exact h

/-- The stretches of marks are met one after the other. -/
theorem meets_mark_stretches (marks : List (List Char × List Char)) :
    Meets w (markStretches w marks) (w.afterMarks marks) := by
  induction marks generalizing w with
  | nil => rfl
  | cons entry marks ih => exact ⟨rfl, meets_between_append _ (ih _)⟩

/-- The stretches of marks are written as the marks are. -/
theorem source_mark_stretches (marks : List (List Char × List Char)) :
    (markStretches w marks).flatMap Stretch.source = Placeholder.markSource marks := by
  induction marks generalizing w with
  | nil => rfl
  | cons entry marks ih =>
      obtain ⟨digits, text⟩ := entry
      rw [markStretches, List.cons_append, List.flatMap_cons, List.flatMap_append,
        Stretch.source_between, ih, ← List.append_assoc]
      rfl

/-- Marks do not start with a stretch between marks. -/
theorem is_text_of_mem_head?_mark_stretches {marks : List (List Char × List Char)} :
    ∀ next ∈ (markStretches w marks).head?, next.isText = false := by
  intro next hnext
  cases marks with
  | nil => cases hnext
  | cons entry marks =>
      cases hnext
      rfl

/-- The stretches between marks are not empty. -/
theorem ne_nil_of_mem_mark_stretches {marks : List (List Char × List Char)} {cs : List Char}
    (h : .text cs ∈ markStretches w marks) : cs ≠ [] := by
  induction marks generalizing w with
  | nil => cases h
  | cons entry marks ih =>
      rcases List.mem_append.mp h with hfirst | hmore
      · rcases List.mem_cons.mp hfirst with heq | hbetween
        · cases heq
        · exact Stretch.ne_nil_of_mem_between hbetween
      · exact ih _ hmore

/-- The pieces of a text are cut at the marks that are found from left to right. -/
theorem leftmost_split (cs : List Char) :
    Placeholder.Clear (Placeholder.split cs).head
      (Placeholder.markSource (Placeholder.split cs).marks) ∧
    Stretch.Leftmost (markStretches w (Placeholder.split cs).marks) := by
  -- The pieces of a text come from those of its rest. The first piece may still grow to the left,
  -- so that it counts as a stretch only when a mark stands in front of it.
  fun_induction Placeholder.split cs generalizing w with
  | case1 => exact ⟨Placeholder.clear_nil _, trivial⟩
  | case2 c rest digits after hfirst pieces ih =>
      obtain ⟨hclear, hleftmost⟩ := ih (w.afterMark (Text.digitsValue digits))
      rw [← source_mark_stretches] at hclear
      exact ⟨Placeholder.clear_nil _, (Placeholder.eq_mark_append_of_first? hfirst).1,
        .between_append hclear (is_text_of_mem_head?_mark_stretches _) hleftmost⟩
  | case3 c rest hfirst pieces ih =>
      obtain ⟨hclear, hleftmost⟩ := ih w
      refine ⟨hclear.cons ?_, hleftmost⟩
      rw [Placeholder.head_append_mark_source_split]
      exact hfirst

/-! ## Spliced texts -/

/-- How the stretches of a text account for the result of splicing it. -/
structure Spliced (value : String) (w : Workspace ι) (stretches : List (Stretch ι))
    (items : List (CallTree ι)) (v : Workspace ι) : Prop where
  /-- Written one after the other, the stretches are the text. -/
  source_eq : stretches.flatMap Stretch.source = value.toList
  /-- The result is what the stretches become, in order. -/
  items_eq : items = stretches.flatMap Stretch.items
  /-- The marks are those that are found from left to right. -/
  leftmost : Stretch.Leftmost stretches
  /-- A mark takes its interpolation exactly if that one is left when the mark is met. -/
  meets : Meets w stretches v
  /-- No literal text holds a mark. -/
  not_has_mark : ∀ cs, .text cs ∈ stretches → ¬ Placeholder.HasMark cs
  /-- A text without marks is one literal, even if it is empty. -/
  whole : ¬ Placeholder.HasMark value.toList → items = [.literal (.text value)]
  /-- Between marks no literal is empty. -/
  ne_nil : Placeholder.HasMark value.toList → ∀ cs, .text cs ∈ stretches → cs ≠ []

/-- A text that is not cut is a stretch of its own. -/
theorem spliced_of_marks_eq_nil {value : String}
    (h : (Placeholder.split value.toList).marks = []) :
    Spliced value w [.text value.toList] [.literal (.text value)] w := by
  obtain ⟨hclear, _⟩ := leftmost_split w value.toList
  rw [Placeholder.head_split_of_marks_eq_nil h, h] at hclear
  have hleftmost : Stretch.Leftmost [(.text value.toList : Stretch ι)] :=
    ⟨hclear, fun _ hnext => (by cases hnext), trivial⟩
  exact {
    source_eq := List.append_nil _
    items_eq := by
      rw [List.flatMap_singleton, Stretch.items, CallTree.text, String.ofList_toList]
    leftmost := hleftmost
    meets := rfl
    not_has_mark := fun _ => hleftmost.not_has_mark
    whole := fun _ => rfl
    ne_nil := fun hmark => absurd hmark hclear.not_has_mark }

/-- A text that is cut consists of its marks and what is between them. -/
theorem spliced_of_marks_ne_nil {value : String}
    (h : (Placeholder.split value.toList).marks ≠ []) :
    Spliced value w
      (Stretch.between (Placeholder.split value.toList).head ++
        markStretches w (Placeholder.split value.toList).marks)
      (segment (Placeholder.split value.toList).head ++
        (markStretches w (Placeholder.split value.toList).marks).flatMap Stretch.items)
      (w.afterMarks (Placeholder.split value.toList).marks) := by
  obtain ⟨hclear, hmarks⟩ := leftmost_split w value.toList
  rw [← source_mark_stretches w] at hclear
  have hleftmost := Stretch.Leftmost.between_append hclear
    (is_text_of_mem_head?_mark_stretches w) hmarks
  exact {
    source_eq := by
      rw [List.flatMap_append, Stretch.source_between, source_mark_stretches,
        Placeholder.head_append_mark_source_split]
    items_eq := by rw [List.flatMap_append, Stretch.items_between]
    leftmost := hleftmost
    meets := meets_between_append w (meets_mark_stretches w _)
    not_has_mark := fun _ => hleftmost.not_has_mark
    whole := fun hnone => absurd (Placeholder.has_mark_of_marks_ne_nil h) hnone
    ne_nil := fun _ cs hcs => (List.mem_append.mp hcs).elim Stretch.ne_nil_of_mem_between
      (ne_nil_of_mem_mark_stretches w) }

/-- Splicing loses no text. Outside of strict mode, whatever interpolations are left, a text whose
placeholders have numbers that are short enough to be read is spliced, and its stretches account
for the result. -/
theorem splice_stretches (value : String)
    (h : ∀ digits ∈ Placeholder.digitsOf value.toList, digits.length ≤ integerDigitLimit) :
    ∃ stretches items v,
      Yields (splice false value) w items v ∧ Spliced value w stretches items v := by
  by_cases hmarks : (Placeholder.split value.toList).marks = []
  · refine ⟨_, _, _, ?_, spliced_of_marks_eq_nil w hmarks⟩
    rw [splice_of_marks_eq_nil false hmarks]
    exact yields_pure.mpr ⟨rfl, rfl⟩
  · refine ⟨_, _, _, ?_, spliced_of_marks_ne_nil w hmarks⟩
    have hshort : ∀ entry ∈ (Placeholder.split value.toList).marks,
        entry.1.length ≤ integerDigitLimit :=
      fun entry hentry => h _ (List.mem_map_of_mem hentry)
    rw [splice_of_marks_ne_nil false hmarks]
    exact yields_bind.mpr ⟨_, _, yields_splice_marks w hshort, yields_pure.mpr ⟨rfl, rfl⟩⟩

/-- Marks that overlap, touch, come twice or are written in other digits, where the interpolation
with the number one has been taken before. -/
theorem splice_stretches_overlapping :
    let value := "a/~1~/~2~/b/~02~//~٣~//~3~/"
    let w : Workspace Nat := ⟨.afterTaking ([10, 11, 12, 13].map .interpolation) [1], []⟩
    (∀ digits ∈ Placeholder.digitsOf value.toList, digits.length ≤ integerDigitLimit) ∧
    ∃ stretches items v,
      Yields (splice false value) w items v ∧ Spliced value w stretches items v :=
  ⟨by decide +kernel, splice_stretches _ _ (by decide +kernel)⟩

end ElementMarkup.Compiler
