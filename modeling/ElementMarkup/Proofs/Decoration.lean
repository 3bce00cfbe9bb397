import ElementMarkup.Fault.Template
import ElementMarkup.Proofs.Text
import Mathlib.Data.List.Forall2

/-!
# Reports with and without colours

Colours change nothing but the looks of a report: if the texts of a fault hold no escape character,
then removing the control sequences from its coloured report gives the report without colours. Read
`Decorates` first. It relates a text to the same text with codes of styles in it, it holds between
the two forms of everything that is painted, and what is put together from such pairs is such a pair
again. Main statement: `strip_report`.
-/

namespace ElementMarkup.Terminal

/-! ## Control sequences -/

/-- The second text is the first one, which holds no escape character, with the codes of styles put
in at any places. -/
inductive Decorates : List Char → List Char → Prop where
  | nil : Decorates [] []
  | char {c : Char} {plain styled : List Char} (hc : c ≠ '\x1b') :
      Decorates plain styled → Decorates (c :: plain) (c :: styled)
  | code (style : Style) {plain styled : List Char} :
      Decorates plain styled → Decorates plain (style.code.toList ++ styled)

/-- The code of a style is one control sequence. What follows it does not matter, since its last
letter closes it. -/
theorem strip_chars_code_append (style : Style) (rest : List Char) :
    stripChars (style.code.toList ++ rest) = stripChars rest := by
  obtain ⟨cs, hcode, hafter⟩ :
      ∃ cs, style.code.toList = '\x1b' :: cs ∧ afterControl? (cs ++ rest) = some rest := by
    cases style <;> exact ⟨_, rfl, rfl⟩
  rw [hcode, List.cons_append, stripChars, if_pos rfl]
  split
  · rename_i heq
    rw [hafter] at heq
    cases heq
    rfl
  · rename_i heq
    rw [hafter] at heq
    cases heq

/-- Without its control sequences the decorated text is the plain one. -/
theorem Decorates.strip_chars_eq {plain styled : List Char} (h : Decorates plain styled) :
    stripChars styled = plain := by
  induction h with
  | nil => rw [stripChars]
  | char hc _ ih => rw [stripChars, if_neg hc, ih]
  | code style _ ih => rw [strip_chars_code_append, ih]

/-- Decorated texts in a row are decorated. -/
theorem Decorates.append {plain styled more styledMore : List Char} (h : Decorates plain styled)
    (hmore : Decorates more styledMore) : Decorates (plain ++ more) (styled ++ styledMore) := by
  induction h with
  | nil => exact hmore
  | char hc _ ih => exact .char hc ih
  | code style _ ih =>
      rw [List.append_assoc]
      exact .code style ih

/-- A text without escape characters need not be decorated at all. -/
theorem decorates_self {cs : List Char} (h : '\x1b' ∉ cs) : Decorates cs cs := by
  induction cs with
  | nil => exact .nil
  | cons c cs ih =>
      obtain ⟨hc, hcs⟩ := List.ne_and_not_mem_of_not_mem_cons h
      exact .char (Ne.symm hc) (ih hcs)

/-! ## Painted strings -/

/-- A string without escape characters. -/
def IsPlain (s : String) : Prop :=
  '\x1b' ∉ s.toList

instance (s : String) : Decidable (IsPlain s) :=
  inferInstanceAs (Decidable ('\x1b' ∉ s.toList))

/-- Strings in a row hold no escape character if none of them does. -/
theorem IsPlain.append {s t : String} (hs : IsPlain s) (ht : IsPlain t) : IsPlain (s ++ t) := by
  unfold IsPlain
  rw [String.toList_append, List.mem_append]
  exact not_or_intro hs ht

/-- A number is written without escape characters. -/
theorem is_plain_to_string (n : Int) : IsPlain (toString n) := by
  have hdigits (k : Nat) : IsPlain (Nat.repr k) := by
    intro hmem
    rw [Nat.repr, String.toList_ofList] at hmem
    exact absurd (Nat.isDigit_of_mem_toDigits (by decide) (by decide) hmem) (by decide)
  cases n with
  | ofNat k => exact hdigits k
  | negSucc k => exact (by decide : IsPlain "-").append (hdigits (k + 1))

/-- Blanks are no escape characters. -/
theorem is_plain_replicate (n : Nat) : IsPlain (String.ofList (List.replicate n ' ')) := by
  intro hmem
  rw [String.toList_ofList] at hmem
  exact absurd (List.eq_of_mem_replicate hmem) (by decide)

/-- The second string is the first one with the codes of styles in it. -/
def Styled (plain styled : String) : Prop :=
  Decorates plain.toList styled.toList

/-- Without its control sequences a string in styles is the plain one. -/
theorem Styled.strip_eq {plain styled : String} (h : Styled plain styled) :
    strip styled = plain := by
  rw [strip, h.strip_chars_eq, String.ofList_toList]

/-- Strings in a row are put in styles one by one. -/
theorem Styled.append {plain styled more styledMore : String} (h : Styled plain styled)
    (hmore : Styled more styledMore) : Styled (plain ++ more) (styled ++ styledMore) := by
  unfold Styled
  rw [String.toList_append, String.toList_append]
  exact Decorates.append h hmore

/-- A string without escape characters may stay as it is. -/
theorem IsPlain.styled {s : String} (h : IsPlain s) : Styled s s :=
  decorates_self h

/-- Joined strings are put in styles one by one, apart from what stands between them. -/
theorem styled_join_strings {separator : String} (hseparator : IsPlain separator)
    {plain styled : List String} (h : List.Forall₂ Styled plain styled) :
    Styled (Text.joinStrings separator plain) (Text.joinStrings separator styled) := by
  unfold Text.joinStrings
  induction h with
  | nil =>
      rw [String.intercalate_nil]
      exact IsPlain.styled (by decide)
  | cons hfirst hrest ih =>
      cases hrest with
      | nil => simpa only [String.intercalate_singleton] using hfirst
      | cons hnext hmore =>
          rw [String.intercalate_cons_cons, String.intercalate_cons_cons]
          exact (hfirst.append hseparator.styled).append ih

/-- The code of a style shows nothing. -/
theorem styled_code (style : Style) : Styled "" style.code := by
  have h := Decorates.code style .nil
  rwa [List.append_nil] at h

/-- The codes of styles in a row show nothing. -/
theorem styled_codes (styles : List Style) :
    Styled "" (String.join (styles.map Style.code)) := by
  induction styles with
  | nil => exact IsPlain.styled (by decide)
  | cons style styles ih =>
      rw [List.map_cons, String.join_cons]
      exact (styled_code style).append ih

/-- Painting puts a string in styles. -/
theorem styled_paint (styles : List Style) {text : String} (h : IsPlain text) :
    Styled (paint false styles text) (paint true styles text) := by
  cases styles with
  | nil => exact h.styled
  | cons style styles =>
      have hpainted :=
        ((styled_codes (style :: styles)).append h.styled).append (styled_code .reset)
      rwa [String.empty_append, String.append_empty] at hpainted

/-- The first line of a report is put in styles. -/
theorem styled_error_header {code : Option String} (hcode : ∀ s ∈ code, IsPlain s)
    {message : String} (hmessage : IsPlain message) :
    Styled (errorHeader false code message) (errorHeader true code message) := by
  cases code with
  | none => exact hmessage.styled
  | some code =>
      unfold errorHeader
      dsimp only
      split
      · exact hmessage.styled
      · exact ((styled_paint _ (hcode code rfl)).append (IsPlain.styled (by decide))).append
          hmessage.styled

/-- A number with blanks in front holds no escape character. -/
theorem is_plain_padded_number (n : Int) : IsPlain (paddedNumber n) :=
  (is_plain_replicate _).append (is_plain_to_string n)

/-- A numbered line of source is put in styles, which differ for the one at fault. -/
theorem styled_source_line (number : Int) {content : String} (h : IsPlain content)
    (atFault : Bool) :
    Styled (sourceLine false number content atFault) (sourceLine true number content atFault) := by
  have hmarker : IsPlain (if atFault then ">" else " ") := by
    cases atFault <;> decide
  have hnumber := styled_paint [.yellow] (hmarker.append (is_plain_padded_number number))
  refine (hnumber.append (IsPlain.styled (by decide))).append ?_
  cases atFault with
  | true => exact styled_paint [.brightRed] h
  | false => exact styled_paint [.dim] h

end ElementMarkup.Terminal

namespace ElementMarkup.Snippet

open Terminal

/-- The lines of a snippet are framed and put in styles. -/
theorem styled_format {s : Snippet} (h : ∀ line ∈ s.lines, IsPlain line.2) :
    Styled (s.format false) (s.format true) := by
  have hbar : Styled (dimmed false "   |") (dimmed true "   |") := styled_paint _ (by decide)
  have hcaret (column : Int) : IsPlain (blanks column ++ "^") :=
    (is_plain_replicate _).append (by decide)
  unfold format
  refine styled_join_strings (by decide) (.cons hbar ?_)
  refine List.rel_append (List.rel_append ?_ ?_) (.cons hbar .nil)
  · rw [List.forall₂_map_left_iff, List.forall₂_map_right_iff, List.forall₂_same]
    intro line hline
    exact styled_source_line line.1 (h line hline) _
  · cases s.column with
    | none => exact .nil
    | some column =>
        exact .cons ((hbar.append (IsPlain.styled (by decide))).append
          (styled_paint _ (hcaret column))) .nil

/-- A snippet shows lines of its source. -/
theorem is_plain_of_source {source : String} (h : IsPlain source) (errorLine context : Int)
    (column : Option Int) :
    ∀ line ∈ (ofSource source errorLine context column).lines, IsPlain line.2 := by
  intro line hline
  have hmem := (List.of_mem_zip (List.mem_of_mem_take (List.mem_of_mem_drop hline))).2
  obtain ⟨cs, hcs, heq⟩ := List.mem_map.mp hmem
  intro hescape
  rw [← heq, String.toList_ofList] at hescape
  exact h ((Text.mem_of_mem_display_lines_from hcs hescape).resolve_left List.not_mem_nil)

end ElementMarkup.Snippet

namespace ElementMarkup.TemplateFault

open Terminal

/-- The texts that the report of a fault is put together from. -/
def texts : TemplateFault → List String
  | badSyntax _ fault =>
    fault.problem.message :: fault.name.toList ++ fault.source.toList ++
      fault.problem.suggestion?.toList
  | fault => fault.message :: fault.suggestion?.toList

/-- The line that gives advice is put in styles. -/
theorem styled_advice_lines {suggestion : Option String} (h : ∀ s ∈ suggestion, IsPlain s) :
    List.Forall₂ Styled (adviceLines false suggestion) (adviceLines true suggestion) := by
  cases suggestion with
  | none => exact .nil
  | some suggestion =>
      have hhint : Styled ("  " ++ hint false "Hint:" ++ " ") ("  " ++ hint true "Hint:" ++ " ") :=
        ((IsPlain.styled (by decide)).append (styled_paint _ (by decide))).append
          (IsPlain.styled (by decide))
      unfold adviceLines
      dsimp only
      split
      · exact .nil
      · exact .cons (hhint.append (h suggestion rfl).styled) .nil

/-- The place of a problem holds no escape character if the name of the template does not. -/
theorem is_plain_location {fault : SyntaxFault} (h : ∀ s ∈ fault.name, IsPlain s) :
    IsPlain fault.location := by
  have hlabel : IsPlain (templateLabel fault.name) := by
    unfold templateLabel
    split
    · rename_i name hname
      split
      · decide
      · exact h name hname
    · decide
  unfold SyntaxFault.location
  split
  · rename_i line _
    split
    · exact hlabel
    · refine ((hlabel.append (by decide)).append (is_plain_to_string line)).append ?_
      split
      · rename_i column _
        exact (by decide : IsPlain ":").append (is_plain_to_string column)
      · decide
  · exact hlabel

/-- The lines that show the place of a problem are put in styles. -/
theorem styled_place_lines {fault : SyntaxFault} (hname : ∀ s ∈ fault.name, IsPlain s)
    (hsource : ∀ s ∈ fault.source, IsPlain s) :
    List.Forall₂ Styled (placeLines false fault) (placeLines true fault) := by
  have harrow : IsPlain "  --> " := by decide
  refine .cons (harrow.styled.append (styled_paint _ (is_plain_location hname))) ?_
  cases hshown : fault.shownSource? with
  | none => exact .nil
  | some shown =>
      have hmem : shown.1 ∈ fault.source := by
        unfold SyntaxFault.shownSource? at hshown
        split at hshown
        · rename_i source line heq _
          split at hshown
          · cases hshown
          · cases hshown
            exact heq
        · cases hshown
      exact .cons (Snippet.styled_format (Snippet.is_plain_of_source (hsource _ hmem) _ _ _)) .nil

/-- The code of a fault holds no escape character. -/
theorem is_plain_code (fault : TemplateFault) :
    ∀ s ∈ fault.code?.map FaultCode.text, IsPlain s := by
  intro s hs
  obtain ⟨code, _, rfl⟩ := Option.map_eq_some_iff.mp hs
  cases code <;> decide

/-- The report of a fault is put in styles. -/
theorem styled_report {fault : TemplateFault} (h : ∀ s ∈ fault.texts, IsPlain s) :
    Styled (fault.report false) (fault.report true) := by
  have hreport {message : String} (hmessage : IsPlain message) {plain styled : List String}
      (hmore : List.Forall₂ Styled plain styled) :=
    styled_join_strings (by decide : IsPlain "\n")
      (.cons (styled_error_header fault.is_plain_code hmessage) hmore)
  cases fault with
  | badSyntax stage fault =>
      have hmessage : IsPlain fault.problem.message := h _ (by simp [texts])
      have hname : ∀ s ∈ fault.name, IsPlain s := fun s hs => h s (by simp_all [texts])
      have hsource : ∀ s ∈ fault.source, IsPlain s := fun s hs => h s (by simp_all [texts])
      have hadvice : ∀ s ∈ fault.problem.suggestion?, IsPlain s :=
        fun s hs => h s (by simp_all [texts])
      exact hreport hmessage
        (List.rel_append (styled_place_lines hname hsource) (styled_advice_lines hadvice))
  -- Only a problem with markup has a place to show.
  | general | emptyTemplate | noParseResult | multipleRoots | unsupportedNode
  | unmatchedPlaceholder | tooDeep | notFound | circular =>
      have hmore := styled_advice_lines fun s hs =>
        h s (List.mem_cons_of_mem _ (Option.mem_toList.mpr hs))
      exact hreport (h _ List.mem_cons_self) hmore

end ElementMarkup.TemplateFault

namespace ElementMarkup.Terminal

/-- Colours are pure decoration. Whatever the fault, if none of the texts in it holds an escape
character, then its coloured report without the control sequences is its report without colours; and
so it is for every snippet. -/
theorem strip_report :
    (∀ fault : TemplateFault, (∀ s ∈ fault.texts, '\x1b' ∉ s.toList) →
      strip (fault.report true) = fault.report false) ∧
    ∀ snippet : Snippet, (∀ line ∈ snippet.lines, '\x1b' ∉ line.2.toList) →
      strip (snippet.format true) = snippet.format false :=
  ⟨fun _ h => (TemplateFault.styled_report h).strip_eq,
    fun _ h => (Snippet.styled_format h).strip_eq⟩

/-- Texts that go on like a control sequence behind the codes of styles. -/
theorem strip_report_brackets :
    strip ((TemplateFault.badSyntax .parsing
        ⟨.other "[0m" (some ";1m"), some 2, some 1, some "[m", some "9m\r\n[36m"⟩).report true) =
      "PT-PAR-001: [0m\n  --> [m:2:1\n   |\n   1 | 9m\n>  2 | [36m\n   |  ^\n   |\n  Hint: ;1m" ∧
    strip (Snippet.format true ⟨[(9, "[2m"), (10, "91m")], 10, none⟩) =
      "   |\n   9 | [2m\n> 10 | 91m\n   |" :=
  ⟨strip_report.1 _ (by decide), strip_report.2 _ (by decide)⟩

end ElementMarkup.Terminal
