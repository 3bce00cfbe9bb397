import ElementMarkup.Proofs.Attempt
import ElementMarkup.Token.Lexer
import Mathlib.Combinatorics.Enumerative.DyckWord

/-!
# The grammar of tokens

The tokens of a source are lines with changes of indentation between them. `IsContent` says which
tokens can stand on a line, and `Stream depth tokens` which tokens can follow the end of a line
inside which `depth` levels are open: a line one level deeper, a line after some levels have been
closed, or the end of the source after all of them have. Main statement: `stream_scan`, the tokens
of a source are such a stream. What a reader of tokens relies on is collected in `WellFormed`.
-/

namespace ElementMarkup

/-! ## Lexemes -/

namespace Lexeme

/-- A level of indentation opens. -/
def isIndent : Lexeme → Bool
  | indent _ => true
  | _ => false

/-- A level of indentation ends. -/
def isOutdent : Lexeme → Bool
  | outdent _ => true
  | _ => false

/-- The shorthand of an attribute, or an attribute. -/
def isAttribute : Lexeme → Bool
  | idName _ => true
  | className _ => true
  | attributePair _ _ => true
  | _ => false

/-- A lexeme that stands inside a line: no change of indentation, no end of a line and no end of the
source. -/
def isInside : Lexeme → Bool
  | indent _ => false
  | outdent _ => false
  | newline => false
  | endOfSource => false
  | _ => true

/-- The change of level that a lexeme stands for, if it does for one. -/
def levelStep : Lexeme → Option DyckStep
  | indent _ => some .U
  | outdent _ => some .D
  | _ => none

/-- An attribute stands inside a line. -/
theorem is_inside_of_is_attribute {l : Lexeme} (h : l.isAttribute = true) : l.isInside = true := by
  cases l <;> simp_all [isAttribute, isInside]

/-- No level opens or ends inside a line. -/
theorem level_step_of_is_inside {l : Lexeme} (h : l.isInside = true) :
    l.isIndent = false ∧ l.isOutdent = false ∧ l.levelStep = none := by
  cases l <;> simp_all [isInside, isIndent, isOutdent, levelStep]

/-- A level that opens does not end. -/
theorem level_step_of_is_indent {l : Lexeme} (h : l.isIndent = true) : l.levelStep = some .U := by
  cases l <;> simp_all [isIndent, levelStep]

/-- A level that ends does not open. -/
theorem level_step_of_is_outdent {l : Lexeme} (h : l.isOutdent = true) :
    l.isIndent = false ∧ l.levelStep = some .D := by
  cases l <;> simp_all [isIndent, isOutdent, levelStep]

end Lexeme

namespace Token

/-- The lexemes of tokens. -/
def lexemes (tokens : List Token) : List Lexeme :=
  tokens.map (·.lexeme)

/-- What can follow the attributes of a tag at the end of a line. -/
inductive IsInline : List Lexeme → Prop where
  | nothing : IsInline []
  | dot : IsInline [.dot]
  | textBlock (value) : IsInline [.dot, .text value]
  | text (value) : IsInline [.text value]

/-- What can stand on a line: a text, a directive, a tag with its attributes and inline content, or
a tag with its attributes, a colon and something else that can stand on a line. -/
inductive IsContent : List Lexeme → Prop where
  | text (value) : IsContent [.text value]
  | blockName (name) : IsContent [.blockName (.text name)]
  | extendsPath (path) : IsContent [.extendsPath path]
  | includePath (path) : IsContent [.includePath path]
  | tag (name) {attributes inline : List Lexeme} :
      (∀ l ∈ attributes, l.isAttribute = true) → IsInline inline →
      IsContent (.tagName name :: attributes ++ inline)
  | expansion (name) {attributes inner : List Lexeme} :
      (∀ l ∈ attributes, l.isAttribute = true) → IsContent inner →
      IsContent (.tagName name :: attributes ++ .colon :: inner)

/-- What can follow the name of a tag on a line. -/
inductive IsRest : List Lexeme → Prop where
  | inline {inline : List Lexeme} : IsInline inline → IsRest inline
  | colon {inner : List Lexeme} : IsContent inner → IsRest (.colon :: inner)
  | cons {l : Lexeme} {rest : List Lexeme} :
      l.isAttribute = true → IsRest rest → IsRest (l :: rest)

/-- What follows the name of a tag is attributes, and then inline content or a colon. -/
theorem IsRest.is_content (name : String) {rest : List Lexeme} (h : IsRest rest) :
    IsContent (.tagName name :: rest) := by
  suffices hparts : ∃ attributes after, rest = attributes ++ after ∧
      (∀ l ∈ attributes, l.isAttribute = true) ∧
      (IsInline after ∨ ∃ inner, after = .colon :: inner ∧ IsContent inner) by
    obtain ⟨attributes, after, rfl, hattributes, hinline | ⟨inner, rfl, hinner⟩⟩ := hparts
    · exact .tag name hattributes hinline
    · exact .expansion name hattributes hinner
  induction h with
  | inline h => exact ⟨[], _, rfl, by simp, .inl h⟩
  | colon h => exact ⟨[], _, rfl, by simp, .inr ⟨_, rfl, h⟩⟩
  | cons hl _ ih =>
      obtain ⟨attributes, after, rfl, hattributes, hafter⟩ := ih
      exact ⟨_ :: attributes, after, rfl, List.forall_mem_cons.mpr ⟨hl, hattributes⟩, hafter⟩

/-- Several attributes can follow the name of a tag. -/
theorem IsRest.append {attributes rest : List Lexeme}
    (hattributes : ∀ l ∈ attributes, l.isAttribute = true) (h : IsRest rest) :
    IsRest (attributes ++ rest) := by
  induction attributes with
  | nil => exact h
  | cons l attributes ih =>
      obtain ⟨hl, hmore⟩ := List.forall_mem_cons.mp hattributes
      exact .cons hl (ih hmore)

/-! ## Lines -/

/-- The token of an attribute is an attribute. -/
theorem is_attribute_of_attribute_pair {line column : Nat} {cs rest : List Char} {t : Token}
    (h : Line.attributePair line column cs = .ok (t, rest)) : t.lexeme.isAttribute = true := by
  unfold Line.attributePair at h
  dsimp only at h
  split at h
  · cases h
  · split at h
    · obtain ⟨⟨value, after⟩, _, hend⟩ := Attempt.bind_eq_ok.mp h
      cases hend
      rfl
    · cases h
      rfl

/-- The tokens of an attribute list are attributes. -/
theorem is_attribute_of_attribute_list {line column : Nat} {cs rest : List Char}
    {tokens : List Token} (h : Line.attributeList line column cs = .ok (tokens, rest)) :
    ∀ l ∈ lexemes tokens, l.isAttribute = true := by
  fun_induction Line.attributeList line column cs generalizing tokens rest with
  | case1 => cases h
  | case2 =>
      cases h
      simp [lexemes]
  | case3 => cases h
  | case4 =>
      rename_i hpair ih
      obtain ⟨⟨more, beyond⟩, hmore, hend⟩ := Attempt.bind_eq_ok.mp h
      cases hend
      exact List.forall_mem_cons.mpr ⟨is_attribute_of_attribute_pair hpair, ih hmore⟩

/-- The token of a directive can stand on a line. -/
theorem is_content_directive_token {line column : Nat} {directive : Directive}
    {argument : List Char} {t : Token}
    (h : Line.directiveToken line column directive argument = .ok t) : IsContent [t.lexeme] := by
  unfold Line.directiveToken at h
  split at h
  · cases h
  · cases h
    cases directive with
    | extendsPath => exact .extendsPath _
    | includePath => exact .includePath _
    | blockName => exact .blockName _

mutual

/-- The tokens of a line's content can stand on a line. -/
theorem is_content_tokens {line column : Nat} {cs : List Char} {tokens : List Token}
    (h : Line.tokens line column cs = .ok tokens) : IsContent (lexemes tokens) := by
  rw [Line.tokens] at h
  split at h
  · cases h
    exact .text _
  · split at h
    · cases h
      exact .text _
    · split at h
      · obtain ⟨t, ht, hend⟩ := Attempt.bind_eq_ok.mp h
        cases hend
        exact is_content_directive_token ht
      · dsimp only at h
        split at h
        · obtain ⟨more, hmore, hend⟩ := Attempt.bind_eq_ok.mp h
          cases hend
          exact (is_rest_tag_tokens hmore).is_content _
        · split at h
          · obtain ⟨more, hmore, hend⟩ := Attempt.bind_eq_ok.mp h
            cases hend
            exact (is_rest_tag_tokens hmore).is_content _
          · cases h
termination_by 2 * cs.length + 1

/-- The tokens of what follows the name of a tag can follow it. -/
theorem is_rest_tag_tokens {line column : Nat} {cs : List Char} {tokens : List Token}
    (h : Line.tagTokens line column cs = .ok tokens) : IsRest (lexemes tokens) := by
  rw [Line.tagTokens.eq_def] at h
  rcases hcs : cs with _ | ⟨c, rest⟩
  · rw [hcs] at h
    cases h
    exact .inline .nothing
  · have hlength : cs.length = rest.length + 1 := by rw [hcs]; rfl
    rw [hcs] at h
    dsimp only at h
    split at h
    · -- The name of an id follows a hash.
      split at h
      · cases h
      · obtain ⟨more, hmore, hend⟩ := Attempt.bind_eq_ok.mp h
        cases hend
        exact .cons rfl (is_rest_tag_tokens hmore)
    · split at h
      · -- The name of a class follows a dot, which ends the line if there is none.
        split at h
        · obtain ⟨more, hmore, hend⟩ := Attempt.bind_eq_ok.mp h
          cases hend
          exact .cons rfl (is_rest_tag_tokens hmore)
        · split at h
          · cases h
            exact .inline .dot
          · cases h
      · split at h
        · -- Attributes stand in parentheses.
          split at h
          · cases h
          · rename_i attributes after hlist
            have hshorter := Line.length_lt_of_attribute_list hlist
            obtain ⟨more, hmore, hend⟩ := Attempt.bind_eq_ok.mp h
            cases hend
            rw [lexemes, List.map_append]
            exact .append (is_attribute_of_attribute_list hlist) (is_rest_tag_tokens hmore)
        · split at h
          · -- Another content of a line follows a colon.
            split at h
            · cases h
            · have hshorter := Text.length_trim_start_le rest
              obtain ⟨more, hmore, hend⟩ := Attempt.bind_eq_ok.mp h
              cases hend
              exact .colon (is_content_tokens hmore)
          · split at h
            · -- A text follows a space.
              split at h
              · cases h
                exact .inline .nothing
              · cases h
                exact .inline (.text _)
            · cases h
termination_by 2 * cs.length

end

/-- The content of a line starts with an item. -/
theorem IsContent.ne_nil {ls : List Lexeme} (h : IsContent ls) : ls ≠ [] := by
  cases h <;> simp

/-- The content of a line stands inside the line. -/
theorem IsContent.is_inside {ls : List Lexeme} (h : IsContent ls) :
    ∀ l ∈ ls, l.isInside = true := by
  induction h with
  | text | blockName | extendsPath | includePath => simp [Lexeme.isInside]
  | tag name ha hinline =>
      rw [List.cons_append, List.forall_mem_cons, List.forall_mem_append]
      refine ⟨rfl, fun l hl => Lexeme.is_inside_of_is_attribute (ha l hl), ?_⟩
      cases hinline <;> simp [Lexeme.isInside]
  | expansion name ha _ ih =>
      rw [List.cons_append, List.forall_mem_cons, List.forall_mem_append, List.forall_mem_cons]
      exact ⟨rfl, fun l hl => Lexeme.is_inside_of_is_attribute (ha l hl), rfl, ih⟩

/-- The content of a line changes no level. -/
theorem IsContent.level_step {content : List Token} (h : IsContent (lexemes content)) {t : Token}
    (ht : t ∈ content) :
    t.lexeme.isIndent = false ∧ t.lexeme.isOutdent = false ∧ t.lexeme.levelStep = none :=
  Lexeme.level_step_of_is_inside (h.is_inside _ (List.mem_map_of_mem ht))

/-- The text of a block can follow the dot that opens it. -/
theorem IsContent.concat_text {ls : List Lexeme} (h : IsContent ls)
    (hdot : ls.getLast? = some .dot) (value : String) : IsContent (ls ++ [.text value]) := by
  induction h with
  | text | blockName | extendsPath | includePath => simp at hdot
  | @tag name attributes inline ha hinline =>
      rw [List.append_assoc]
      cases hinline with
      | nothing =>
          -- The last lexeme is the name of the tag or an attribute.
          have hmem := List.mem_of_getLast? hdot
          rw [List.append_nil, List.mem_cons] at hmem
          rcases hmem with hname | hmem
          · cases hname
          · exact absurd (ha _ hmem) (by decide)
      | dot => exact .tag name ha (.textBlock value)
      | textBlock | text =>
          rw [List.getLast?_append_of_ne_nil _ (List.cons_ne_nil _ _)] at hdot
          cases hdot
  | @expansion name attributes inner ha hinner ih =>
      have hlast : inner.getLast? = some .dot := by
        rwa [List.append_cons, List.getLast?_append_of_ne_nil _ hinner.ne_nil] at hdot
      rw [List.append_assoc]
      exact .expansion name ha (ih hlast)

/-! ## Levels -/

/-- Each level that is closed gives a token. -/
theorem close_to_spec {line width : Nat} {levels rest : List Nat} {tokens : List Token}
    (h : Layout.closeTo line width levels = (tokens, rest)) :
    (∀ t ∈ tokens, t.lexeme.isOutdent = true) ∧ rest.length + tokens.length = levels.length := by
  induction levels generalizing tokens with
  | nil =>
      cases h
      exact ⟨by simp, rfl⟩
  | cons level levels ih =>
      rw [Layout.closeTo] at h
      split at h
      · cases hmore : Layout.closeTo line width levels with
        | mk more left =>
            rw [hmore] at h
            cases h
            obtain ⟨houtdent, hlength⟩ := ih hmore
            refine ⟨List.forall_mem_cons.mpr ⟨rfl, houtdent⟩, ?_⟩
            simp only [List.length_cons]
            omega
      · cases h
        exact ⟨by simp, rfl⟩

/-- A line opens one level, or closes some. -/
theorem move_to_spec {layout moved : Layout} {line width : Nat} {tokens : List Token}
    (h : layout.moveTo line width = .ok (tokens, moved)) :
    (∃ t, tokens = [t] ∧ t.lexeme.isIndent = true ∧
      moved.levels.length = layout.levels.length + 1) ∨
    ((∀ t ∈ tokens, t.lexeme.isOutdent = true) ∧
      moved.levels.length + tokens.length = layout.levels.length) := by
  unfold Layout.moveTo at h
  split at h
  · cases h
    exact .inl ⟨_, rfl, rfl, rfl⟩
  · cases hclose : Layout.closeTo line width layout.levels with
    | mk closing levels =>
        rw [hclose] at h
        dsimp only at h
        split at h
        · cases h
          exact .inr (close_to_spec hclose)
        · cases h

/-- Checking the indentation of a line does not change the levels. -/
theorem levels_accept {layout accepted : Layout} {gap : List Char}
    (h : layout.accept gap = .ok accepted) : accepted.levels = layout.levels := by
  unfold Layout.accept at h
  split at h
  · cases h
    rfl
  · split at h
    · cases h
    · split at h
      · cases h
        rfl
      · split at h
        · cases h
          rfl
        · cases h

/-- A line that is not blank gives the tokens for its change of indentation, a content and an end of
line. -/
theorem scan_line_spec {layout after : Layout} {number passed : Nat} {line : List Char}
    {below : List (List Char)} {tokens : List Token}
    (h : scanLine layout number line below = .ok (tokens, after, passed)) :
    ∃ accepted indentation content ending,
      layout.accept (line.take (Layout.indentWidth line)) = .ok accepted ∧
      accepted.moveTo number (Layout.indentWidth line) = .ok (indentation, after) ∧
      tokens = indentation ++ content ++ [ending] ∧ IsContent (lexemes content) ∧
      ending.lexeme = .newline := by
  unfold scanLine at h
  dsimp only at h
  obtain ⟨accepted, haccept, h⟩ := Attempt.bind_eq_ok.mp h
  obtain ⟨⟨indentation, moved⟩, hmove, h⟩ := Attempt.bind_eq_ok.mp h
  obtain ⟨content, hcontent, h⟩ := Attempt.bind_eq_ok.mp h
  have hline := is_content_tokens hcontent
  split at h
  · rename_i hopens
    cases h
    let block := TextBlock.tokens number (Layout.indentWidth line) below
    refine ⟨accepted, indentation, content ++ block, ⟨.newline, ⟨number, line.length⟩⟩, haccept,
      hmove, ?_, ?_, rfl⟩
    · rw [← List.append_assoc indentation]
    show IsContent (lexemes (content ++ TextBlock.tokens _ _ _))
    unfold TextBlock.tokens
    dsimp only
    split
    · rwa [List.append_nil]
    · have hdot : (lexemes content).getLast? = some .dot := by
        unfold opensBlock at hopens
        unfold lexemes
        rw [List.getLast?_map]
        cases hlast : content.getLast? with
        | none => simp [hlast] at hopens
        | some t => simpa [hlast] using hopens
      rw [lexemes, List.map_append]
      exact hline.concat_text hdot _
  · cases h
    exact ⟨accepted, indentation, content, _, haccept, hmove, rfl, hline, rfl⟩

/-! ## Streams -/

/-- What can follow the end of a line inside which `depth` levels are open. -/
inductive Stream : Nat → List Token → Prop where
  | finish {closing : List Token} {ending : Token} :
      (∀ t ∈ closing, t.lexeme.isOutdent = true) → ending.lexeme = .endOfSource →
      Stream closing.length (closing ++ [ending])
  | deeper {depth : Nat} {opening ending : Token} {content more : List Token} :
      opening.lexeme.isIndent = true → IsContent (lexemes content) → ending.lexeme = .newline →
      Stream (depth + 1) more → Stream depth (opening :: content ++ ending :: more)
  | level {depth : Nat} {closing content more : List Token} {ending : Token} :
      (∀ t ∈ closing, t.lexeme.isOutdent = true) → IsContent (lexemes content) →
      ending.lexeme = .newline → Stream depth more →
      Stream (depth + closing.length) (closing ++ (content ++ ending :: more))

/-- The lines of a source give a stream for the levels that are open. -/
theorem stream_scan_lines {layout : Layout} {number passed : Nat} {lines : List (List Char)}
    {tokens : List Token} (h : scanLines layout number passed lines = .ok tokens) :
    Stream layout.levels.length tokens := by
  induction lines generalizing layout number passed tokens with
  | nil =>
      rw [scanLines] at h
      cases h
      have hlength : layout.levels.length = (layout.levels.map fun _ =>
          (⟨.outdent none, ⟨(number - 1 : Nat), 0⟩⟩ : Token)).length := by simp
      rw [hlength]
      exact .finish (by simp [Lexeme.isOutdent]) rfl
  | cons line below ih =>
      cases passed with
      | succ passed => exact ih h
      | zero =>
          rw [scanLines] at h
          split at h
          · exact ih h
          · split at h
            · cases h
            · rename_i hline
              obtain ⟨more, hmore, hend⟩ := Attempt.bind_eq_ok.mp h
              cases hend
              obtain ⟨accepted, indentation, content, ending, haccept, hmove, rfl, hcontent,
                hending⟩ := scan_line_spec hline
              rw [← levels_accept haccept]
              rcases move_to_spec hmove with ⟨t, rfl, ht, hlevels⟩ | ⟨houtdent, hlevels⟩
              · have hstream := Stream.deeper ht hcontent hending (hlevels ▸ ih hmore)
                simpa using hstream
              · have hstream := Stream.level houtdent hcontent hending (ih hmore)
                rw [hlevels] at hstream
                simpa using hstream

/-- The tokens of a source are a stream from the outermost level on. -/
theorem stream_scan {source : String} {tokens : List Token} (h : scan source = .ok tokens) :
    Stream 0 tokens :=
  stream_scan_lines h

/-! ## Well-formed tokens -/

/-- The changes of level among tokens. -/
def levelSteps (tokens : List Token) : List DyckStep :=
  tokens.filterMap (·.lexeme.levelStep)

/-- Tokens that can stand next to each other: a level opens right after the end of a line, and no
other change of level follows. -/
def Adjacent (first second : Token) : Prop :=
  (second.lexeme.isIndent = true → first.lexeme = .newline) ∧
  (first.lexeme.isIndent = true →
    second.lexeme.isIndent = false ∧ second.lexeme.isOutdent = false)

/-- The tokens of a line: changes of level, a content and the end of the line. -/
structure TokenLine where
  changes : List Token
  content : List Token
  ending : Token
  changes_levels : ∀ t ∈ changes, t.lexeme.isIndent = true ∨ t.lexeme.isOutdent = true
  content_is_content : IsContent (lexemes content)
  ending_newline : ending.lexeme = .newline

/-- The tokens of a line in order. -/
def TokenLine.tokens (line : TokenLine) : List Token :=
  line.changes ++ line.content ++ [line.ending]

/-- What a reader of tokens relies on: they end with the only end of the source, every level that
opens ends, levels open only at the start and after the end of a line and with a content right
after them, and the tokens are lines, after which levels end and then the source. -/
structure WellFormed (tokens : List Token) : Prop where
  ends : ∃ front last, tokens = front ++ [last] ∧ last.lexeme = .endOfSource ∧
    ∀ t ∈ front, t.lexeme ≠ .endOfSource
  balanced : ∃ word : DyckWord, levelSteps tokens = word.toList
  adjacent : tokens.IsChain Adjacent
  lines : ∃ (lines : List TokenLine) (closing : List Token) (last : Token),
    tokens = lines.flatMap TokenLine.tokens ++ closing ++ [last] ∧
    (∀ t ∈ closing, t.lexeme.isOutdent = true) ∧ last.lexeme = .endOfSource

/-- From `depth` open levels on, the steps never end more levels than are open, and in the end none
is left. -/
structure Closes (depth : Nat) (steps : List DyckStep) : Prop where
  total : steps.count .D = steps.count .U + depth
  within : ∀ n, (steps.take n).count .D ≤ (steps.take n).count .U + depth

/-- A level that opens is one more to end. -/
theorem Closes.up {depth : Nat} {steps : List DyckStep} (h : Closes (depth + 1) steps) :
    Closes depth (.U :: steps) where
  total := by
    have htotal := h.total
    simp only [List.count_cons_self, List.count_cons_of_ne (show DyckStep.U ≠ .D by decide)]
    omega
  within n := by
    cases n with
    | zero => simp
    | succ n =>
        have hwithin := h.within n
        simp only [List.take_succ_cons, List.count_cons_self,
          List.count_cons_of_ne (show DyckStep.U ≠ .D by decide)]
        omega

/-- A level that ends is one less. -/
theorem Closes.down {depth : Nat} {steps : List DyckStep} (h : Closes depth steps) :
    Closes (depth + 1) (.D :: steps) where
  total := by
    have htotal := h.total
    simp only [List.count_cons_self, List.count_cons_of_ne (show DyckStep.D ≠ .U by decide)]
    omega
  within n := by
    cases n with
    | zero => simp
    | succ n =>
        have hwithin := h.within n
        simp only [List.take_succ_cons, List.count_cons_self,
          List.count_cons_of_ne (show DyckStep.D ≠ .U by decide)]
        omega

/-- Changes of level in a row. -/
theorem level_steps_append (first second : List Token) :
    levelSteps (first ++ second) = levelSteps first ++ levelSteps second :=
  List.filterMap_append

/-- One more token adds the change of level that it stands for. -/
theorem level_steps_cons (t : Token) (tokens : List Token) :
    levelSteps (t :: tokens) = t.lexeme.levelStep.toList ++ levelSteps tokens := by
  unfold levelSteps
  cases hstep : t.lexeme.levelStep with
  | none => exact List.filterMap_cons_none hstep
  | some step => exact List.filterMap_cons_some hstep

/-- Inside a line there is no change of level. -/
theorem level_steps_content {content : List Token} (h : IsContent (lexemes content)) :
    levelSteps content = [] := by
  rw [levelSteps, List.filterMap_eq_nil_iff]
  intro t ht
  exact (h.level_step ht).2.2

/-- Levels that end in a row. -/
theorem Closes.outdents {depth : Nat} {steps : List DyckStep} (h : Closes depth steps)
    {closing : List Token} (hclosing : ∀ t ∈ closing, t.lexeme.isOutdent = true) :
    Closes (depth + closing.length) (levelSteps closing ++ steps) := by
  induction closing with
  | nil => exact h
  | cons t closing ih =>
      obtain ⟨ht, hmore⟩ := List.forall_mem_cons.mp hclosing
      rw [level_steps_cons, (Lexeme.level_step_of_is_outdent ht).2]
      exact (ih hmore).down

/-- The changes of level in a stream end the levels that are open. -/
theorem Stream.closes {depth : Nat} {tokens : List Token} (h : Stream depth tokens) :
    Closes depth (levelSteps tokens) := by
  induction h with
  | finish hclosing hend =>
      have hdone : Closes 0 [] := ⟨rfl, by simp⟩
      have hcloses := hdone.outdents hclosing
      rw [Nat.zero_add] at hcloses
      rw [level_steps_append, level_steps_cons, hend]
      exact hcloses
  | deeper hopening hcontent hending _ ih =>
      rw [level_steps_append, level_steps_cons, Lexeme.level_step_of_is_indent hopening,
        level_steps_content hcontent, level_steps_cons, hending]
      exact ih.up
  | level hclosing hcontent hending _ ih =>
      rw [level_steps_append, level_steps_append, level_steps_content hcontent, level_steps_cons,
        hending]
      exact ih.outdents hclosing

/-- Anything can stand after the end of a line. -/
theorem adjacent_of_newline {first second : Token} (h : first.lexeme = .newline) :
    Adjacent first second := by
  refine ⟨fun _ => h, ?_⟩
  intro hindent
  rw [h] at hindent
  cases hindent

/-- Where no level opens any tokens can stand next to each other. -/
theorem adjacent_of_not_is_indent {first second : Token} (hfirst : first.lexeme.isIndent = false)
    (hsecond : second.lexeme.isIndent = false) : Adjacent first second := by
  constructor
  · intro h
    rw [hsecond] at h
    cases h
  · intro h
    rw [hfirst] at h
    cases h

/-- Tokens among which no level opens can stand in a row. -/
theorem is_chain_of_not_is_indent {tokens : List Token}
    (h : ∀ t ∈ tokens, t.lexeme.isIndent = false) : tokens.IsChain Adjacent := by
  induction tokens with
  | nil => exact .nil
  | cons t tokens ih =>
      obtain ⟨ht, hmore⟩ := List.forall_mem_cons.mp h
      refine List.isChain_cons.mpr ⟨?_, ih hmore⟩
      intro next hnext
      exact adjacent_of_not_is_indent ht (hmore next (List.mem_of_mem_head? hnext))

/-- The tokens of a stream can stand next to each other. -/
theorem Stream.is_chain {depth : Nat} {tokens : List Token} (h : Stream depth tokens) :
    tokens.IsChain Adjacent := by
  induction h with
  | @finish closing ending hclosing hend =>
      refine is_chain_of_not_is_indent ?_
      intro t ht
      rcases List.mem_append.mp ht with ht | ht
      · exact (Lexeme.level_step_of_is_outdent (hclosing t ht)).1
      · rw [List.mem_singleton.mp ht, hend]
        rfl
  | @deeper depth opening ending content more hopening hcontent hending hmore ih =>
      refine List.isChain_append.mpr ⟨?_, ?_, ?_⟩
      · -- The content follows the opening of the level.
        refine List.isChain_cons.mpr
          ⟨?_, is_chain_of_not_is_indent fun t ht => (hcontent.level_step ht).1⟩
        intro next hnext
        obtain ⟨hindent, houtdent, -⟩ := hcontent.level_step (List.mem_of_mem_head? hnext)
        refine ⟨?_, fun _ => ⟨hindent, houtdent⟩⟩
        intro h
        rw [hindent] at h
        cases h
      · exact List.isChain_cons.mpr ⟨fun _ _ => adjacent_of_newline hending, ih⟩
      · intro last hlast first hfirst
        obtain rfl := Option.some.inj hfirst
        have hne : content ≠ [] := fun hnil => hcontent.ne_nil (List.map_eq_nil_iff.mpr hnil)
        rw [List.getLast?_cons_of_ne_nil hne] at hlast
        refine adjacent_of_not_is_indent (hcontent.level_step (List.mem_of_getLast? hlast)).1 ?_
        rw [hending]
        rfl
  | @level depth closing content more ending hclosing hcontent hending hmore ih =>
      rw [← List.append_assoc]
      have hfront : ∀ t ∈ closing ++ content, t.lexeme.isIndent = false := by
        intro t ht
        rcases List.mem_append.mp ht with ht | ht
        · exact (Lexeme.level_step_of_is_outdent (hclosing t ht)).1
        · exact (hcontent.level_step ht).1
      refine List.isChain_append.mpr ⟨is_chain_of_not_is_indent hfront, ?_, ?_⟩
      · exact List.isChain_cons.mpr ⟨fun _ _ => adjacent_of_newline hending, ih⟩
      · intro last hlast first hfirst
        obtain rfl := Option.some.inj hfirst
        refine adjacent_of_not_is_indent (hfront _ (List.mem_of_getLast? hlast)) ?_
        rw [hending]
        rfl

/-- A stream is lines, after which levels end and then the source. -/
theorem Stream.lines {depth : Nat} {tokens : List Token} (h : Stream depth tokens) :
    ∃ (lines : List TokenLine) (closing : List Token) (last : Token),
      tokens = lines.flatMap TokenLine.tokens ++ closing ++ [last] ∧
      (∀ t ∈ closing, t.lexeme.isOutdent = true) ∧ last.lexeme = .endOfSource := by
  induction h with
  | @finish closing ending hclosing hend => exact ⟨[], closing, ending, rfl, hclosing, hend⟩
  | @deeper depth opening ending content more hopening hcontent hending hmore ih =>
      obtain ⟨lines, closing, last, rfl, hclosing, hlast⟩ := ih
      let line : TokenLine := ⟨[opening], content, ending,
        fun t ht => .inl (List.mem_singleton.mp ht ▸ hopening), hcontent, hending⟩
      refine ⟨line :: lines, closing, last, ?_, hclosing, hlast⟩
      simp [line, TokenLine.tokens]
  | @level depth outdents content more ending houtdents hcontent hending hmore ih =>
      obtain ⟨lines, closing, last, rfl, hclosing, hlast⟩ := ih
      let line : TokenLine := ⟨outdents, content, ending, fun t ht => .inr (houtdents t ht),
        hcontent, hending⟩
      refine ⟨line :: lines, closing, last, ?_, hclosing, hlast⟩
      simp [line, TokenLine.tokens]

/-- No token of a line ends the source. -/
theorem TokenLine.ne_end_of_source (line : TokenLine) :
    ∀ t ∈ line.tokens, t.lexeme ≠ .endOfSource := by
  intro t ht hend
  rcases List.mem_append.mp ht with ht | ht
  · rcases List.mem_append.mp ht with ht | ht
    · have hchange := line.changes_levels t ht
      rw [hend] at hchange
      rcases hchange with h | h <;> cases h
    · have hinside := line.content_is_content.is_inside _ (List.mem_map_of_mem ht)
      rw [hend] at hinside
      cases hinside
  · rw [List.mem_singleton.mp ht, line.ending_newline] at hend
    cases hend

/-- A stream ends with the only end of the source. -/
theorem Stream.ends {depth : Nat} {tokens : List Token} (h : Stream depth tokens) :
    ∃ front last, tokens = front ++ [last] ∧ last.lexeme = .endOfSource ∧
      ∀ t ∈ front, t.lexeme ≠ .endOfSource := by
  obtain ⟨lines, closing, last, rfl, hclosing, hlast⟩ := h.lines
  refine ⟨_, last, rfl, hlast, ?_⟩
  intro t ht hend
  rcases List.mem_append.mp ht with ht | ht
  · obtain ⟨line, -, hline⟩ := List.mem_flatMap.mp ht
    exact line.ne_end_of_source t hline hend
  · have houtdent := hclosing t ht
    rw [hend] at houtdent
    cases houtdent

/-- The tokens of a stream from the outermost level on are well formed. -/
theorem Stream.well_formed {tokens : List Token} (h : Stream 0 tokens) : WellFormed tokens where
  ends := h.ends
  balanced := ⟨⟨levelSteps tokens, h.closes.total.symm, h.closes.within⟩, rfl⟩
  adjacent := h.is_chain
  lines := h.lines

/-! ## The first line -/

/-- The first line of a source that is not blank starts with a space or a tab. -/
def startsIndented (source : String) : Bool :=
  ((sourceLines source).find? fun line => !Text.allBlank line).any fun line =>
    line.head?.any Line.isGap

/-- A line is indented if it starts with a space or a tab. -/
theorem indent_width_pos_iff (line : List Char) :
    0 < Layout.indentWidth line ↔ line.head?.any Line.isGap = true := by
  unfold Layout.indentWidth
  cases line with
  | nil => simp
  | cons c line =>
      by_cases hc : Line.isGap c = true
      · simp [hc]
      · simp [hc]

/-- From the outermost level a line opens a level if it is indented. -/
theorem move_to_outermost {layout moved : Layout} (hlevels : layout.levels = [])
    {number width : Nat} {tokens : List Token}
    (h : layout.moveTo number width = .ok (tokens, moved)) :
    tokens = if 0 < width then [⟨.indent (some width), ⟨number, 0⟩⟩] else [] := by
  have hwidth : layout.width = 0 := by rw [Layout.width, hlevels]; rfl
  unfold Layout.moveTo at h
  rw [hwidth, hlevels] at h
  split at h
  · rename_i hpos
    cases h
    rw [if_pos hpos]
  · rename_i hpos
    dsimp only [Layout.closeTo] at h
    split at h
    · cases h
      rw [if_neg hpos]
    · cases h

/-- From the outermost level the first line that is not blank opens a level if it is indented. -/
theorem is_indent_head_scan_lines {layout : Layout} (hlevels : layout.levels = []) {number : Nat}
    {lines : List (List Char)} {tokens : List Token}
    (h : scanLines layout number 0 lines = .ok tokens) :
    tokens.head?.any (·.lexeme.isIndent) =
      ((lines.find? fun line => !Text.allBlank line).any fun line =>
        line.head?.any Line.isGap) := by
  induction lines generalizing number with
  | nil =>
      rw [scanLines, Layout.finish, hlevels] at h
      cases h
      rfl
  | cons line below ih =>
      rw [scanLines] at h
      split at h
      · rename_i hblank
        rw [List.find?_cons_of_neg (by simp [hblank])]
        exact ih h
      · rename_i hblank
        rw [List.find?_cons_of_pos (by simpa using hblank)]
        split at h
        · cases h
        · rename_i hline
          obtain ⟨more, -, hend⟩ := Attempt.bind_eq_ok.mp h
          cases hend
          obtain ⟨accepted, indentation, content, ending, haccept, hmove, rfl, hcontent, -⟩ :=
            scan_line_spec hline
          rw [move_to_outermost ((levels_accept haccept).trans hlevels) hmove]
          by_cases hindent : 0 < Layout.indentWidth line
          · rw [if_pos hindent]
            exact ((indent_width_pos_iff line).mp hindent).symm
          · -- The first token is that of the content.
            have hgap := mt (indent_width_pos_iff line).mpr hindent
            cases content with
            | nil => exact absurd rfl hcontent.ne_nil
            | cons t content =>
                rw [if_neg hindent, Option.any_some, Bool.eq_false_of_not_eq_true hgap]
                exact (hcontent.level_step List.mem_cons_self).1

/-- The first token of a source opens a level if the first line that is not blank is indented. -/
theorem is_indent_head_scan {source : String} {tokens : List Token}
    (h : scan source = .ok tokens) :
    tokens.head?.any (·.lexeme.isIndent) = startsIndented source :=
  is_indent_head_scan_lines rfl h

end Token

end ElementMarkup
