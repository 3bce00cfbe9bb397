import ElementMarkup.Proofs.Parser

/-!
# Places of tokens

A token carries the line and the column at which it starts, and so does a problem with a line.
`RestAt` says what stands at a place of the source, and `Spelled` how the text at the place of a
token starts. The readers of a line add up columns as they go; `Within` states for each of them that
what it gives is right and that a problem does not lie behind the end of the line. Main statement:
`of_source_positions`, every token is spelled where it says it is.
-/

namespace ElementMarkup

open Attempt

/-! ## Places -/

/-- The lines have the given place, and `rest` is what stands there up to the end of the line. Lines
count from one and columns from zero. -/
def RestAt (lines : List (List Char)) (line column : Nat) (rest : List Char) : Prop :=
  ∃ above start below,
    lines = above ++ (start ++ rest) :: below ∧ line = above.length + 1 ∧ column = start.length

variable {lines : List (List Char)} {line column : Nat} {cs rest : List Char}

/-- A line stands at its own start. -/
theorem rest_at_line (above : List (List Char)) (text : List Char) (below : List (List Char)) :
    RestAt (above ++ text :: below) (above.length + 1) 0 text :=
  ⟨above, [], below, rfl, rfl, rfl⟩

/-- What stands at the end of what stands at a place has a place of its own. -/
theorem RestAt.suffix (h : RestAt lines line column cs) (hrest : rest <:+ cs) :
    RestAt lines line (column + (cs.length - rest.length)) rest := by
  obtain ⟨above, start, below, hlines, hline, hcolumn⟩ := h
  obtain ⟨front, rfl⟩ := hrest
  refine ⟨above, start ++ front, below, ?_, hline, ?_⟩
  · rw [hlines, List.append_assoc]
  · simp only [List.length_append]
    omega

/-- After some characters the rest stands as many columns further on. -/
theorem RestAt.drop {n : Nat} (h : RestAt lines line column cs) (hn : n ≤ cs.length) :
    RestAt lines line (column + n) (cs.drop n) := by
  have hsuffix := h.suffix (List.drop_suffix n cs)
  rw [List.length_drop, Nat.sub_sub_self hn] at hsuffix
  exact hsuffix

/-- After one character the rest stands one column further on. -/
theorem RestAt.tail {c : Char} (h : RestAt lines line column (c :: rest)) :
    RestAt lines line (column + 1) rest :=
  h.drop (Nat.le_add_left 1 _)

/-! ## Spellings -/

/-- Where an item of a line can start: at the start of the source or of a line, and after a
colon. -/
def Lexeme.opensItem : Option Lexeme → Bool
  | none => true
  | some (.indent _) => true
  | some (.outdent _) => true
  | some .newline => true
  | some .colon => true
  | _ => false

/-- Inside a tag: after its name or after an attribute. -/
def Lexeme.isInTag : Option Lexeme → Bool
  | some (.tagName _) => true
  | some l => l.isAttribute
  | none => false

/-- How the text at the place of a lexeme starts, given the lexeme before it. A tag without a name
is a division and starts with its shorthand. The text of a line is marked by a bar, or starts with a
placeholder; an inline text is all the rest of the line. An end of line stands at the end. Nothing
is said of changes of indentation and of the end of the source. -/
inductive Spelled (previous : Option Lexeme) : Lexeme → List Char → Prop where
  | tagName {name rest : List Char} :
      name <+: rest → Spelled previous (.tagName (String.ofList name)) rest
  | division {rest : List Char} :
      rest.head? = some '#' ∨ rest.head? = some '.' → Spelled previous (.tagName "div") rest
  | idName {value rest : List Char} :
      '#' :: value <+: rest → Spelled previous (.idName (.text (String.ofList value))) rest
  | className {value rest : List Char} :
      '.' :: value <+: rest → Spelled previous (.className (.text (String.ofList value))) rest
  | attributePair {name rest : List Char} (value : Scalar) :
      name <+: rest → Spelled previous (.attributePair (String.ofList name) value) rest
  | colon (rest : List Char) : Spelled previous .colon (':' :: rest)
  | dot : Spelled previous .dot ['.']
  | directive {d : Directive} {rest : List Char} (argument : String) :
      d.word.toList <+: rest → Spelled previous (d.lexeme argument) rest
  | barText (rest : List Char) :
      Lexeme.opensItem previous = true →
      Spelled previous (.text (String.ofList (Line.barText rest))) ('|' :: rest)
  | markText {value : List Char} :
      Lexeme.opensItem previous = true → Placeholder.startsWithMark value = true →
      Spelled previous (.text (String.ofList value)) value
  | inlineText (value : List Char) :
      Lexeme.isInTag previous = true → Spelled previous (.text (String.ofList value)) value
  | newline : Spelled previous .newline []
  | indent (width : Option Nat) (rest : List Char) : Spelled previous (.indent width) rest
  | outdent (width : Option Nat) (rest : List Char) : Spelled previous (.outdent width) rest
  | endOfSource (rest : List Char) : Spelled previous .endOfSource rest

namespace Token

/-- The token is spelled at its place, unless it is the text of a block, which follows a dot. -/
def IsSpelled (lines : List (List Char)) (previous : Option Lexeme) (t : Token) : Prop :=
  (previous = some .dot ∧ ∃ value, t.lexeme = .text value) ∨
  ∃ (line column : Nat) (rest : List Char), t.position = ⟨line, column⟩ ∧
    RestAt lines line column rest ∧ Spelled previous t.lexeme rest

/-- All the tokens are spelled at their places, the first one following the given lexeme. -/
def AllSpelled (lines : List (List Char)) : Option Lexeme → List Token → Prop
  | _, [] => True
  | previous, t :: tokens => t.IsSpelled lines previous ∧ AllSpelled lines (some t.lexeme) tokens

/-- The last lexeme of the tokens, or another one if there is none. -/
def lastLexeme (previous : Option Lexeme) (tokens : List Token) : Option Lexeme :=
  (tokens.getLast?.map (·.lexeme)).or previous

variable {previous : Option Lexeme}

/-- Tokens in a row are spelled one after the other. -/
theorem all_spelled_append {first second : List Token} :
    AllSpelled lines previous (first ++ second) ↔
      AllSpelled lines previous first ∧ AllSpelled lines (lastLexeme previous first) second := by
  induction first generalizing previous with
  | nil => simp [AllSpelled, lastLexeme]
  | cons t first ih =>
      have hlast : lastLexeme previous (t :: first) = lastLexeme (some t.lexeme) first := by
        unfold lastLexeme
        rw [List.getLast?_cons]
        cases first.getLast? <;> rfl
      rw [List.cons_append, AllSpelled, AllSpelled, ih, hlast, and_assoc]

/-- The last lexeme of tokens in a row. -/
theorem last_lexeme_append (first second : List Token) :
    lastLexeme previous (first ++ second) = lastLexeme (lastLexeme previous first) second := by
  unfold lastLexeme
  rw [List.getLast?_append]
  cases second.getLast? <;> rfl

/-- Each token is spelled after the one before it. -/
theorem AllSpelled.is_spelled {before after : List Token} {t : Token}
    (h : AllSpelled lines none (before ++ t :: after)) :
    t.IsSpelled lines (before.getLast?.map (·.lexeme)) := by
  have hspelled := (all_spelled_append.mp h).2.1
  simpa [lastLexeme] using hspelled

/-- Tokens that are spelled after anything are spelled in a row. -/
theorem all_spelled_of_forall {tokens : List Token}
    (h : ∀ t ∈ tokens, ∀ previous, t.IsSpelled lines previous) :
    AllSpelled lines previous tokens := by
  induction tokens generalizing previous with
  | nil => trivial
  | cons t tokens ih =>
      obtain ⟨ht, hmore⟩ := List.forall_mem_cons.mp h
      exact ⟨ht previous, ih hmore⟩

/-- An attribute is part of a tag. -/
theorem is_in_tag_of_is_attribute {l : Lexeme} (h : l.isAttribute = true) :
    Lexeme.isInTag (some l) = true := by
  cases l with
  | tagName name => rfl
  | _ => exact h

/-- Attributes leave the reader inside the tag. -/
theorem is_in_tag_last_lexeme (hprevious : Lexeme.isInTag previous = true) {tokens : List Token}
    (h : ∀ l ∈ lexemes tokens, l.isAttribute = true) :
    Lexeme.isInTag (lastLexeme previous tokens) = true := by
  unfold lastLexeme
  cases hlast : tokens.getLast? with
  | none => exact hprevious
  | some t =>
      exact is_in_tag_of_is_attribute (h _ (List.mem_map_of_mem (List.mem_of_getLast? hlast)))

/-- What is spelled at a place makes a token there. -/
theorem is_spelled_of_rest_at {l : Lexeme} (hat : RestAt lines line column cs)
    (h : Spelled previous l cs) : IsSpelled lines previous ⟨l, ⟨line, column⟩⟩ :=
  .inr ⟨line, column, cs, rfl, hat, h⟩

end Token

/-! ## Readers of a line -/

namespace Line

/-- If the reader succeeds, its result has the property; if it finds a problem, the column of the
problem is at most `limit`. -/
def Within {α : Type} (limit : Nat) (p : α → Prop) : Except Flaw α → Prop
  | .ok a => p a
  | .error (.malformed _ column) => column ≤ limit
  | .error (.integerTooLong _) => True

variable {α β : Type} {limit : Nat} {p : α → Prop} {q : β → Prop}

/-- A failure gives no result, whatever is asked of one. -/
theorem Within.error {flaw : Flaw} (h : Within limit p (.error flaw)) :
    Within limit q (.error flaw) := by
  cases flaw with
  | malformed problem column => exact h
  | integerTooLong digits => trivial

/-- A reader that goes on after another one. -/
theorem Within.bind {x : Except Flaw α} {f : α → Except Flaw β} (hx : Within limit p x)
    (hf : ∀ a, p a → Within limit q (f a)) : Within limit q (x >>= f) := by
  cases x with
  | ok a => exact hf a hx
  | error flaw => exact hx.error

/-- What follows a quoted value stands at the end of the text. -/
theorem suffix_of_quoted_value? {quote : Char} {cs value rest : List Char}
    (h : quotedValue? quote cs = some (value, rest)) : rest <:+ cs := by
  fun_induction quotedValue? quote cs generalizing value rest with
  | case1 => cases h
  | case2 c cs ih =>
      obtain ⟨⟨v, r⟩, hv, heq⟩ := Option.map_eq_some_iff.mp h
      cases heq
      exact ((ih hv).trans (List.suffix_cons c cs)).trans (List.suffix_cons _ _)
  | case3 cs =>
      cases h
      exact List.suffix_cons _ _
  | case4 c cs _ hc ih =>
      obtain ⟨⟨v, r⟩, hv, heq⟩ := Option.map_eq_some_iff.mp h
      cases heq
      exact (ih hv).trans (List.suffix_cons c cs)

/-- A problem with a value lies where the value starts. -/
theorem within_attribute_value (h : column ≤ limit) (cs : List Char) :
    Within limit (fun result => result.2 <:+ cs) (attributeValue column cs) := by
  cases cs with
  | nil => exact h
  | cons c cs =>
      rw [attributeValue]
      by_cases hquote : c = '\'' ∨ c = '"'
      · rw [if_pos hquote]
        cases hvalue : quotedValue? c cs with
        | none => exact h
        | some result => exact (suffix_of_quoted_value? hvalue).trans (List.suffix_cons c cs)
      · rw [if_neg hquote]
        have hbare : Within limit (fun _ => True)
            (bareValue ((c :: cs).takeWhile isBareChar) column) := by
          unfold bareValue
          split
          · trivial
          · split
            · trivial
            · split
              · split
                · trivial
                · split <;> trivial
              · split
                · trivial
                · exact h
        exact hbare.bind fun value _ => List.dropWhile_suffix isBareChar

/-- An attribute starts with its name, and a problem with it does not lie behind the text. -/
theorem within_attribute_pair (line : Nat) {cs : List Char} (h : column + cs.length ≤ limit) :
    Within limit (fun result => result.2 <:+ cs ∧ ∃ name value,
        result.1 = ⟨.attributePair (String.ofList name) value, ⟨line, column⟩⟩ ∧ name <+: cs)
      (attributePair line column cs) := by
  have hname : cs.takeWhile isAttributeChar <+: cs := List.takeWhile_prefix isAttributeChar
  have hgap : (cs.dropWhile isAttributeChar).dropWhile isGap <:+ cs :=
    (List.dropWhile_suffix isGap).trans (List.dropWhile_suffix isAttributeChar)
  unfold attributePair
  dsimp only
  split
  · show column ≤ limit
    omega
  · split
    · rename_i more hmore
      rw [hmore] at hgap
      have hstart : more.dropWhile isGap <:+ cs :=
        ((List.dropWhile_suffix isGap).trans (List.suffix_cons _ more)).trans hgap
      have hplace : column + (cs.length - (more.dropWhile isGap).length) ≤ limit := by omega
      refine (within_attribute_value hplace (more.dropWhile isGap)).bind ?_
      intro result hresult
      exact ⟨hresult.trans hstart, _, _, rfl, hname⟩
    · exact ⟨hgap, _, _, rfl, hname⟩

/-- The attributes of a list are spelled at their places, and a problem with them does not lie
behind the text. -/
theorem within_attribute_list (hat : RestAt lines line column cs) (h : column + cs.length = limit) :
    Within limit (fun result => result.2 <:+ cs ∧
        ∀ t ∈ result.1, ∀ previous, t.IsSpelled lines previous)
      (attributeList line column cs) := by
  fun_induction attributeList line column cs with
  | case1 column cs start place hstart =>
      show column + (cs.length - start.length) ≤ limit
      omega
  | case2 =>
      rename_i column cs start rest hstart
      have hsuffix : start <:+ cs := List.dropWhile_suffix isSeparator
      rw [hstart] at hsuffix
      exact ⟨(List.suffix_cons _ rest).trans hsuffix, List.forall_mem_nil _⟩
  | case3 =>
      rename_i column cs start place c rest hstart hc flaw hpair
      have hplace : place + (c :: rest).length ≤ limit := by
        have hle : start.length ≤ cs.length := (List.dropWhile_suffix isSeparator).length_le
        rw [← hstart]
        omega
      have hwithin := within_attribute_pair line hplace
      rw [hpair] at hwithin
      exact hwithin.error
  | case4 =>
      rename_i column cs start place c rest hstart hc token after hpair ih
      have hsuffix : start <:+ cs := List.dropWhile_suffix isSeparator
      have hle := hsuffix.length_le
      have hplace : place + start.length = limit := by omega
      have hwithin := within_attribute_pair line (hstart ▸ hplace.le)
      rw [hpair] at hwithin
      obtain ⟨hafter, name, value, htoken, hname⟩ := hwithin
      rw [← hstart] at hafter hname
      have hstartAt : RestAt lines line place start := hat.suffix hsuffix
      have hafterLe : after.length ≤ start.length := hafter.length_le
      refine (ih (hstartAt.suffix hafter) (by omega)).bind ?_
      intro result hresult
      refine ⟨(hresult.1.trans hafter).trans hsuffix, List.forall_mem_cons.mpr ⟨?_, hresult.2⟩⟩
      intro previous
      rw [show token = _ from htoken]
      exact Token.is_spelled_of_rest_at hstartAt (.attributePair value hname)

/-- A tag name stands at the start of the text. -/
theorem tag_name_prefix (cs : List Char) : tagName cs <+: cs := by
  cases cs with
  | nil => exact List.prefix_rfl
  | cons c cs =>
      rw [tagName]
      split
      · have hprefix : ((cs.takeWhile isTagChar).reverse.dropWhile
            (fun c => !Text.isWord c)).reverse <+: cs.takeWhile isTagChar := by
          rw [← List.reverse_suffix, List.reverse_reverse]
          exact List.dropWhile_suffix _
        exact List.cons_prefix_cons.mpr ⟨rfl, hprefix.trans (List.takeWhile_prefix _)⟩
      · exact List.nil_prefix

/-- A class name stands at the start of the text. -/
theorem class_name_prefix (cs : List Char) : className cs <+: cs := by
  have hname (hyphen : List Char) (c : Char) (more : List Char) :
      hyphen ++ c :: more.takeWhile Text.isWordOrHyphen <+: hyphen ++ c :: more :=
    (List.prefix_append_right_inj hyphen).mpr
      (List.cons_prefix_cons.mpr ⟨rfl, List.takeWhile_prefix _⟩)
  unfold className
  split
  rename_i hyphen rest heq
  have hcs : cs = hyphen ++ rest := by
    split at heq <;> cases heq <;> rfl
  rw [hcs]
  split
  · split
    · exact hname _ _ _
    · exact List.nil_prefix
  · exact List.nil_prefix

/-- The word of a directive stands at the start of the text. -/
theorem word_prefix_of_directive? {d : Directive} {argument : List Char}
    (h : directive? cs = some (d, argument)) : d.word.toList <+: cs := by
  obtain ⟨other, -, hother⟩ := List.exists_of_findSome?_eq_some h
  dsimp only at hother
  split at hother
  · rename_i hprefix
    have hd : d = other := by
      split at hother
      · cases hother
        rfl
      · split at hother
        · cases hother
          rfl
        · cases hother
    rw [hd]
    exact List.isPrefixOf_iff_prefix.mp hprefix
  · cases hother

mutual

/-- The tokens of a line's content are spelled at their places, and a problem with it lies on the
line. -/
theorem within_tokens {column : Nat} {cs : List Char} {previous : Option Lexeme}
    (hprevious : Lexeme.opensItem previous = true) (hat : RestAt lines line column cs)
    (hlimit : column + cs.length = limit) :
    Within limit (Token.AllSpelled lines previous) (tokens line column cs) := by
  rw [tokens]
  split
  · rename_i hbar
    cases cs with
    | nil => cases hbar
    | cons c cs =>
        cases hbar
        exact ⟨Token.is_spelled_of_rest_at hat (.barText cs hprevious), trivial⟩
  · split
    · rename_i hmark
      exact ⟨Token.is_spelled_of_rest_at hat (.markText hprevious hmark), trivial⟩
    · split
      · rename_i d argument hdirective
        have hprefix := word_prefix_of_directive? hdirective
        have hlength := hprefix.length_le
        have hword : Within limit
            (fun t => t = ⟨d.lexeme (String.ofList argument), ⟨line, column⟩⟩)
            (directiveToken line column d argument) := by
          unfold directiveToken
          split
          · show column + d.word.length ≤ limit
            rw [String.length_toList] at hlength
            omega
          · rfl
        refine hword.bind ?_
        rintro _ rfl
        exact ⟨Token.is_spelled_of_rest_at hat (.directive _ hprefix), trivial⟩
      · dsimp only
        split
        · have hprefix := tag_name_prefix cs
          have hlength := hprefix.length_le
          have htag : Lexeme.isInTag (some (.tagName (String.ofList (tagName cs)))) = true := rfl
          have hmore : column + (tagName cs).length + (cs.drop (tagName cs).length).length =
              limit := by
            rw [List.length_drop]
            omega
          refine (within_tag_tokens htag (hat.drop hlength) hmore).bind ?_
          intro tokens htokens
          exact ⟨Token.is_spelled_of_rest_at hat (.tagName hprefix), htokens⟩
        · split
          · rename_i hshorthand
            have htag : Lexeme.isInTag (some (.tagName "div")) = true := rfl
            refine (within_tag_tokens htag hat hlimit).bind ?_
            intro tokens htokens
            exact ⟨Token.is_spelled_of_rest_at hat (.division hshorthand), htokens⟩
          · show column ≤ limit
            omega
termination_by 2 * cs.length + 1

/-- The tokens of what follows the name of a tag are spelled at their places, and a problem with it
lies on the line. -/
theorem within_tag_tokens {column : Nat} {cs : List Char} {previous : Option Lexeme}
    (hprevious : Lexeme.isInTag previous = true) (hat : RestAt lines line column cs)
    (hlimit : column + cs.length = limit) :
    Within limit (Token.AllSpelled lines previous) (tagTokens line column cs) := by
  rw [tagTokens.eq_def]
  rcases hcs : cs with _ | ⟨c, rest⟩
  · trivial
  · have hlength : cs.length = rest.length + 1 := by rw [hcs]; rfl
    rw [hcs] at hat
    have htail := hat.tail
    -- The name of an id or a class is read, and then what follows it.
    have hshorthand {name : List Char} (hname : name <+: rest) {l : Lexeme}
        (hl : l.isAttribute = true) (hspelled : Spelled previous l (c :: rest)) :
        Within limit (Token.AllSpelled lines previous) (do
          let more ← tagTokens line (column + 1 + name.length) (rest.drop name.length)
          return ⟨l, ⟨line, column⟩⟩ :: more) := by
      have hle := hname.length_le
      have hmore : column + 1 + name.length + (rest.drop name.length).length = limit := by
        rw [List.length_drop]
        omega
      have hshorter : (rest.drop name.length).length < cs.length := by
        rw [List.length_drop]
        omega
      refine (within_tag_tokens (Token.is_in_tag_of_is_attribute hl) (htail.drop hle) hmore).bind ?_
      intro tokens htokens
      exact ⟨Token.is_spelled_of_rest_at hat hspelled, htokens⟩
    dsimp only
    split
    · rename_i hc
      subst hc
      split
      · show column ≤ limit
        omega
      · have hname := List.takeWhile_prefix Text.isWordOrHyphen (l := rest)
        exact hshorthand hname rfl (.idName (List.cons_prefix_cons.mpr ⟨rfl, hname⟩))
    · split
      · rename_i hc
        subst hc
        split
        · have hname := class_name_prefix rest
          exact hshorthand hname rfl (.className (List.cons_prefix_cons.mpr ⟨rfl, hname⟩))
        · split
          · rename_i hrest
            rw [List.isEmpty_iff.mp hrest] at hat
            exact ⟨Token.is_spelled_of_rest_at hat .dot, trivial⟩
          · show column + 1 ≤ limit
            omega
      · split
        · -- Attributes stand in parentheses.
          have hwithin := within_attribute_list htail
            (show column + 1 + rest.length = limit by omega)
          split
          · rename_i flaw hlist
            rw [hlist] at hwithin
            exact hwithin.error
          · rename_i attributes after hlist
            have hshorter := length_lt_of_attribute_list hlist
            rw [hlist] at hwithin
            obtain ⟨hafter, hattributes⟩ : after <:+ rest ∧ _ := hwithin
            have hlast : Lexeme.isInTag (Token.lastLexeme previous attributes) = true :=
              Token.is_in_tag_last_lexeme hprevious (Token.is_attribute_of_attribute_list hlist)
            refine (within_tag_tokens hlast (htail.suffix hafter) (by omega)).bind ?_
            intro more hmore
            exact Token.all_spelled_append.mpr ⟨Token.all_spelled_of_forall hattributes, hmore⟩
        · split
          · -- Another content of a line follows a colon.
            rename_i hc
            subst hc
            split
            · show column ≤ limit
              omega
            · have hinner : Text.trimStart rest <:+ rest := List.dropWhile_suffix Text.isBlank
              have hshorter := hinner.length_le
              have hcolon : Lexeme.opensItem (some .colon) = true := rfl
              refine (within_tokens hcolon (htail.suffix hinner) (by omega)).bind ?_
              intro more hmore
              exact ⟨Token.is_spelled_of_rest_at hat (.colon rest), hmore⟩
          · split
            · -- A text follows a space.
              split
              · trivial
              · exact ⟨Token.is_spelled_of_rest_at htail (.inlineText rest hprevious), trivial⟩
            · show column ≤ limit
              omega
termination_by 2 * cs.length

end

end Line

/-! ## Changes of indentation -/

namespace Layout

/-- A problem with the character of an indentation lies at the start of the line. -/
theorem within_accept (layout : Layout) (gap : List Char) (limit : Nat) :
    Line.Within limit (fun _ => True) (layout.accept gap) := by
  unfold accept
  split
  · trivial
  · split
    · exact Nat.zero_le limit
    · split
      · trivial
      · split
        · trivial
        · exact Nat.zero_le limit

/-- Levels are closed at the start of the line. -/
theorem eq_of_mem_close_to {line width : Nat} {levels : List Nat} {t : Token}
    (h : t ∈ (closeTo line width levels).1) : t = ⟨.outdent (some width), ⟨line, 0⟩⟩ := by
  induction levels with
  | nil => cases h
  | cons level levels ih =>
      rw [closeTo] at h
      split at h
      · rcases List.mem_cons.mp h with h | h
        · exact h
        · exact ih h
      · cases h

/-- A change of indentation stands at the start of the line, and a problem with it at the end of the
indentation. -/
theorem within_move_to (layout : Layout) (line : Nat) {width limit : Nat} (h : width ≤ limit) :
    Line.Within limit (fun result => ∀ t ∈ result.1, t.position = ⟨line, 0⟩ ∧
        (t.lexeme = .indent (some width) ∨ t.lexeme = .outdent (some width)))
      (layout.moveTo line width) := by
  unfold moveTo
  split
  · exact List.forall_mem_singleton.mpr ⟨rfl, .inl rfl⟩
  · dsimp only
    split
    · intro t ht
      rw [eq_of_mem_close_to ht]
      exact ⟨rfl, .inr rfl⟩
    · exact h

end Layout

namespace Token

variable {previous : Option Lexeme}

/-- After a change of indentation an item can start. -/
theorem opens_item_last_lexeme (hprevious : Lexeme.opensItem previous = true) {tokens : List Token}
    {width : Nat}
    (h : ∀ t ∈ tokens, t.lexeme = .indent (some width) ∨ t.lexeme = .outdent (some width)) :
    Lexeme.opensItem (lastLexeme previous tokens) = true := by
  unfold lastLexeme
  cases hlast : tokens.getLast? with
  | none => exact hprevious
  | some t =>
      show Lexeme.opensItem (some t.lexeme) = true
      rcases h t (List.mem_of_getLast? hlast) with ht | ht <;> rw [ht] <;> rfl

/-- The text of a block follows a dot. -/
theorem all_spelled_text_block (number width : Nat) (below : List (List Char)) :
    AllSpelled lines (some .dot) (TextBlock.tokens number width below) := by
  unfold TextBlock.tokens
  dsimp only
  split
  · trivial
  · exact ⟨.inl ⟨rfl, _, rfl⟩, trivial⟩

/-- A content that opens a block ends with a dot. -/
theorem last_lexeme_of_opens_block {tokens : List Token} (h : opensBlock tokens = true) :
    lastLexeme previous tokens = some .dot := by
  unfold opensBlock at h
  unfold lastLexeme
  cases hlast : tokens.getLast? with
  | none => simp [hlast] at h
  | some t =>
      have ht : t.lexeme = .dot := by simpa [hlast] using h
      simp [ht]

/-! ## Lines -/

/-- The tokens of a line are spelled at their places and end with an end of line, and a problem with
the line does not lie behind it. -/
theorem within_scan_line {number : Nat} {text : List Char} (hat : RestAt lines number 0 text)
    (hprevious : Lexeme.opensItem previous = true) (layout : Layout) (below : List (List Char)) :
    Line.Within text.length
      (fun result => AllSpelled lines previous result.1 ∧
        lastLexeme previous result.1 = some .newline)
      (scanLine layout number text below) := by
  have hwidth : Layout.indentWidth text ≤ text.length := (List.takeWhile_prefix _).length_le
  unfold scanLine
  dsimp only
  refine (layout.within_accept _ _).bind ?_
  intro accepted _
  refine (accepted.within_move_to number hwidth).bind ?_
  intro moved hmoved
  have hchanges : AllSpelled lines previous moved.1 := by
    refine all_spelled_of_forall ?_
    intro t ht previous
    obtain ⟨hposition, hlexeme⟩ := hmoved t ht
    refine .inr ⟨number, 0, text, hposition, hat, ?_⟩
    rcases hlexeme with hlexeme | hlexeme
    · rw [hlexeme]
      exact .indent _ _
    · rw [hlexeme]
      exact .outdent _ _
  have hopens := opens_item_last_lexeme hprevious fun t ht => (hmoved t ht).2
  have hcontent := hat.drop hwidth
  rw [Nat.zero_add] at hcontent
  refine (Line.within_tokens hopens hcontent (by rw [List.length_drop]; omega)).bind ?_
  intro content hspelled
  have hline := all_spelled_append.mpr ⟨hchanges, hspelled⟩
  have hending {l : Option Lexeme} : AllSpelled lines l [⟨.newline, ⟨number, text.length⟩⟩] := by
    have hend := hat.drop (Nat.le_refl text.length)
    rw [Nat.zero_add, List.drop_length] at hend
    exact ⟨is_spelled_of_rest_at hend .newline, trivial⟩
  have hlast (tokens : List Token) :
      lastLexeme previous (tokens ++ [⟨.newline, ⟨number, text.length⟩⟩]) = some .newline := by
    simp [lastLexeme]
  split
  · rename_i hblock
    have htext : AllSpelled lines (lastLexeme previous (moved.1 ++ content))
        (TextBlock.tokens number (Layout.indentWidth text) below) := by
      rw [last_lexeme_append, last_lexeme_of_opens_block hblock]
      exact all_spelled_text_block number _ below
    exact ⟨all_spelled_append.mpr ⟨all_spelled_append.mpr ⟨hline, htext⟩, hending⟩, hlast _⟩
  · exact ⟨all_spelled_append.mpr ⟨hline, hending⟩, hlast _⟩

/-- The tokens after the last line stand at its start. -/
theorem all_spelled_finish (hat : RestAt lines line 0 rest) (layout : Layout) :
    AllSpelled lines previous (layout.finish line) := by
  refine all_spelled_of_forall ?_
  intro t ht previous
  rcases List.mem_append.mp ht with ht | ht
  · obtain ⟨_, -, rfl⟩ := List.mem_map.mp ht
    exact is_spelled_of_rest_at hat (.outdent _ _)
  · obtain rfl := List.mem_singleton.mp ht
    exact is_spelled_of_rest_at hat (.endOfSource _)

/-- The flaw lies on a line that is not blank, and a problem not behind its end. -/
def LineFlaw.OnLine (lines : List (List Char)) (f : LineFlaw) : Prop :=
  ∃ text, 1 ≤ f.line ∧ lines[f.line - 1]? = some text ∧ Text.allBlank text = false ∧
    ∀ problem column, f.flaw = .malformed problem column → column ≤ text.length

/-- The tokens of lines are spelled at their places, and a flaw lies on one of the lines. -/
theorem scan_lines_positions {above below : List (List Char)} (hlines : lines = above ++ below)
    (hne : lines ≠ []) (hprevious : Lexeme.opensItem previous = true) (layout : Layout)
    (passed : Nat) :
    (∀ tokens, scanLines layout (above.length + 1) passed below = .ok tokens →
      AllSpelled lines previous tokens) ∧
    ∀ flaw, scanLines layout (above.length + 1) passed below = .error flaw →
      flaw.OnLine lines := by
  induction below generalizing above previous layout passed with
  | nil =>
      refine ⟨?_, fun _ h => by cases h⟩
      intro tokens h
      cases h
      rw [List.append_nil] at hlines
      subst hlines
      obtain ⟨front, text, rfl⟩ := (List.eq_nil_or_concat' lines).resolve_left hne
      have hat : RestAt (front ++ [text]) (front.length + 1) 0 text := rest_at_line front text []
      rw [List.length_append]
      exact all_spelled_finish hat layout
  | cons text below ih =>
      have hat : RestAt lines (above.length + 1) 0 text := hlines ▸ rest_at_line above text below
      have hnext : lines = (above ++ [text]) ++ below := by rw [hlines, List.append_cons]
      have hlength : (above ++ [text]).length = above.length + 1 := by simp
      have hmore {p : Option Lexeme} (hp : Lexeme.opensItem p = true) (layout : Layout)
          (passed : Nat) := hlength ▸ ih hnext hp layout passed
      cases passed with
      | succ passed => exact hmore hprevious layout passed
      | zero =>
          rw [scanLines]
          split
          · exact hmore hprevious layout 0
          · rename_i hblank
            have hline := within_scan_line hat hprevious layout below
            split
            · rename_i flaw hflaw
              rw [hflaw] at hline
              refine ⟨fun _ h => (by cases h), ?_⟩
              intro other h
              cases h
              refine ⟨text, by simp, by simp [hlines], by simpa using hblank, ?_⟩
              rintro problem column rfl
              exact hline
            · rename_i tokens after passed hscan
              rw [hscan] at hline
              obtain ⟨hspelled, hlast⟩ := hline
              obtain ⟨hok, herror⟩ := hmore (p := some .newline) rfl after passed
              cases hrest : scanLines after (above.length + 1 + 1) passed below with
              | ok more =>
                  refine ⟨?_, fun _ h => by cases h⟩
                  intro all h
                  cases h
                  exact all_spelled_append.mpr ⟨hspelled, hlast ▸ hok more hrest⟩
              | error flaw =>
                  refine ⟨fun _ h => (by cases h), ?_⟩
                  intro other h
                  cases h
                  exact herror _ hrest

/-! ## Sources -/

/-- A source has at least one line. -/
theorem source_lines_ne_nil (source : String) : sourceLines source ≠ [] := by
  rw [sourceLines, Text.split_on_eq]
  exact List.splitOn_ne_nil _ _

/-- The tokens of a source are spelled at their places. -/
theorem all_spelled_scan {source : String} {tokens : List Token} (h : scan source = .ok tokens) :
    AllSpelled (sourceLines source) none tokens :=
  (scan_lines_positions (List.nil_append _).symm (source_lines_ne_nil source) rfl .start 0).1
    tokens h

/-- A flaw of a source lies on one of its lines. -/
theorem on_line_of_scan {source : String} {flaw : LineFlaw} (h : scan source = .error flaw) :
    flaw.OnLine (sourceLines source) :=
  (scan_lines_positions (List.nil_append _).symm (source_lines_ne_nil source)
    (show Lexeme.opensItem none = true from rfl) .start 0).2 flaw h

/-- A problem with the source of a template comes from a line of the source. -/
theorem malformed_of_of_source {source : String} {name : Option String} {stage : Stage}
    {fault : SyntaxFault} (h : ofSource source name = .error (.template (.badSyntax stage fault))) :
    ∃ (line column : Nat) (problem : Problem),
      scan source = .error ⟨line, .malformed problem column⟩ ∧
      fault = ⟨problem, some line, some column, name,
        some (String.ofList (Text.unifyLineEnds source.toList))⟩ := by
  unfold ofSource at h
  cases hscan : scan source with
  | ok tokens =>
      rw [hscan] at h
      cases h
  | error f =>
      rw [hscan] at h
      obtain ⟨line, flaw⟩ := f
      cases flaw with
      | malformed problem column =>
          cases h
          exact ⟨line, column, problem, rfl, rfl⟩
      | integerTooLong digits => cases h

/-- Tokens and problems are where they say they are. Each token of a source is spelled at its line
and column, and a problem with the source lies on one of its lines, at the latest at the end of
it. -/
theorem of_source_positions (source : String) (name : Option String) :
    (∀ tokens, ofSource source name = .ok tokens →
      ∀ before t after, tokens = before ++ t :: after →
        t.IsSpelled (sourceLines source) (before.getLast?.map (·.lexeme))) ∧
    ∀ stage fault, ofSource source name = .error (.template (.badSyntax stage fault)) →
      ∃ (line column : Nat) (text : List Char),
        fault.line = some (line : Int) ∧ fault.column = some (column : Int) ∧
        1 ≤ line ∧ line ≤ (sourceLines source).length ∧
        (sourceLines source)[line - 1]? = some text ∧ column ≤ text.length := by
  constructor
  · intro tokens h before t after htokens
    have hspelled := all_spelled_scan (Parser.scan_of_of_source h)
    rw [htokens] at hspelled
    exact hspelled.is_spelled
  · intro stage fault h
    obtain ⟨line, column, problem, hscan, rfl⟩ := malformed_of_of_source h
    obtain ⟨text, hpos, htext, -, hcolumn⟩ := on_line_of_scan hscan
    have hline : line - 1 < (sourceLines source).length := (List.getElem?_eq_some_iff.mp htext).1
    refine ⟨line, column, text, rfl, rfl, hpos, ?_, htext, hcolumn problem column rfl⟩
    omega

/-- A line of a tag with an id, a class, attributes and a text block after a colon, an indented line
with inline text, lines of text of both kinds and a directive, all spelled where they say they are;
and an attribute list that is still open at the end of an indented line. -/
theorem of_source_positions_nested :
    let source :=
      "a:b#top.big(x=1, y='z'):  p.\n  some text\n\nul  hi\n  | bar\n  /~0~/ x\n  block c"
    (∃ tokens, ofSource source none = .ok tokens ∧ tokens.length = 22 ∧
      ∀ before t after, tokens = before ++ t :: after →
        t.IsSpelled (sourceLines source) (before.getLast?.map (·.lexeme))) ∧
    ∃ fault, ofSource "p\n  a(b" none = .error (.template (.badSyntax .lexing fault)) ∧
      ∃ (line column : Nat) (text : List Char),
        fault.line = some (line : Int) ∧ fault.column = some (column : Int) ∧
        1 ≤ line ∧ line ≤ (sourceLines "p\n  a(b").length ∧
        (sourceLines "p\n  a(b")[line - 1]? = some text ∧ column ≤ text.length := by
  intro source
  have hcount : (ofSource source none).toOption.map List.length = some 22 := by decide +kernel
  have hfault : ofSource "p\n  a(b" none = .error (.template (.badSyntax .lexing
      ⟨.unclosedAttributes, some 2, some 5, none, some "p\n  a(b"⟩)) := by decide +kernel
  refine ⟨?_, _, hfault, (of_source_positions _ none).2 .lexing _ hfault⟩
  cases htokens : ofSource source none with
  | error fault =>
      rw [htokens] at hcount
      cases hcount
  | ok tokens =>
      rw [htokens] at hcount
      exact ⟨tokens, rfl, Option.some.inj hcount,
        (of_source_positions source none).1 tokens htokens⟩

end Token

end ElementMarkup
