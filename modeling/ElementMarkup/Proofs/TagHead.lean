import ElementMarkup.Proofs.LineMoves
import ElementMarkup.Proofs.Positions

/-!
# Tag heads

The head of a tag is its name with ids, classes and attributes in parentheses behind it. It is read
before what follows it and in the same way whatever that is, as long as no part of it goes on. Main
statements: `IsHead.on_lines_tokens`, what a head says, and `IsHead.tokens_colon`, a colon after it
puts the tokens of any line behind those of the head.
-/

namespace ElementMarkup.Line

open Token Print

variable {line column : Nat} {cs name group head rest : List Char} {groups : List (List Char)}

/-- A part of a head behind the name: an id, a class, or attributes up to the parenthesis that
closes them. -/
inductive IsGroup : List Char → Prop where
  | idName {name : List Char} (hne : name ≠ [])
      (h : ∀ c ∈ name, Text.isWordOrHyphen c = true) : IsGroup ('#' :: name)
  | className {hyphen name : List Char} {c : Char} (hhyphen : hyphen = [] ∨ hyphen = ['-'])
      (hc : isNameStart c = true) (h : ∀ c ∈ name, Text.isWordOrHyphen c = true) :
      IsGroup ('.' :: (hyphen ++ c :: name))
  | attributes {line column : Nat} {text : List Char} {tokens : List Token}
      (h : attributeList line column text = .ok (tokens, [])) : IsGroup ('(' :: text)

/-- The head of a tag: a name and any number of groups. -/
inductive IsHead : List Char → Prop where
  | intro {name : List Char} {groups : List (List Char)} (hname : isTagName name = true)
      (hgroups : ∀ group ∈ groups, IsGroup group) : IsHead (name ++ groups.flatten)

/-! ## Groups -/

/-- Behind the name of a tag, the text is read as the lexemes whatever follows it, unless its last
name goes on. -/
def ReadsAs (line : Nat) (text : List Char) (ls : List Lexeme) : Prop :=
  ∀ (column : Nat) (rest : List Char), (∀ c ∈ rest.head?, Text.isWordOrHyphen c = false) →
    ∃ tokens, onLines tokens = onLine line ls ∧
      tagTokens line column (text ++ rest) = (do
        let more ← tagTokens line (column + text.length) rest
        return tokens ++ more)

/-- A name of word characters and hyphens ends where another character follows. -/
theorem take_while_is_word_or_hyphen (hname : ∀ c ∈ name, Text.isWordOrHyphen c = true)
    (hrest : ∀ c ∈ rest.head?, Text.isWordOrHyphen c = false) :
    (name ++ rest).takeWhile Text.isWordOrHyphen = name := by
  rw [List.takeWhile_append_of_pos hname]
  cases rest with
  | nil => rw [List.takeWhile_nil, List.append_nil]
  | cons c rest =>
      have hc := hrest c rfl
      rw [List.takeWhile_cons_of_neg (by simp [hc]), List.append_nil]

/-- A class name is read to its end. -/
theorem class_name_append {hyphen : List Char} {c : Char} (hhyphen : hyphen = [] ∨ hyphen = ['-'])
    (hc : isNameStart c = true) (hname : ∀ c ∈ name, Text.isWordOrHyphen c = true)
    (hrest : ∀ c ∈ rest.head?, Text.isWordOrHyphen c = false) :
    className (hyphen ++ c :: name ++ rest) = hyphen ++ c :: name := by
  have htake := take_while_is_word_or_hyphen hname hrest
  obtain rfl | rfl := hhyphen
  · have hdash : c ≠ '-' := by
      intro hdash
      rw [hdash] at hc
      cases hc
    simp [className, hc, htake, hdash]
  · simp [className, hc, htake]

/-- A group is read as attributes. -/
theorem IsGroup.reads_as (h : IsGroup group) (line : Nat) :
    ∃ ls, (∀ l ∈ ls, l.isAttribute = true) ∧ ReadsAs line group ls := by
  cases h with
  | @idName name hne h =>
      refine ⟨[.idName (.text (String.ofList name))], by simp [Lexeme.isAttribute], ?_⟩
      intro column rest hrest
      refine ⟨[⟨.idName (.text (String.ofList name)), ⟨line, column⟩⟩], rfl, ?_⟩
      have hlength : column + 1 + name.length = column + ('#' :: name).length := by
        rw [List.length_cons]
        omega
      rw [List.cons_append, tagTokens]
      simp only [↓reduceIte, take_while_is_word_or_hyphen h hrest, List.isEmpty_iff, hne,
        List.drop_left, hlength]
      rfl
  | @className hyphen name c hhyphen hc h =>
      refine ⟨[.className (.text (String.ofList (hyphen ++ c :: name)))],
        by simp [Lexeme.isAttribute], ?_⟩
      intro column rest hrest
      refine ⟨[⟨.className (.text (String.ofList (hyphen ++ c :: name))), ⟨line, column⟩⟩], rfl, ?_⟩
      have hlength : column + 1 + (hyphen ++ c :: name).length =
          column + ('.' :: (hyphen ++ c :: name)).length := by
        rw [List.length_cons]
        omega
      have hne : (hyphen ++ c :: name).isEmpty = false := by simp
      rw [List.cons_append, tagTokens]
      simp only [Char.reduceEq, ↓reduceIte, class_name_append hhyphen hc h hrest, hne,
        Bool.not_false, List.drop_left, hlength]
      rfl
  | @attributes _ _ text tokens h =>
      refine ⟨lexemes tokens, is_attribute_of_attribute_list h, ?_⟩
      intro column rest _
      obtain ⟨others, hothers, hsame⟩ := attribute_list_append h line (column + 1) rest
      refine ⟨others, hsame, ?_⟩
      have hlength : column + 1 + ((text ++ rest).length - rest.length) =
          column + ('(' :: text).length := by
        rw [List.length_append, List.length_cons]
        omega
      rw [List.cons_append, tag_tokens_open, hothers, ← hlength]
      rfl

/-- The first character of a group. -/
theorem IsGroup.exists_cons (h : IsGroup group) :
    ∃ c more, group = c :: more ∧ (c = '#' ∨ c = '.' ∨ c = '(') := by
  cases h with
  | idName _ _ => exact ⟨'#', _, rfl, .inl rfl⟩
  | className _ _ _ => exact ⟨'.', _, rfl, .inr (.inl rfl)⟩
  | attributes _ => exact ⟨'(', _, rfl, .inr (.inr rfl)⟩

/-- The first character behind a tag name, if a group follows it. -/
theorem flatten_append_cases (h : ∀ group ∈ groups, IsGroup group) (rest : List Char) :
    groups.flatten = [] ∨
      ∃ c more, groups.flatten ++ rest = c :: more ∧ (c = '#' ∨ c = '.' ∨ c = '(') := by
  cases groups with
  | nil => exact .inl rfl
  | cons group groups =>
      obtain ⟨c, more, rfl, hc⟩ := (h group List.mem_cons_self).exists_cons
      exact .inr ⟨c, more ++ groups.flatten ++ rest, by simp, hc⟩

/-- Groups are read as attributes one after the other. -/
theorem reads_as_flatten (h : ∀ group ∈ groups, IsGroup group) (line : Nat) :
    ∃ ls, (∀ l ∈ ls, l.isAttribute = true) ∧ ReadsAs line groups.flatten ls := by
  induction groups with
  | nil =>
      refine ⟨[], by simp, fun column rest _ => ⟨[], rfl, ?_⟩⟩
      simp
  | cons group groups ih =>
      obtain ⟨hgroup, hgroups⟩ := List.forall_mem_cons.mp h
      obtain ⟨ls, hls, hread⟩ := hgroup.reads_as line
      obtain ⟨more, hmore, hreads⟩ := ih hgroups
      refine ⟨ls ++ more, List.forall_mem_append.mpr ⟨hls, hmore⟩, ?_⟩
      intro column rest hrest
      -- Another group or the rest follows, so that the last name of the group does not go on.
      have hhead : ∀ c ∈ (groups.flatten ++ rest).head?, Text.isWordOrHyphen c = false := by
        rcases flatten_append_cases hgroups rest with hnil | ⟨c, after, heq, hc⟩
        · rw [hnil]
          exact hrest
        · rw [heq]
          intro d hd
          cases hd
          rcases hc with rfl | rfl | rfl <;> decide
      obtain ⟨tokens, htokens, hfirst⟩ := hread column (groups.flatten ++ rest) hhead
      obtain ⟨others, hothers, hlast⟩ := hreads (column + group.length) rest hrest
      refine ⟨tokens ++ others, ?_, ?_⟩
      · rw [onLines, onLine, List.map_append, List.map_append]
        exact congrArg₂ (· ++ ·) htokens hothers
      · rw [List.flatten_cons, List.append_assoc, hfirst, hlast, List.length_append,
          ← Nat.add_assoc]
        simp only [bind_assoc, pure_bind, List.append_assoc]

/-! ## Heads -/

/-- A tag name does not open with a directive if a group or a colon follows it. -/
theorem directive?_cons {c : Char} (hname : isTagName name = true)
    (hc : c = '#' ∨ c = '.' ∨ c = '(' ∨ c = ':') (rest : List Char) :
    directive? (name ++ c :: rest) = none := by
  rcases hc with rfl | rfl | rfl | rfl <;>
    exact directive?_tag hname (by decide) (by decide) rest

/-- A directive that is a whole tag name has no argument. -/
theorem eq_nil_of_directive? (hname : isTagName name = true) {d : Directive}
    {argument : List Char} (h : directive? name = some (d, argument)) : argument = [] := by
  unfold directive? at h
  obtain ⟨word, _, hword⟩ := List.exists_of_findSome?_eq_some h
  dsimp only at hword
  split at hword
  · split at hword
    · cases hword
      rfl
    · rename_i c rest hdrop
      have hc : c ∈ name := List.mem_of_mem_drop (hdrop ▸ List.mem_cons_self)
      rw [is_blank_of_is_tag_char (is_tag_char_of_mem hname hc)] at hword
      cases hword
  · cases hword

/-- The first character of a head is not blank. -/
theorem IsHead.exists_cons (h : IsHead head) :
    ∃ c more, head = c :: more ∧ Text.isBlank c = false := by
  cases h with
  | @intro name groups hname _ =>
      cases name with
      | nil => cases hname
      | cons c cs =>
          exact ⟨c, cs ++ groups.flatten, rfl,
            is_blank_of_is_tag_char (is_tag_char_of_mem hname List.mem_cons_self)⟩

/-- A head with a colon behind it does not open with a directive. -/
theorem IsHead.directive?_colon (h : IsHead head) (rest : List Char) :
    directive? (head ++ ':' :: rest) = none := by
  cases h with
  | intro hname hgroups =>
      rw [List.append_assoc]
      rcases flatten_append_cases hgroups (':' :: rest) with hnil | ⟨c, more, heq, hc⟩
      · rw [hnil, List.nil_append]
        exact directive?_cons hname (by simp) rest
      · rw [heq]
        exact directive?_cons hname (by tauto) more

/-- A head that can be read does not open with a directive: it has no room for the argument. -/
theorem IsHead.directive?_of_tokens (h : IsHead head) {tokens : List Token}
    (htokens : Line.tokens line column head = .ok tokens) : directive? head = none := by
  cases h with
  | @intro name groups hname hgroups =>
      rcases flatten_append_cases hgroups [] with hnil | ⟨c, more, heq, hc⟩
      · rw [hnil, List.append_nil] at htokens ⊢
        cases hdirective : directive? name with
        | none => rfl
        | some r =>
            obtain ⟨d, argument⟩ := r
            obtain ⟨hbar, hmark⟩ := tag_name_head hname []
            rw [List.append_nil] at hbar hmark
            rw [Line.tokens, if_neg hbar, hmark, hdirective,
              eq_nil_of_directive? hname hdirective] at htokens
            cases htokens
      · rw [List.append_nil] at heq
        rw [heq]
        exact directive?_cons hname (by tauto) more

/-- A head is read before what follows it. -/
theorem IsHead.tokens_append (h : IsHead head) (line : Nat) :
    ∃ name ls, (∀ l ∈ ls, l.isAttribute = true) ∧
      ∀ column rest, directive? (head ++ rest) = none →
        (rest = [] ∨ ∃ more, rest = ':' :: ' ' :: more) →
          ∃ tokens, onLines tokens = onLine line (.tagName name :: ls) ∧
            Line.tokens line column (head ++ rest) = (do
              let more ← tagTokens line (column + head.length) rest
              return tokens ++ more) := by
  cases h with
  | @intro name groups hname hgroups =>
      obtain ⟨ls, hls, hread⟩ := reads_as_flatten hgroups line
      refine ⟨String.ofList name, ls, hls, ?_⟩
      intro column rest hdirective hrest
      have hhead : ∀ c ∈ rest.head?, Text.isWordOrHyphen c = false := by
        rcases hrest with rfl | ⟨more, rfl⟩
        · simp
        · intro c hc
          cases hc
          decide
      -- A colon could belong to the name, but the space behind it cannot.
      have hend : ∀ c ∈ (groups.flatten ++ rest).takeWhile isTagChar, Text.isWord c = false := by
        rcases flatten_append_cases hgroups rest with hnil | ⟨c, more, heq, hc⟩
        · rw [hnil, List.nil_append]
          rcases hrest with rfl | ⟨more, rfl⟩
          · simp
          · rw [List.takeWhile_cons_of_pos (by decide), List.takeWhile_cons_of_neg (by decide)]
            intro c hc
            rw [List.mem_singleton.mp hc]
            decide
        · rw [heq, List.takeWhile_cons_of_neg]
          · simp
          · rcases hc with rfl | rfl | rfl <;> decide
      obtain ⟨tokens, htokens, heq⟩ := hread (column + name.length) rest hhead
      refine ⟨⟨.tagName (String.ofList name), ⟨line, column⟩⟩ :: tokens, ?_, ?_⟩
      · show (Lexeme.tagName (String.ofList name), (line : Int)) :: onLines tokens = _
        rw [htokens]
        rfl
      · rw [List.append_assoc] at hdirective ⊢
        rw [tokens_tag_name hname hdirective hend, heq, List.length_append, ← Nat.add_assoc]
        simp only [bind_assoc, pure_bind, List.cons_append]

/-- The first character of a line that can be read is not blank. -/
theorem exists_cons_of_tokens {tokens : List Token}
    (h : Line.tokens line column cs = .ok tokens) :
    ∃ c more, cs = c :: more ∧ Text.isBlank c = false := by
  cases cs with
  | nil =>
      rw [Line.tokens] at h
      cases h
  | cons c more =>
      refine ⟨c, more, rfl, ?_⟩
      rw [Line.tokens] at h
      split at h
      · rename_i hbar
        cases hbar
        decide
      · split at h
        · rename_i hmark
          unfold Placeholder.startsWithMark Placeholder.first? at hmark
          split at hmark
          · rename_i heq
            rw [(List.cons.inj heq).1]
            decide
          · cases hmark
        · split at h
          · rename_i d argument hdirective
            obtain ⟨rest, hrest⟩ := word_prefix_of_directive? hdirective
            have hhead := congrArg List.head? hrest
            cases d <;> cases hhead <;> decide
          · dsimp only at h
            split at h
            · rename_i hname
              have hstart : isNameStart c = true := by
                by_contra hstart
                rw [tagName, if_neg hstart] at hname
                cases hname
              have hchar : isTagChar c = true :=
                @is_tag_char_of_mem [c] (by simp [isTagName, hstart]) c List.mem_cons_self
              exact is_blank_of_is_tag_char hchar
            · split at h
              · rename_i hshorthand
                rcases hshorthand with hc | hc <;> cases hc <;> decide
              · cases h

/-- A head that can be read is read as a tag name and attributes. -/
theorem IsHead.on_lines_tokens (h : IsHead head) {start : List Token}
    (hstart : Line.tokens line column head = .ok start) :
    ∃ name ls, (∀ l ∈ ls, l.isAttribute = true) ∧
      onLines start = onLine line (.tagName name :: ls) ∧
      ∀ rest, ∃ tokens, onLines tokens = onLines start ∧
        Line.tokens line column (head ++ ':' :: ' ' :: rest) = (do
          let more ← tagTokens line (column + head.length) (':' :: ' ' :: rest)
          return tokens ++ more) := by
  obtain ⟨name, ls, hls, hread⟩ := h.tokens_append line
  have hlines : onLines start = onLine line (.tagName name :: ls) := by
    have hdirective := h.directive?_of_tokens hstart
    rw [← List.append_nil head] at hdirective hstart
    obtain ⟨tokens, htokens, heq⟩ := hread column [] hdirective (.inl rfl)
    rw [hstart, tagTokens] at heq
    cases heq
    rw [List.append_nil]
    exact htokens
  refine ⟨name, ls, hls, hlines, fun rest => ?_⟩
  rw [hlines]
  exact hread column (':' :: ' ' :: rest) (h.directive?_colon _) (.inr ⟨rest, rfl⟩)

/-- A colon and a space put the tokens of any line behind those of a head. -/
theorem IsHead.tokens_colon (h : IsHead head) {start content : List Token} {other : Nat}
    (hstart : Line.tokens line column head = .ok start)
    (hcontent : Line.tokens line other cs = .ok content) :
    ∃ (colon : Token) (tokens : List Token), colon.lexeme = .colon ∧
      Line.tokens line column (head ++ ':' :: ' ' :: cs) = .ok tokens ∧
      onLines tokens = onLines (start ++ colon :: content) := by
  obtain ⟨_, _, _, _, hread⟩ := h.on_lines_tokens hstart
  obtain ⟨front, hfront, heq⟩ := hread cs
  obtain ⟨inner, hinner, hsame⟩ := exists_tokens_column hcontent (column + head.length + 1 + 1)
  obtain ⟨c, more, rfl, hc⟩ := exists_cons_of_tokens hcontent
  have htrim : Text.trimStart (' ' :: c :: more) = c :: more := by
    rw [Text.trimStart, List.dropWhile_cons_of_pos (by decide),
      List.dropWhile_cons_of_neg (by simp [hc])]
  have hlength : (' ' :: c :: more).length - (c :: more).length = 1 := by
    rw [List.length_cons]
    omega
  have hcolon : tagTokens line (column + head.length) (':' :: ' ' :: c :: more) =
      .ok (⟨.colon, ⟨line, (column + head.length : Nat)⟩⟩ :: inner) := by
    rw [tagTokens]
    simp only [Char.reduceEq, ↓reduceIte, htrim, hlength, hinner, List.isEmpty_cons,
      Bool.false_eq_true]
    rfl
  rw [heq, hcolon]
  refine ⟨⟨.colon, ⟨line, (column + head.length : Nat)⟩⟩, _, rfl, rfl, ?_⟩
  rw [onLines, onLines, List.map_append, List.map_append, List.map_cons, List.map_cons]
  exact congrArg₂ (· ++ _ :: ·) hfront hsame

end ElementMarkup.Line
