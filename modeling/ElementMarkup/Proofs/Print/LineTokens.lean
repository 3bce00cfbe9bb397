import ElementMarkup.Proofs.Print.Syntax
import ElementMarkup.Proofs.Text
import Mathlib.Data.List.TakeWhile
import Mathlib.Tactic.ByContra

/-!
# The tokens of written lines

Each line of written markup is read as the lexemes of its node. The lemmas follow the reader from
the inside out: a quoted or bare value, an attribute, the attributes of a tag, and the three kinds
of lines (`tokens_tag_head`, `tokens_bar_text`, `tokens_directive_text`).
-/

namespace ElementMarkup.Print

open Line

/-! ## Values -/

/-- An escaped text between quotes is read back. -/
theorem quoted_value?_escape (cs rest : List Char) :
    quotedValue? '"' (escape cs ++ '"' :: rest) = some (cs, rest) := by
  induction cs with
  | nil => rfl
  | cons c cs ih =>
      unfold escape
      by_cases hc : c = '\\' ∨ c = '"'
      · rw [if_pos hc, List.cons_append, List.cons_append, quotedValue?.eq_2, ih]
        rfl
      · obtain ⟨hbackslash, hquote⟩ := not_or.mp hc
        rw [if_neg hc, List.cons_append,
          quotedValue?.eq_3 _ _ _ (fun d more h _ => hbackslash h), if_neg hquote, ih]
        rfl

/-- The digits of a number are read to their end. -/
theorem span_to_digits (n : Nat) :
    (Nat.toDigits 10 n).takeWhile Text.isDigit = Nat.toDigits 10 n ∧
      (Nat.toDigits 10 n).dropWhile Text.isDigit = [] := by
  have hdigits : ∀ c ∈ Nat.toDigits 10 n, Text.isDigit c = true :=
    fun c hc => Text.is_digit_of_mem_to_digits hc
  exact ⟨List.takeWhile_eq_self_iff.mpr hdigits, List.dropWhile_eq_nil_iff.mpr hdigits⟩

/-- A whole number is read as its sign and its digits. -/
theorem numeral?_decimal (n : Int) :
    Number.numeral? (Placeholder.decimal n) =
      some ⟨decide (n < 0), Nat.toDigits 10 n.natAbs, none, none⟩ := by
  cases n with
  | ofNat m =>
      have hminus (rest : List Char) : Nat.toDigits 10 m ≠ '-' :: rest := by
        intro h
        have hdigit : Text.isDigit '-' = true :=
          Text.is_digit_of_mem_to_digits (h ▸ List.mem_cons_self)
        exact absurd hdigit (by decide)
      show Number.numeral? (Nat.toDigits 10 m) = _
      unfold Number.numeral?
      split
      rename_i negative cs hsign
      split at hsign
      · rename_i rest h
        exact absurd h (hminus rest)
      · cases hsign
        simp [span_to_digits m, Number.exponentPart?]
  | negSucc m =>
      unfold Placeholder.decimal Number.numeral?
      simp [span_to_digits (m + 1), Number.exponentPart?, Int.negSucc_lt_zero]

/-- A whole number is read back, unless it has too many digits. -/
theorem bare_value_decimal {n : Int} {column : Nat}
    (h : (Nat.toDigits 10 n.natAbs).length ≤ integerDigitLimit) :
    bareValue (Placeholder.decimal n) column = .ok (.integer n) := by
  have hvalue : (⟨decide (n < 0), Nat.toDigits 10 n.natAbs, none, none⟩ : Number.Numeral).toInt
      = n := by
    unfold Number.Numeral.toInt
    simp only [Text.digits_value_to_digits, decide_eq_true_eq]
    split <;> omega
  -- A word is no numeral, so the digits cannot be taken for a truth value.
  have hword (word : List Char) (hnone : Number.numeral? word = none) :
      Placeholder.decimal n ≠ word := by
    rintro rfl
    rw [numeral?_decimal] at hnone
    cases hnone
  unfold bareValue
  rw [if_neg (hword _ (by decide)), if_neg (hword _ (by decide)), numeral?_decimal]
  show (if !(true && true) then _ else if integerDigitLimit < _ then _ else _) = _
  rw [if_neg (by decide), if_neg (Nat.not_lt.mpr h), hvalue]

/-- What can follow the value of an attribute. -/
def EndsValue (rest : List Char) : Prop :=
  ∃ c more, rest = c :: more ∧ isBareChar c = false

/-- A value without quotes is read up to its end. -/
theorem attribute_value_bare {c : Char} {cs rest : List Char} {column : Nat} {value : Scalar}
    (hquote : c ≠ '\'' ∧ c ≠ '"') (hbare : ∀ d ∈ c :: cs, isBareChar d = true)
    (hvalue : bareValue (c :: cs) column = .ok value) (hrest : EndsValue rest) :
    attributeValue column (c :: cs ++ rest) = .ok (value, rest) := by
  obtain ⟨d, more, rfl, hd⟩ := hrest
  have htake : (c :: cs ++ d :: more).takeWhile isBareChar = c :: cs := by
    rw [List.takeWhile_append_of_pos hbare, List.takeWhile_cons_of_neg (by simp [hd]),
      List.append_nil]
  have hdrop : (c :: cs ++ d :: more).dropWhile isBareChar = d :: more := by
    rw [List.dropWhile_append_of_pos hbare, List.dropWhile_cons_of_neg (by simp [hd])]
  rw [List.cons_append] at htake hdrop ⊢
  rw [attributeValue.eq_2, if_neg (not_or.mpr hquote), htake, hdrop, hvalue]
  rfl

/-- A character of a written number belongs to a value without quotes, and is no quote. -/
theorem is_bare_char_of_mem_decimal {n : Int} {c : Char} (h : c ∈ Placeholder.decimal n) :
    isBareChar c = true ∧ c ≠ '\'' ∧ c ≠ '"' := by
  have hdigit {m : Nat} (hc : c ∈ Nat.toDigits 10 m) :
      isBareChar c = true ∧ c ≠ '\'' ∧ c ≠ '"' := by
    have hdigit := Nat.isDigit_of_mem_toDigits (by decide) (by decide) hc
    refine ⟨?_, ?_, ?_⟩
    · simp only [isBareChar, isSeparator, isGap, Bool.and_eq_true, Bool.not_eq_true',
        Bool.or_eq_false_iff, beq_eq_false_iff_ne, bne_iff_ne]
      refine ⟨⟨⟨?_, ?_⟩, ?_⟩, ?_⟩ <;> rintro rfl <;> revert hdigit <;> decide
    · rintro rfl
      revert hdigit
      decide
    · rintro rfl
      revert hdigit
      decide
  cases n with
  | ofNat m => exact hdigit h
  | negSucc m =>
      rcases List.mem_cons.mp h with rfl | h
      · decide
      · exact hdigit h

/-- A written value is read back. -/
theorem attribute_value_value_text {value : Scalar} {rest : List Char} {column : Nat}
    (h : isValue value = true) (hrest : EndsValue rest) :
    attributeValue column (valueText value ++ rest) = .ok (value, rest) := by
  cases value with
  | text v =>
      show attributeValue column ('"' :: (escape v.toList ++ ['"']) ++ rest) = _
      rw [List.cons_append, List.append_assoc, attributeValue.eq_2, if_pos (.inr rfl),
        List.singleton_append, quoted_value?_escape]
      show Except.ok (Scalar.text (String.ofList v.toList), rest) = _
      rw [String.ofList_toList]
  | integer n =>
      have hne : Placeholder.decimal n ≠ [] := by
        cases n with
        | ofNat m => exact Nat.toDigits_ne_nil
        | negSucc m => exact List.cons_ne_nil _ _
      obtain ⟨c, cs, hcs⟩ := List.exists_cons_of_ne_nil hne
      have hbare := fun d (hd : d ∈ c :: cs) => is_bare_char_of_mem_decimal (n := n) (hcs ▸ hd)
      show attributeValue column (Placeholder.decimal n ++ rest) = _
      rw [hcs]
      refine attribute_value_bare (hbare c List.mem_cons_self).2 (fun d hd => (hbare d hd).1) ?_
        hrest
      rw [← hcs]
      exact bare_value_decimal (of_decide_eq_true h)
  | boolean b =>
      cases b with
      | true =>
          exact attribute_value_bare (by decide) (List.all_eq_true.mp (by decide)) rfl hrest
      | false =>
          exact attribute_value_bare (by decide) (List.all_eq_true.mp (by decide)) rfl hrest
  | float _ => cases h
  | null => cases h
  | bytes _ => cases h

/-! ## Attributes -/

/-- The first character of a written value is no gap. -/
theorem drop_while_is_gap_value_text {value : Scalar} (h : isValue value = true)
    (rest : List Char) : (valueText value ++ rest).dropWhile isGap = valueText value ++ rest := by
  have hhead {c : Char} {cs : List Char} (hc : isGap c = false) :
      (c :: cs ++ rest).dropWhile isGap = c :: cs ++ rest :=
    List.dropWhile_cons_of_neg (by simp [hc])
  cases value with
  | text v => exact hhead rfl
  | integer n =>
      show (Placeholder.decimal n ++ rest).dropWhile isGap = Placeholder.decimal n ++ rest
      cases hcs : Placeholder.decimal n with
      | nil =>
          cases n with
          | ofNat m => exact absurd hcs Nat.toDigits_ne_nil
          | negSucc m => cases hcs
      | cons c cs =>
          have hbare := (is_bare_char_of_mem_decimal (n := n) (hcs ▸ List.mem_cons_self)).1
          apply hhead
          simp only [isBareChar, isSeparator, Bool.and_eq_true, Bool.not_eq_true',
            Bool.or_eq_false_iff] at hbare
          exact hbare.1.1
  | boolean b => cases b <;> exact hhead rfl
  | float _ => cases h
  | null => cases h
  | bytes _ => cases h

/-- A written attribute is read back. -/
theorem attribute_pair_attribute_text {a : Attribute} {rest : List Char} {line column : Nat}
    (h : isAttribute a = true) (hrest : EndsValue rest) :
    attributePair line column (attributeText a ++ rest) =
      .ok (⟨.attributePair a.name a.value, ⟨line, column⟩⟩, rest) := by
  obtain ⟨hname, hvalue⟩ := Bool.and_eq_true_iff.mp h
  obtain ⟨hne, hchars⟩ := Bool.and_eq_true_iff.mp hname
  rw [List.all_eq_true] at hchars
  unfold attributeText
  rw [List.append_assoc, List.cons_append]
  have hequals : isAttributeChar '=' = false := by decide
  have htake : (a.name.toList ++ '=' :: (valueText a.value ++ rest)).takeWhile isAttributeChar =
      a.name.toList := by
    rw [List.takeWhile_append_of_pos hchars, List.takeWhile_cons_of_neg (by simp [hequals]),
      List.append_nil]
  have hdrop : ((a.name.toList ++ '=' :: (valueText a.value ++ rest)).dropWhile
      isAttributeChar).dropWhile isGap = '=' :: (valueText a.value ++ rest) := by
    rw [List.dropWhile_append_of_pos hchars, List.dropWhile_cons_of_neg (by simp [hequals])]
    exact List.dropWhile_cons_of_neg (by decide)
  unfold attributePair
  rw [htake, hdrop]
  simp only [drop_while_is_gap_value_text hvalue, attribute_value_value_text hvalue hrest,
    String.ofList_toList]
  rw [if_neg (by simpa using hne)]
  rfl

/-- One attribute of a list is read, and then the others. -/
theorem attribute_list_cons {line column : Nat} {cs rest after : List Char} {c : Char} {l : Lexeme}
    (hstart : cs.dropWhile isSeparator = c :: rest) (hc : c ≠ ')')
    (hpair : ∀ place, attributePair line place (c :: rest) = .ok (⟨l, ⟨line, place⟩⟩, after)) :
    ∃ place next : Nat, attributeList line column cs = (do
      let r ← attributeList line next after
      return (⟨l, ⟨line, place⟩⟩ :: r.1, r.2)) := by
  rw [attributeList]
  split
  · rename_i h
    rw [hstart] at h
    cases h
  · rename_i d more h
    rw [hstart] at h
    cases h
    rw [if_neg hc]
    split
    · rename_i hother
      rw [hpair] at hother
      cases hother
    · rename_i hother
      rw [hpair] at hother
      cases hother
      exact ⟨_, _, rfl⟩

/-- The closing parenthesis ends a list of attributes. -/
theorem attribute_list_close {line column : Nat} {cs rest : List Char}
    (hstart : cs.dropWhile isSeparator = ')' :: rest) :
    attributeList line column cs = .ok ([], rest) := by
  rw [attributeList]
  split
  · rename_i h
    rw [hstart] at h
    cases h
  · rename_i d more h
    rw [hstart] at h
    cases h
    rw [if_pos rfl]

/-- The first character of an attribute is neither a separator nor a closing parenthesis. -/
theorem attribute_text_eq_cons {a : Attribute} (h : isAttribute a = true) :
    ∃ c cs, attributeText a = c :: cs ∧ isSeparator c = false ∧ c ≠ ')' := by
  obtain ⟨hname, -⟩ := Bool.and_eq_true_iff.mp h
  obtain ⟨hne, hchars⟩ := Bool.and_eq_true_iff.mp hname
  unfold attributeText
  cases hcs : a.name.toList with
  | nil => simp [hcs] at hne
  | cons c cs =>
      refine ⟨c, cs ++ '=' :: valueText a.value, rfl, ?_, ?_⟩
      · rw [hcs, List.all_cons, Bool.and_eq_true] at hchars
        have hc := hchars.1
        unfold isAttributeChar at hc
        by_contra hsep
        simp only [isSeparator, isGap, Bool.not_eq_false, Bool.or_eq_true, beq_iff_eq] at hsep
        rcases hsep with (rfl | rfl) | rfl <;> revert hc <;> decide
      · rintro rfl
        rw [hcs, List.all_cons, Bool.and_eq_true] at hchars
        exact absurd hchars.1 (by decide)

/-- Written attributes are read back up to the closing parenthesis, whatever separators precede
them. -/
theorem attribute_list_attributes_text {as : List Attribute} (h : as.all isAttribute = true)
    (separators rest : List Char) (hsep : ∀ c ∈ separators, isSeparator c = true)
    (line column : Nat) :
    ∃ tokens, attributeList line column (separators ++ (attributesText as ++ ')' :: rest)) =
        .ok (tokens, rest) ∧
      shapes tokens = as.map fun a => .attributePair a.name a.value := by
  induction as generalizing separators column with
  | nil =>
      refine ⟨[], attribute_list_close ?_, rfl⟩
      rw [List.dropWhile_append_of_pos hsep]
      exact List.dropWhile_cons_of_neg (by decide)
  | cons a as ih =>
      rw [List.all_cons, Bool.and_eq_true] at h
      obtain ⟨c, cs, hcs, hc, hclose⟩ := attribute_text_eq_cons h.1
      -- What follows the attribute: the closing parenthesis, or a comma and the other attributes.
      obtain ⟨more, hmore, hmoresep, htext⟩ : ∃ more : List Char,
          EndsValue (more ++ (attributesText as ++ ')' :: rest)) ∧
          (∀ d ∈ more, isSeparator d = true) ∧
          attributesText (a :: as) = attributeText a ++ more ++ attributesText as := by
        cases as with
        | nil =>
            refine ⟨[], ⟨')', rest, rfl, by decide⟩, by simp, ?_⟩
            simp [attributesText, Text.joinWith]
        | cons b as =>
            refine ⟨[',', ' '], ⟨',', _, rfl, by decide⟩, List.all_eq_true.mp (by decide), ?_⟩
            unfold attributesText Text.joinWith
            rw [List.map_cons, List.map_cons, List.intercalate_cons_cons]
      have hstart : (separators ++ (attributesText (a :: as) ++ ')' :: rest)).dropWhile
          isSeparator = c :: (cs ++ (more ++ (attributesText as ++ ')' :: rest))) := by
        rw [List.dropWhile_append_of_pos hsep, htext, hcs]
        simp only [List.cons_append, List.append_assoc]
        exact List.dropWhile_cons_of_neg (by simp [hc])
      have hpair (place : Nat) :
          attributePair line place (c :: (cs ++ (more ++ (attributesText as ++ ')' :: rest)))) =
            .ok (⟨.attributePair a.name a.value, ⟨line, place⟩⟩,
              more ++ (attributesText as ++ ')' :: rest)) := by
        rw [← attribute_pair_attribute_text h.1 hmore, hcs]
        rfl
      obtain ⟨place, next, heq⟩ := @attribute_list_cons line column _ _ _ c _ hstart hclose hpair
      obtain ⟨tokens, htokens, hshapes⟩ := ih h.2 more hmoresep next
      rw [heq, htokens]
      exact ⟨_, rfl, by rw [shapes_cons, hshapes]; rfl⟩

/-! ## Lines -/

/-- A tag name is read to its end, unless more of it follows. -/
theorem tag_name_append {name rest : List Char} (h : isTagName name = true)
    (hrest : ∀ c ∈ rest.takeWhile isTagChar, Text.isWord c = false) :
    tagName (name ++ rest) = name := by
  cases name with
  | nil => cases h
  | cons c cs =>
      simp only [isTagName, Bool.and_eq_true, List.all_eq_true] at h
      obtain ⟨⟨hstart, hchars⟩, hlast⟩ := h
      have hend : cs.reverse.dropWhile (fun c => !Text.isWord c) = cs.reverse := by
        cases hrev : cs.reverse with
        | nil => rfl
        | cons d ds =>
            have hd : cs.getLast? = some d := by
              rw [← List.head?_reverse, hrev]
              rfl
            rw [hd] at hlast
            have hword : Text.isWord d = true := hlast
            exact List.dropWhile_cons_of_neg (by simp [hword])
      have hdrop : ∀ d ∈ (rest.takeWhile isTagChar).reverse, (!Text.isWord d) = true := by
        intro d hd
        rw [hrest d (List.mem_reverse.mp hd)]
        rfl
      rw [List.cons_append, tagName.eq_2, if_pos hstart, List.takeWhile_append_of_pos hchars,
        List.reverse_append, List.dropWhile_append_of_pos hdrop, hend, List.reverse_reverse]

/-- A character of a tag name is a word character, a colon or a hyphen. -/
theorem is_tag_char_of_mem {name : List Char} (h : isTagName name = true) {c : Char}
    (hc : c ∈ name) : isTagChar c = true := by
  cases name with
  | nil => cases h
  | cons d ds =>
      simp only [isTagName, Bool.and_eq_true, List.all_eq_true] at h
      obtain ⟨⟨hstart, hchars⟩, -⟩ := h
      rcases List.mem_cons.mp hc with rfl | hc
      · rcases Bool.or_eq_true_iff.mp hstart with halpha | hunderscore
        · simp [isTagChar, Text.is_word_of_is_alpha halpha]
        · rw [beq_iff_eq.mp hunderscore]
          decide
      · exact hchars c hc

/-- A character of a tag name is not blank. -/
theorem is_blank_of_is_tag_char {c : Char} (h : isTagChar c = true) : Text.isBlank c = false := by
  simp only [isTagChar, Bool.or_eq_true, beq_iff_eq] at h
  rcases h with (hword | rfl) | rfl
  · exact Text.is_blank_of_is_word hword
  · decide
  · decide

/-- A tag name with a character after it that ends a name does not open with a directive, even if it
is or starts with the word of one. -/
theorem directive?_tag {name : List Char} (h : isTagName name = true) {c : Char}
    (hblank : Text.isBlank c = false) (hword : Text.isWord c = false) (rest : List Char) :
    directive? (name ++ c :: rest) = none := by
  unfold directive?
  rw [List.findSome?_eq_none_iff]
  intro d hd
  have hc : c ∉ d.word.toList := by
    intro hmem
    have hletters : ∀ c ∈ d.word.toList, Text.isWord c = true := by
      cases d <;> exact List.all_eq_true.mp (by decide)
    rw [hletters c hmem] at hword
    cases hword
  simp only
  split
  · rename_i hpre
    obtain ⟨after, hafter⟩ := List.isPrefixOf_iff_prefix.mp hpre
    rw [← hafter, List.drop_left]
    -- The word ends inside the name or right before the character.
    have hcases : after = c :: rest ∨ ∃ d more, after = d :: more ∧ d ∈ name := by
      rcases List.append_eq_append_iff.mp hafter with ⟨as, hname, heq⟩ | ⟨as, hword, heq⟩
      · cases as with
        | nil => exact .inl heq
        | cons d cs => exact .inr ⟨d, cs ++ c :: rest, heq, by simp [hname]⟩
      · cases as with
        | nil => exact .inl heq.symm
        | cons d cs =>
            cases heq
            exact absurd (by simp [hword]) hc
    rcases hcases with rfl | ⟨d, more, rfl, hd⟩
    · simp [hblank]
    · simp [is_blank_of_is_tag_char (is_tag_char_of_mem h hd)]
  · rfl

/-- The first character of a tag name opens neither a text nor a mark. -/
theorem tag_name_head {name : List Char} (h : isTagName name = true) (rest : List Char) :
    (name ++ rest).head? ≠ some '|' ∧ Placeholder.startsWithMark (name ++ rest) = false := by
  cases name with
  | nil => cases h
  | cons c cs =>
      simp only [isTagName, Bool.and_eq_true] at h
      have hstart := h.1.1
      constructor
      · intro hbar
        cases hbar
        exact absurd hstart (by decide)
      · unfold Placeholder.startsWithMark Placeholder.first?
        split
        · rename_i heq
          rw [List.cons_append] at heq
          rw [(List.cons.inj heq).1] at hstart
          exact absurd hstart (by decide)
        · rfl

/-- The name of a tag is read, and then what follows it. -/
theorem tokens_tag_name {name rest : List Char} (hname : isTagName name = true)
    (hdirective : directive? (name ++ rest) = none)
    (hrest : ∀ c ∈ rest.takeWhile isTagChar, Text.isWord c = false) (line column : Nat) :
    Line.tokens line column (name ++ rest) = (do
      let more ← tagTokens line (column + name.length) rest
      return ⟨.tagName (String.ofList name), ⟨line, column⟩⟩ :: more) := by
  obtain ⟨hbar, hmark⟩ := tag_name_head hname rest
  have hne : name.isEmpty = false := by
    cases name with
    | nil => cases hname
    | cons c cs => rfl
  rw [Line.tokens, if_neg hbar, hmark, hdirective]
  simp only [Bool.false_eq_true, ↓reduceIte, tag_name_append hname hrest, hne, Bool.not_false,
    List.drop_left]

/-- The attributes in parentheses are read, and then what follows them. -/
theorem tag_tokens_open (line column : Nat) (cs : List Char) :
    tagTokens line column ('(' :: cs) = (do
      let r ← attributeList line (column + 1) cs
      let more ← tagTokens line (column + 1 + (cs.length - r.2.length)) r.2
      return r.1 ++ more) := by
  rw [tagTokens]
  simp only [Char.reduceEq, ↓reduceIte]
  split
  · rename_i hlist
    rw [hlist]
    rfl
  · rename_i hlist
    rw [hlist]
    rfl

/-- The line of a tag is read as its name and its attributes. -/
theorem tokens_tag_head {name : List Char} {as : List Attribute} (hname : isTagName name = true)
    (has : as.all isAttribute = true) (line column : Nat) :
    ∃ tokens, Line.tokens line column (tagHead name as) = .ok tokens ∧
      shapes tokens = .tagName (String.ofList name) ::
        as.map fun a => .attributePair a.name a.value := by
  unfold tagHead
  rw [List.append_assoc, List.cons_append]
  obtain ⟨tokens, htokens, hshapes⟩ :=
    attribute_list_attributes_text has [] [] (by simp) line (column + name.length + 1)
  rw [List.nil_append] at htokens
  have hparen : ∀ c ∈ ('(' :: (attributesText as ++ [')'])).takeWhile isTagChar,
      Text.isWord c = false := by
    rw [List.takeWhile_cons_of_neg (by decide)]
    simp
  refine ⟨⟨.tagName (String.ofList name), ⟨line, column⟩⟩ :: tokens, ?_, ?_⟩
  · rw [tokens_tag_name hname (directive?_tag hname (by decide) (by decide) _) hparen,
      tag_tokens_open, htokens]
    simp [tagTokens, bind, Except.bind, pure, Except.pure]
  · rw [shapes_cons, hshapes]
    rfl

/-- The line of a text is read as the text. -/
theorem tokens_bar_text (cs : List Char) (line column : Nat) :
    Line.tokens line column ('|' :: ' ' :: cs) =
      .ok [⟨.text (String.ofList cs), ⟨line, column⟩⟩] := by
  rw [Line.tokens]
  rfl

/-- The line of a directive is read as the directive. -/
theorem tokens_directive_text {d : Directive} {argument : List Char} (hne : argument ≠ [])
    (htrim : Text.trim argument = argument) (line column : Nat) :
    Line.tokens line column (directiveText d argument) =
      .ok [⟨d.lexeme (String.ofList argument), ⟨line, column⟩⟩] := by
  have hdirective : directive? (directiveText d argument) = some (d, argument) := by
    have hspace : Text.isBlank ' ' = true := by
      decide
    have hblank : Text.trim (' ' :: argument) = argument := by
      rw [Text.trim_cons_of_is_blank hspace, htrim]
    cases d <;>
      simp [directive?, directiveText, Directive.word, hspace, hblank, List.findSome?]
  have hhead : (directiveText d argument).head? ≠ some '|' := by
    cases d <;> simp [directiveText, Directive.word]
  have hmark : Placeholder.startsWithMark (directiveText d argument) = false := by
    cases d <;> rfl
  rw [Line.tokens, if_neg hhead, hmark, hdirective]
  have hargument : argument.isEmpty = false := by
    simpa using hne
  simp only [Bool.false_eq_true, ↓reduceIte, directiveToken, hargument]
  rfl

end ElementMarkup.Print
