import ElementMarkup.Text.Blank
import ElementMarkup.Text.Digit
import ElementMarkup.Text.Lines
import ElementMarkup.Text.Word
import Mathlib.Tactic.ByContra

/-!
# Characters, digits and lines

What the classes of characters have in common, how decimal digits are read back, and how lines are
joined and cut again. `digits_value_to_digits` says that a number is read as it was written, and
`split_on_join_with` that lines without line ends survive being joined.
-/

namespace ElementMarkup.Text

/-! ## Classes of characters -/

/-- A code point of a class lies in one of its ranges. -/
theorem exists_range_of_in_ranges {ranges : List CodeRange} {n : Nat}
    (h : inRanges ranges n = true) : ∃ range ∈ ranges, range.1 ≤ n ∧ n ≤ range.2 := by
  induction ranges with
  | nil => cases h
  | cons range ranges ih =>
      unfold inRanges at h
      split at h
      · cases h
      · rename_i hfirst
        split at h
        · rename_i hlast
          exact ⟨range, List.mem_cons_self, Nat.not_lt.mp hfirst, hlast⟩
        · obtain ⟨other, hmem, hbounds⟩ := ih h
          exact ⟨other, List.mem_cons_of_mem _ hmem, hbounds⟩

/-- No code point of a blank range is one of a word range. -/
theorem in_ranges_word_ranges_of_blank_ranges :
    ∀ range ∈ blankRanges, ∀ n ∈ List.range' range.1 (range.2 + 1 - range.1),
      inRanges wordRanges n = false := by
  decide +kernel

/-- No word character is blank. -/
theorem is_blank_of_is_word {c : Char} (h : isWord c = true) : isBlank c = false := by
  by_contra hblank
  rw [Bool.not_eq_false] at hblank
  obtain ⟨range, hmem, hfirst, hlast⟩ := exists_range_of_in_ranges hblank
  have hword := in_ranges_word_ranges_of_blank_ranges range hmem c.toNat
    (List.mem_range'_1.mpr ⟨hfirst, by omega⟩)
  exact Bool.false_ne_true (hword.symm.trans h)

/-- The letters of ASCII stand in word ranges. -/
theorem in_ranges_word_ranges_of_letter :
    ∀ n ∈ List.range' 65 26 ++ List.range' 97 26, inRanges wordRanges n = true := by
  decide +kernel

/-- The code points of the letters of ASCII. -/
theorem to_nat_mem_of_is_alpha {c : Char} (h : c.isAlpha = true) :
    c.toNat ∈ List.range' 65 26 ++ List.range' 97 26 := by
  have hbounds : 65 ≤ c.toNat ∧ c.toNat ≤ 90 ∨ 97 ≤ c.toNat ∧ c.toNat ≤ 122 := by
    rcases Bool.or_eq_true_iff.mp h with hupper | hlower
    · exact .inl (of_decide_eq_true hupper)
    · obtain ⟨hleast, hmost⟩ := Bool.and_eq_true_iff.mp hlower
      exact .inr ⟨of_decide_eq_true hleast, of_decide_eq_true hmost⟩
  rw [List.mem_append, List.mem_range'_1, List.mem_range'_1]
  omega

/-- A letter of ASCII is a word character. -/
theorem is_word_of_is_alpha {c : Char} (h : c.isAlpha = true) : isWord c = true :=
  in_ranges_word_ranges_of_letter c.toNat (to_nat_mem_of_is_alpha h)

/-- Neither a word character nor a hyphen is blank. -/
theorem is_blank_of_is_word_or_hyphen {c : Char} (h : isWordOrHyphen c = true) :
    isBlank c = false := by
  rcases Bool.or_eq_true_iff.mp h with hword | hhyphen
  · exact is_blank_of_is_word hword
  · rw [beq_iff_eq.mp hhyphen]
    decide

/-- A text that neither starts nor ends with a blank is its own trimmed form. -/
theorem trim_eq_self {cs : List Char} (hhead : ∀ c ∈ cs.head?, isBlank c = false)
    (hlast : ∀ c ∈ cs.getLast?, isBlank c = false) : trim cs = cs := by
  have hstart : trimStart cs = cs := by
    cases cs with
    | nil => rfl
    | cons c cs => exact List.dropWhile_cons_of_neg (by simp [hhead c rfl])
  have hreverse : cs.reverse.dropWhile isBlank = cs.reverse := by
    cases hrev : cs.reverse with
    | nil => rfl
    | cons c rest =>
        have hc : cs.getLast? = some c := by
          rw [← List.head?_reverse, hrev]
          rfl
        exact List.dropWhile_cons_of_neg (by simp [hlast c hc])
  unfold trim
  rw [hstart]
  unfold trimEnd
  rw [hreverse, List.reverse_reverse]

/-- A leading blank does not matter to the trimmed form. -/
theorem trim_cons_of_is_blank {c : Char} {cs : List Char} (h : isBlank c = true) :
    trim (c :: cs) = trim cs := by
  unfold trim trimStart
  rw [List.dropWhile_cons_of_pos h]

/-- A text with a character that is not blank is not blank. -/
theorem all_blank_eq_false {c : Char} {cs : List Char} (hmem : c ∈ cs)
    (h : isBlank c = false) : allBlank cs = false := by
  unfold allBlank
  rw [List.all_eq_false]
  exact ⟨c, hmem, by simp [h]⟩

/-! ## Decimal digits -/

/-- The value of a digit of ASCII. -/
theorem digit_value?_of_is_digit {c : Char} (h : c.isDigit = true) :
    digitValue? c = some (c.toNat - '0'.toNat) := by
  have hbounds : 48 ≤ c.toNat ∧ c.toNat ≤ 57 := by
    simpa [Char.isDigit, UInt32.le_iff_toNat_le] using h
  unfold digitValue? zeroDigits digitValueFrom
  rw [if_neg (by omega), if_pos (by omega)]
  rfl

/-- A digit of ASCII is a decimal digit. -/
theorem is_digit_of_is_digit {c : Char} (h : c.isDigit = true) : isDigit c = true := by
  unfold isDigit
  rw [digit_value?_of_is_digit h]
  rfl

/-- The digits of a number are decimal digits. -/
theorem is_digit_of_mem_to_digits {n : Nat} {c : Char} (h : c ∈ Nat.toDigits 10 n) :
    isDigit c = true :=
  is_digit_of_is_digit (Nat.isDigit_of_mem_toDigits (by decide) (by decide) h)

/-- Digits of ASCII are read as numbers are. -/
theorem foldl_digit_value_eq_of_digit_chars {cs : List Char} (h : ∀ c ∈ cs, c.isDigit = true)
    (init : Nat) :
    cs.foldl (fun n c => 10 * n + (digitValue? c).getD 0) init = Nat.ofDigitChars 10 cs init := by
  induction cs generalizing init with
  | nil => rfl
  | cons c cs ih =>
      rw [List.foldl_cons, Nat.ofDigitChars_cons,
        digit_value?_of_is_digit (h c List.mem_cons_self)]
      exact ih (fun d hd => h d (List.mem_cons_of_mem _ hd)) _

/-- A number is read back from its digits. -/
@[simp] theorem digits_value_to_digits (n : Nat) : digitsValue (Nat.toDigits 10 n) = n := by
  unfold digitsValue
  rw [foldl_digit_value_eq_of_digit_chars
    (fun c hc => Nat.isDigit_of_mem_toDigits (by decide) (by decide) hc)]
  exact Nat.ofDigitChars_ten_toDigits

/-! ## Lines -/

/-- Cutting a text at a character is the library's cut. -/
theorem split_on_eq (separator : Char) (cs : List Char) :
    splitOn separator cs = cs.splitOn separator := by
  induction cs with
  | nil => rfl
  | cons c cs ih =>
      rw [List.splitOn_cons_eq_if_modifyHead]
      unfold splitOn
      rw [ih]
      simp only [beq_iff_eq]
      split
      · rfl
      · cases h : cs.splitOn separator with
        | nil => exact absurd h (List.splitOn_ne_nil _ _)
        | cons part parts => rfl

/-- A character in front of a text stands in front of its first part. -/
theorem split_on_cons_of_ne {separator c : Char} (h : c ≠ separator) (cs : List Char) :
    splitOn separator (c :: cs) = (splitOn separator cs).modifyHead (c :: ·) := by
  rw [split_on_eq, split_on_eq, List.splitOn_cons_eq_if_modifyHead, if_neg (by simpa using h)]

/-- No separator is left in the parts of a text. -/
theorem not_mem_of_mem_split_on {separator : Char} {cs part : List Char}
    (h : part ∈ splitOn separator cs) : separator ∉ part := by
  induction cs generalizing part with
  | nil =>
      obtain rfl := List.mem_singleton.mp h
      exact List.not_mem_nil
  | cons c cs ih =>
      rw [splitOn] at h
      split at h
      · rcases List.mem_cons.mp h with rfl | h
        · exact List.not_mem_nil
        · exact ih h
      · rename_i hc
        cases hparts : splitOn separator cs with
        | nil =>
            rw [hparts] at h
            obtain rfl := List.mem_singleton.mp h
            exact fun hmem => hc (List.mem_singleton.mp hmem).symm
        | cons first more =>
            rw [hparts] at h ih
            rcases List.mem_cons.mp h with rfl | h
            · intro hmem
              rcases List.mem_cons.mp hmem with rfl | hmem
              · exact hc rfl
              · exact ih List.mem_cons_self hmem
            · exact ih (List.mem_cons_of_mem _ h)

/-- Lines that hold no separator survive being joined and cut. -/
theorem split_on_join_with {separator : Char} {parts : List (List Char)} (hne : parts ≠ [])
    (h : ∀ part ∈ parts, separator ∉ part) :
    splitOn separator (joinWith [separator] parts) = parts := by
  rw [split_on_eq]
  exact List.splitOn_intercalate separator h hne

/-- A text without carriage returns has its line ends unified already. -/
theorem unify_line_ends_eq_self {cs : List Char} (h : '\r' ∉ cs) : unifyLineEnds cs = cs := by
  fun_induction unifyLineEnds cs with
  | case1 => rfl
  | case2 cs ih => exact absurd List.mem_cons_self h
  | case3 c cs _ ih => rw [ih fun hmem => h (List.mem_cons_of_mem _ hmem)]

/-- A character of joined lines is the separator or stands in one of the lines. -/
theorem mem_join_with {separator c : Char} {parts : List (List Char)}
    (h : c ∈ joinWith [separator] parts) : c = separator ∨ ∃ part ∈ parts, c ∈ part := by
  unfold joinWith at h
  induction parts with
  | nil => cases h
  | cons part parts ih =>
      cases parts with
      | nil =>
          rw [List.intercalate_singleton] at h
          exact .inr ⟨part, List.mem_cons_self, h⟩
      | cons next parts =>
          rw [List.intercalate_cons_cons, List.mem_append, List.mem_append,
            List.mem_singleton] at h
          rcases h with (h | h) | h
          · exact .inr ⟨part, List.mem_cons_self, h⟩
          · exact .inl h
          · rcases ih h with hsep | ⟨other, hmem, hc⟩
            · exact .inl hsep
            · exact .inr ⟨other, List.mem_cons_of_mem _ hmem, hc⟩

/-- A line of quoted source consists of characters of the source. -/
theorem mem_of_mem_display_lines_from {start cs line : List Char} {c : Char}
    (hline : line ∈ displayLinesFrom start cs) (hc : c ∈ line) : c ∈ start ∨ c ∈ cs := by
  fun_induction displayLinesFrom start cs with
  | case1 start hempty => cases hline
  | case2 start hne =>
      obtain rfl := List.mem_singleton.mp hline
      exact .inl (List.mem_reverse.mp hc)
  | case3 start cs ih =>
      rcases List.mem_cons.mp hline with rfl | hline
      · exact .inl (List.mem_reverse.mp hc)
      · have hcs := (ih hline).resolve_left List.not_mem_nil
        exact .inr (List.mem_cons_of_mem _ (List.mem_cons_of_mem _ hcs))
  | case4 start d cs hcrlf hbreak ih =>
      rcases List.mem_cons.mp hline with rfl | hline
      · exact .inl (List.mem_reverse.mp hc)
      · exact .inr (List.mem_cons_of_mem _ ((ih hline).resolve_left List.not_mem_nil))
  | case5 start d cs hcrlf hbreak ih =>
      rcases ih hline with hstart | hcs
      · rcases List.mem_cons.mp hstart with rfl | hstart
        · exact .inr List.mem_cons_self
        · exact .inl hstart
      · exact .inr (List.mem_cons_of_mem _ hcs)

end ElementMarkup.Text
