import ElementMarkup.Placeholder
import ElementMarkup.Proofs.Text
import Mathlib.Algebra.Group.Nat.Defs

/-!
# Marks in a text

A text is cut at its marks from left to right. `split_token` says that the mark of a number is cut
off as such, whatever follows it, and `split_append` that a text in which no mark starts stays in
one piece in front of anything that cannot complete a mark with it. No mark goes on over a space
(`digits_of_append_space`).
-/

namespace ElementMarkup.Placeholder

/-- A mark consists of digits, slashes and tildes. -/
theorem mem_token {n : Nat} {c : Char} (h : c ∈ token n) :
    c = '/' ∨ c = '~' ∨ Text.isDigit c = true := by
  have hmem : c ∈ '/' :: '~' :: (Nat.toDigits 10 n ++ ['~', '/']) := h
  simp only [List.mem_cons, List.mem_append, List.not_mem_nil, or_false] at hmem
  rcases hmem with hslash | htilde | hdigit | htilde | hslash
  · exact .inl hslash
  · exact .inr (.inl htilde)
  · exact .inr (.inr (Text.is_digit_of_mem_to_digits hdigit))
  · exact .inr (.inl htilde)
  · exact .inl hslash

/-- Digits that can stand in a mark. -/
def IsNumber (digits : List Char) : Prop :=
  digits ≠ [] ∧ ∀ d ∈ digits, Text.isDigit d = true

/-- A mark is found at the start of a text. -/
theorem first?_mark {digits : List Char} (h : IsNumber digits) (rest : List Char) :
    first? (mark digits ++ rest) = some (digits, rest) := by
  obtain ⟨hne, hdigits⟩ := h
  have htake : (digits ++ '~' :: '/' :: rest).takeWhile Text.isDigit = digits := by
    rw [List.takeWhile_append_of_pos hdigits, List.takeWhile_cons_of_neg (by decide),
      List.append_nil]
  have hdrop : (digits ++ '~' :: '/' :: rest).dropWhile Text.isDigit = '~' :: '/' :: rest := by
    rw [List.dropWhile_append_of_pos hdigits, List.dropWhile_cons_of_neg (by decide)]
  have hmark : mark digits ++ rest = '/' :: '~' :: (digits ++ '~' :: '/' :: rest) := by
    simp [mark]
  cases digits with
  | nil => exact absurd rfl hne
  | cons d ds =>
      rw [hmark, first?, htake, hdrop]
      rfl

/-- The mark of a number is found at the start of a text. -/
theorem first?_token (n : Nat) (rest : List Char) :
    first? (token n ++ rest) = some (Nat.toDigits 10 n, rest) :=
  first?_mark ⟨Nat.toDigits_ne_nil, fun _ hc => Text.is_digit_of_mem_to_digits hc⟩ rest

/-- The mark of a number is cut off. -/
theorem split_token (n : Nat) (rest : List Char) :
    split (token n ++ rest) =
      ⟨[], (Nat.toDigits 10 n, (split rest).head) :: (split rest).marks⟩ := by
  have hfirst := first?_token n rest
  cases htoken : token n ++ rest with
  | nil =>
      rw [htoken] at hfirst
      cases hfirst
  | cons c cs =>
      rw [htoken] at hfirst
      rw [split]
      split
      · rename_i digits after h
        rw [hfirst] at h
        cases h
        rfl
      · rename_i h
        rw [hfirst] at h
        cases h

/-- No mark starts at a character that is not the start of a mark's opening. -/
theorem first?_eq_none {c : Char} {cs : List Char} (h : ¬ ['/', '~'] <+: c :: cs) :
    first? (c :: cs) = none := by
  unfold first?
  split
  · rename_i heq
    rw [heq] at h
    exact absurd ⟨_, rfl⟩ h
  · rfl

/-- A text in which no mark starts stays in one piece in front of a text that does not start with
the second character of a mark. -/
theorem split_append {cs rest : List Char} (h : ¬ ['/', '~'] <:+: cs)
    (hrest : rest.head? ≠ some '~') :
    split (cs ++ rest) = ⟨cs ++ (split rest).head, (split rest).marks⟩ := by
  induction cs with
  | nil => rfl
  | cons c cs ih =>
      have hstart : ¬ ['/', '~'] <+: c :: (cs ++ rest) := by
        rintro ⟨more, heq⟩
        rw [List.cons_append, List.cons.injEq] at heq
        obtain ⟨rfl, heq⟩ := heq
        -- A mark that starts at the last character would have to go on in the rest.
        cases cs with
        | nil => exact hrest (by rw [← List.nil_append rest, ← heq]; rfl)
        | cons d cs =>
            rw [List.cons_append, List.cons_append, List.cons.injEq] at heq
            obtain ⟨rfl, _⟩ := heq
            exact h ⟨[], cs, rfl⟩
      have hmore := ih fun hinfix => h (List.infix_cons hinfix)
      rw [List.cons_append, split]
      split
      · rename_i heq
        rw [first?_eq_none hstart] at heq
        cases heq
      · rw [hmore]
        rfl

/-- A text without marks is one piece. -/
theorem head_split_of_marks_eq_nil {cs : List Char} (h : (split cs).marks = []) :
    (split cs).head = cs := by
  fun_induction split cs with
  | case1 => rfl
  | case2 c rest digits after hfirst pieces ih => cases h
  | case3 c rest hfirst pieces ih => exact congrArg (List.cons c) (ih h)

/-- No mark goes on over a space. -/
theorem first?_append_space (cs rest : List Char) :
    first? (cs ++ ' ' :: rest) =
      (first? cs).map fun (digits, after) => (digits, after ++ ' ' :: rest) := by
  match cs with
  | [] => rfl
  | [c] =>
      have hopen : ¬ ['/', '~'] <+: c :: ' ' :: rest := by simp
      rw [List.singleton_append, first?_eq_none hopen, first?_eq_none (by simp)]
      rfl
  | c :: d :: cs =>
      by_cases hopen : ['/', '~'] <+: c :: d :: cs
      · obtain ⟨inner, heq⟩ := hopen
        obtain ⟨rfl, rfl, rfl⟩ : '/' = c ∧ '~' = d ∧ inner = cs := by simpa using heq
        have htake : (inner ++ ' ' :: rest).takeWhile Text.isDigit =
            inner.takeWhile Text.isDigit := by
          rw [List.takeWhile_append, List.takeWhile_cons_of_neg (by decide), List.append_nil]
          split
          · rename_i hall
            exact (List.takeWhile_prefix _).eq_of_length hall |>.symm
          · rfl
        have hdrop : (inner ++ ' ' :: rest).dropWhile Text.isDigit =
            inner.dropWhile Text.isDigit ++ ' ' :: rest := by
          rw [List.dropWhile_append, List.dropWhile_cons_of_neg (by decide)]
          split
          · rename_i hempty
            rw [List.isEmpty_iff.mp hempty]
            rfl
          · rfl
        simp only [List.cons_append, first?, htake, hdrop]
        -- After the digits the closing of the mark is there as a whole or not at all.
        match inner.takeWhile Text.isDigit, inner.dropWhile Text.isDigit with
        | [], _ => rfl
        | _ :: _, [] => rfl
        | _ :: _, [x] => by_cases hx : x = '~' <;> simp [hx]
        | _ :: _, x :: y :: after =>
            by_cases hx : x = '~'
            · by_cases hy : y = '/' <;> simp [hx, hy]
            · simp [hx]
      · have hopen' : ¬ ['/', '~'] <+: c :: d :: (cs ++ ' ' :: rest) := by simpa using hopen
        rw [List.cons_append, List.cons_append, first?_eq_none hopen', first?_eq_none hopen]
        rfl

/-- The digits of the marks of a text in order. -/
def digitsOf (cs : List Char) : List (List Char) :=
  (split cs).marks.map (·.1)

/-- A mark at the start of a text is the first one. -/
theorem digits_of_of_first? {cs digits after : List Char} (h : first? cs = some (digits, after)) :
    digitsOf cs = digits :: digitsOf after := by
  cases cs with
  | nil => cases h
  | cons c rest =>
      rw [digitsOf, split]
      split
      · rename_i h'
        rw [h] at h'
        cases h'
        rfl
      · rename_i h'
        rw [h] at h'
        cases h'

/-- Where no mark starts the marks come later. -/
theorem digits_of_cons {c : Char} {rest : List Char} (h : first? (c :: rest) = none) :
    digitsOf (c :: rest) = digitsOf rest := by
  rw [digitsOf, split]
  split
  · rename_i h'
    rw [h] at h'
    cases h'
  · rfl

/-- The marks of two texts with a space between them are those of the first one and those of the
second one. -/
theorem digits_of_append_space (cs rest : List Char) :
    digitsOf (cs ++ ' ' :: rest) = digitsOf cs ++ digitsOf rest := by
  fun_induction split cs with
  | case1 =>
      have hnone : digitsOf [] = [] := by rw [digitsOf, split]; rfl
      rw [hnone]
      exact digits_of_cons (first?_append_space [] rest)
  | case2 c tail digits after hfirst pieces ih =>
      have hmore : first? (c :: tail ++ ' ' :: rest) = some (digits, after ++ ' ' :: rest) := by
        rw [first?_append_space, hfirst]
        rfl
      rw [digits_of_of_first? hmore, digits_of_of_first? hfirst, ih]
      rfl
  | case3 c tail hfirst pieces ih =>
      have hmore : first? (c :: (tail ++ ' ' :: rest)) = none := by
        rw [← List.cons_append, first?_append_space, hfirst]
        rfl
      rw [List.cons_append, digits_of_cons hmore, digits_of_cons hfirst, ih]

/-- A number that is not too long is read back from its mark. -/
theorem index_to_digits {n : Nat} (h : n < 10 ^ integerDigitLimit) :
    index (Nat.toDigits 10 n) = .ok n := by
  have hlength : (Nat.toDigits 10 n).length ≤ integerDigitLimit :=
    (Nat.length_toDigits_le_iff (by decide) (by decide)).mpr h
  rw [index, if_neg (Nat.not_lt.mpr hlength), Text.digits_value_to_digits]

end ElementMarkup.Placeholder
