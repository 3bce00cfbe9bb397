import ElementMarkup.Proofs.LineColumns

/-!
# Lines that are moved

A line that is moved to the right, and to another number, gives the same tokens, each as much
further to the right, or has the same flaw there. Main statement: `tokens_move`. It follows that the
tokens of a line all stand on the line (`line_of_mem_tokens`), and that what a line says does not
depend on the column where it starts (`exists_tokens_column`).
-/

namespace ElementMarkup

/-- The token on the line with the given number, further to the right. -/
def Token.move (number distance : Nat) (t : Token) : Token :=
  ⟨t.lexeme, ⟨number, t.position.column + distance⟩⟩

/-- The flaw further to the right. -/
def Flaw.move (distance : Nat) : Flaw → Flaw
  | malformed problem column => malformed problem (column + distance)
  | integerTooLong digits => integerTooLong digits

namespace Line

open Token

variable (line number column distance : Nat) (cs : List Char)

/-- What is read of a line that is moved. -/
def moved {α β : Type} (distance : Nat) (f : α → β) (x : Except Flaw α) : Except Flaw β :=
  (x.map f).mapError (Flaw.move distance)

/-- A value without quotes further to the right. -/
theorem bare_value_move (raw : List Char) :
    bareValue raw (column + distance) = moved distance id (bareValue raw column) := by
  unfold bareValue
  split
  · rfl
  · split
    · rfl
    · split
      · split
        · rfl
        · split
          · rfl
          · rfl
      · split
        · rfl
        · rfl

/-- A value further to the right. -/
theorem attribute_value_move :
    attributeValue (column + distance) cs = moved distance id (attributeValue column cs) := by
  cases cs with
  | nil => rfl
  | cons c cs =>
      rw [attributeValue, attributeValue, bare_value_move]
      split
      · cases quotedValue? c cs <;> rfl
      · cases bareValue ((c :: cs).takeWhile isBareChar) column <;> rfl

/-- An attribute further to the right. -/
theorem attribute_pair_move :
    attributePair number (column + distance) cs =
      moved distance (Prod.map (move number distance) id) (attributePair line column cs) := by
  unfold attributePair
  dsimp only
  split
  · rfl
  · split
    · rename_i rest _
      rw [Nat.add_right_comm, attribute_value_move]
      cases attributeValue (column + (cs.length - (rest.dropWhile isGap).length))
        (rest.dropWhile isGap) <;> rfl
    · rfl

/-- An attribute in front of other ones. -/
theorem attribute_list_of_cons {line column place : Nat} {cs rest : List Char} {c : Char}
    (hstart : cs.dropWhile isSeparator = c :: rest) (hc : c ≠ ')')
    (hplace : place = column + (cs.length - (c :: rest).length)) :
    attributeList line column cs = (do
      let pair ← attributePair line place (c :: rest)
      let more ← attributeList line (place + ((c :: rest).length - pair.2.length)) pair.2
      return (pair.1 :: more.1, more.2)) := by
  rw [attributeList]
  split
  · rename_i h
    rw [hstart] at h
    cases h
  · rename_i d more h
    rw [hstart] at h
    cases h
    rw [if_neg hc, hstart, ← hplace]
    split
    · rename_i hpair
      rw [hpair]
      rfl
    · rename_i hpair
      rw [hpair]
      rfl

/-- Attributes further to the right. -/
theorem attribute_list_move :
    attributeList number (column + distance) cs =
      moved distance (Prod.map (List.map (move number distance)) id)
        (attributeList line column cs) := by
  fun_induction attributeList line column cs with
  | case1 column cs start place hstart =>
      have hcs : cs.dropWhile isSeparator = [] := hstart
      rw [attributeList]
      split
      · rw [hcs]
        show Except.error (Flaw.malformed _ _) = Except.error (Flaw.malformed _ _)
        congr 2
        rw [Nat.add_right_comm]
        show _ = column + (cs.length - start.length) + distance
        rw [hstart]
      · rename_i h
        rw [hcs] at h
        cases h
  | case2 column cs start rest hstart => exact Print.attribute_list_close hstart
  | case3 column cs start place c rest hstart hopen flaw hpair =>
      have hplace : place + distance = column + distance + (cs.length - (c :: rest).length) := by
        rw [← hstart, Nat.add_right_comm]
      rw [attribute_list_of_cons hstart hopen hplace, attribute_pair_move line, hpair]
      rfl
  | case4 column cs start place c rest hstart hopen t after hpair ih =>
      have hplace : place + distance = column + distance + (cs.length - (c :: rest).length) := by
        rw [← hstart, Nat.add_right_comm]
      rw [attribute_list_of_cons hstart hopen hplace, attribute_pair_move line, hpair]
      show (attributeList number (place + distance + ((c :: rest).length - after.length)) after
        >>= fun more => _) = _
      rw [Nat.add_right_comm, ← hstart, ih]
      cases attributeList line (place + (start.length - after.length)) after <;> rfl

mutual

/-- The content of a line further to the right. -/
theorem tokens_move (line number column distance : Nat) (cs : List Char) :
    tokens number (column + distance) cs =
      moved distance (List.map (move number distance)) (tokens line column cs) := by
  rw [tokens, tokens]
  split
  · rfl
  · split
    · rfl
    · cases directive? cs with
      | some r =>
          obtain ⟨d, argument⟩ := r
          dsimp only [directiveToken]
          split
          · rw [Nat.add_right_comm]
            rfl
          · rfl
      | none =>
          dsimp only
          split
          · rw [Nat.add_right_comm, tag_tokens_move line]
            cases tagTokens line _ _ <;> rfl
          · split
            · rw [tag_tokens_move line]
              cases tagTokens line _ _ <;> rfl
            · rfl
termination_by 2 * cs.length + 1

/-- What follows the name of a tag further to the right. -/
theorem tag_tokens_move (line number column distance : Nat) (cs : List Char) :
    tagTokens number (column + distance) cs =
      moved distance (List.map (move number distance)) (tagTokens line column cs) := by
  -- How far a reader has come is added to the column first, the distance last.
  have hswap (n m : Nat) : column + distance + n + m = column + n + m + distance := by omega
  cases cs with
  | nil =>
      rw [tagTokens, tagTokens]
      rfl
  | cons c rest =>
      by_cases hopen : c = '('
      · subst hopen
        rw [Print.tag_tokens_open, Print.tag_tokens_open, Nat.add_right_comm,
          attribute_list_move line]
        cases hlist : attributeList line (column + 1) rest with
        | error flaw => rfl
        | ok r =>
            have hshorter := length_lt_of_attribute_list hlist
            show (tagTokens number (column + 1 + distance + (rest.length - r.2.length)) r.2 >>=
              fun more => pure (r.1.map (move number distance) ++ more)) = moved distance _
                (tagTokens line (column + 1 + (rest.length - r.2.length)) r.2 >>=
                  fun more => pure (r.1 ++ more))
            rw [Nat.add_right_comm (column + 1), tag_tokens_move line]
            cases tagTokens line _ r.2 with
            | error flaw => rfl
            | ok more => exact congrArg Except.ok List.map_append.symm
      · rw [tagTokens, tagTokens]
        split
        · dsimp only
          split
          · rfl
          · rw [hswap, tag_tokens_move line]
            cases tagTokens line _ _ <;> rfl
        · split
          · dsimp only
            split
            · rw [hswap, tag_tokens_move line]
              cases tagTokens line _ _ <;> rfl
            · split
              · rfl
              · rw [Nat.add_right_comm]
                rfl
          · split
            · dsimp only
              split
              · rfl
              · have hshorter := Text.length_trim_start_le rest
                rw [hswap, tokens_move line]
                cases tokens line _ _ <;> rfl
            · split
              · split
                · rfl
                · rw [show ((column + distance : Nat) : Int) + 1 = (column : Int) + 1 + distance
                    by omega]
                  rfl
              · rfl
termination_by 2 * cs.length

end

variable {line number column distance : Nat} {cs : List Char} {ts : List Token}

/-- The content of a line that can be read can be read further to the right. -/
theorem tokens_move_of_ok (h : tokens line column cs = .ok ts) (number distance : Nat) :
    tokens number (column + distance) cs = .ok (ts.map (move number distance)) := by
  rw [tokens_move line, h]
  rfl

/-- A line that can be read at one column says the same at every other one. -/
theorem exists_tokens_column (h : tokens line column cs = .ok ts) (other : Nat) :
    ∃ others, tokens line other cs = .ok others ∧ onLines others = onLines ts := by
  have hcolumn := tokens_move line line 0 column cs
  rw [Nat.zero_add, h] at hcolumn
  cases hmargin : tokens line 0 cs with
  | error flaw =>
      rw [hmargin] at hcolumn
      cases hcolumn
  | ok base =>
      rw [hmargin] at hcolumn
      cases hcolumn
      have hother := tokens_move_of_ok hmargin line other
      rw [Nat.zero_add] at hother
      exact ⟨_, hother, by simp only [onLines, List.map_map]; rfl⟩

/-- The tokens of a line stand on the line. -/
theorem line_of_mem_tokens (h : tokens line column cs = .ok ts) {t : Token} (ht : t ∈ ts) :
    t.position.line = line := by
  have hsame := tokens_move_of_ok h line 0
  rw [Nat.add_zero, h, Except.ok.injEq] at hsame
  rw [hsame] at ht
  obtain ⟨_, _, rfl⟩ := List.mem_map.mp ht
  rfl

end Line

end ElementMarkup
