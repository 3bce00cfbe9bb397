import ElementMarkup.Proofs.Grammar
import ElementMarkup.Proofs.Print.LineTokens

/-!
# Columns

What attributes say does not depend on the column where they start. A reader hands the column on
only to the places of its tokens. Main statement: `attribute_list_append`, attributes are read the
same wherever they stand and whatever follows them.
-/

namespace ElementMarkup

namespace Token

/-- What tokens say, and on which lines. -/
def onLines (tokens : List Token) : List (Lexeme × Int) :=
  tokens.map fun t => (t.lexeme, t.position.line)

/-- Lexemes on one line. -/
def onLine (line : Nat) (ls : List Lexeme) : List (Lexeme × Int) :=
  ls.map fun l => (l, (line : Int))

end Token

namespace Line

open Token

variable {line column : Nat} {c : Char} {cs rest : List Char}

/-- A value without quotes says the same at every column. -/
theorem bare_value_column {raw : List Char} {value : Scalar}
    (h : bareValue raw column = .ok value) (other : Nat) : bareValue raw other = .ok value := by
  revert h
  unfold bareValue
  split
  · exact id
  · split
    · exact id
    · split
      · exact id
      · split
        · exact id
        · intro h
          cases h

/-- A quoted value is read the same whatever follows it. -/
theorem quoted_value?_append {quote : Char} (hquote : quote ≠ '\\') {value : List Char}
    (h : quotedValue? quote cs = some (value, rest)) (more : List Char) :
    quotedValue? quote (cs ++ more) = some (value, rest ++ more) := by
  fun_induction quotedValue? quote cs generalizing value rest with
  | case1 => cases h
  | case2 c cs ih =>
      obtain ⟨⟨v, r⟩, hv, heq⟩ := Option.map_eq_some_iff.mp h
      cases heq
      rw [List.cons_append, List.cons_append, quotedValue?.eq_2, ih hv]
      rfl
  | case3 cs =>
      cases h
      rw [List.cons_append, quotedValue?.eq_3 _ _ _ (fun _ _ h _ => hquote h), if_pos rfl]
  | case4 c cs hescape hc ih =>
      obtain ⟨⟨v, r⟩, hv, heq⟩ := Option.map_eq_some_iff.mp h
      cases heq
      -- A backslash at the end of the text would leave the value open.
      have hbackslash : c ≠ '\\' := by
        intro hbackslash
        cases cs with
        | nil => cases hv
        | cons d cs => exact hescape d cs hbackslash rfl
      rw [List.cons_append, quotedValue?.eq_3 _ _ _ (fun _ _ h _ => hbackslash h), if_neg hc,
        ih hv]
      rfl

/-- What is left of a text behind some characters of a kind, if anything is left. -/
theorem drop_while_append_of_ne_nil {p : Char → Bool} (h : cs.dropWhile p ≠ []) (more : List Char) :
    (cs ++ more).dropWhile p = cs.dropWhile p ++ more := by
  rw [List.dropWhile_append, if_neg (by simpa using h)]

/-- The characters of a kind at the start of a text, if another one follows them. -/
theorem take_while_append_of_ne_nil {p : Char → Bool} (h : cs.dropWhile p ≠ []) (more : List Char) :
    (cs ++ more).takeWhile p = cs.takeWhile p := by
  have hlength : (cs.takeWhile p).length + (cs.dropWhile p).length = cs.length := by
    rw [← List.length_append, List.takeWhile_append_dropWhile]
  have hpos := List.length_pos_iff.mpr h
  rw [List.takeWhile_append, if_neg (by omega)]

/-- A value is read the same at every column and whatever follows it, unless it is cut off. -/
theorem attribute_value_append {value : Scalar}
    (h : attributeValue column cs = .ok (value, rest)) (hrest : rest ≠ []) (other : Nat)
    (more : List Char) : attributeValue other (cs ++ more) = .ok (value, rest ++ more) := by
  cases cs with
  | nil => cases h
  | cons c cs =>
      rw [attributeValue] at h
      rw [List.cons_append, attributeValue]
      split at h
      · rename_i hquote
        rw [if_pos hquote]
        split at h
        · rename_i hvalue
          cases h
          have hbackslash : c ≠ '\\' := by
            rintro rfl
            revert hquote
            decide
          rw [quoted_value?_append hbackslash hvalue]
        · cases h
      · rename_i hquote
        obtain ⟨v, hv, heq⟩ := Attempt.bind_eq_ok.mp h
        cases heq
        rw [if_neg hquote, ← List.cons_append, take_while_append_of_ne_nil hrest,
          drop_while_append_of_ne_nil hrest, bare_value_column hv]
        rfl

/-- An attribute is read the same on every line, at every column and whatever follows it. -/
theorem attribute_pair_append {t : Token}
    (h : attributePair line column cs = .ok (t, rest)) (hrest : rest ≠ []) (number other : Nat)
    (more : List Char) :
    attributePair number other (cs ++ more) =
      .ok (⟨t.lexeme, ⟨number, other⟩⟩, rest ++ more) := by
  -- What is left behind the gap is also left behind the name, so that the name is complete.
  have hcut (hgap : (cs.dropWhile isAttributeChar).dropWhile isGap ≠ []) :
      cs.dropWhile isAttributeChar ≠ [] := by
    intro hnil
    rw [hnil] at hgap
    exact hgap rfl
  unfold attributePair at h ⊢
  dsimp only at h ⊢
  split at h
  · cases h
  · rename_i hname
    split at h
    · rename_i after hafter
      have hgap : (cs.dropWhile isAttributeChar).dropWhile isGap ≠ [] := by
        rw [hafter]
        exact List.cons_ne_nil _ _
      obtain ⟨⟨value, beyond⟩, hvalue, heq⟩ := Attempt.bind_eq_ok.mp h
      cases heq
      have hstart : after.dropWhile isGap ≠ [] := by
        intro hnil
        rw [hnil] at hvalue
        cases hvalue
      rw [take_while_append_of_ne_nil (hcut hgap), if_neg hname,
        drop_while_append_of_ne_nil (hcut hgap), drop_while_append_of_ne_nil hgap, hafter]
      simp only [List.cons_append, drop_while_append_of_ne_nil hstart]
      rw [attribute_value_append hvalue hrest]
      rfl
    · rename_i hequals
      cases h
      rw [take_while_append_of_ne_nil (hcut hrest), if_neg hname,
        drop_while_append_of_ne_nil (hcut hrest), drop_while_append_of_ne_nil hrest]
      obtain ⟨c, beyond, hbeyond⟩ := List.exists_cons_of_ne_nil hrest
      rw [hbeyond, List.cons_append]
      split
      · rename_i heq
        cases heq
        exact absurd hbeyond (hequals beyond)
      · rfl

/-- Attributes are read the same on every line, at every column and whatever follows them. -/
theorem attribute_list_append {tokens : List Token}
    (h : attributeList line column cs = .ok (tokens, rest)) (number other : Nat)
    (more : List Char) :
    ∃ others, attributeList number other (cs ++ more) = .ok (others, rest ++ more) ∧
      onLines others = onLine number (lexemes tokens) := by
  have hne {c : Char} {cs after : List Char} (hstart : cs.dropWhile isSeparator = c :: after) :
      cs.dropWhile isSeparator ≠ [] := by
    rw [hstart]
    exact List.cons_ne_nil c after
  fun_induction attributeList line column cs generalizing tokens rest other with
  | case1 => cases h
  | case2 =>
      rename_i column cs start after hstart
      cases h
      have hcs : cs.dropWhile isSeparator = ')' :: after := hstart
      refine ⟨[], Print.attribute_list_close ?_, rfl⟩
      rw [drop_while_append_of_ne_nil (hne hcs), hcs, List.cons_append]
  | case3 => cases h
  | case4 =>
      rename_i column cs start place c after hstart hopen t beyond hpair ih
      obtain ⟨⟨tokens, last⟩, hmore, heq⟩ := Attempt.bind_eq_ok.mp h
      cases heq
      -- The list goes on behind the attribute, so that the attribute is not cut off.
      have hbeyond : beyond ≠ [] := by
        rintro rfl
        rw [attributeList] at hmore
        cases hmore
      have hcs : cs.dropWhile isSeparator = c :: after := hstart
      have hdrop : (cs ++ more).dropWhile isSeparator = c :: (after ++ more) := by
        rw [drop_while_append_of_ne_nil (hne hcs), hcs, List.cons_append]
      obtain ⟨place, next, hlist⟩ := @Print.attribute_list_cons number other _ _ _ c _ hdrop hopen
        fun place => attribute_pair_append hpair hbeyond number place more
      obtain ⟨others, hothers, hsame⟩ := ih hmore next
      rw [hlist, hothers]
      refine ⟨_, rfl, ?_⟩
      show (t.lexeme, (number : Int)) :: onLines others = _
      rw [hsame]
      rfl

end Line

end ElementMarkup
