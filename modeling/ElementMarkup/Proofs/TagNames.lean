import ElementMarkup.Proofs.FlatLists
import ElementMarkup.Proofs.Print.Syntax

/-!
# The names of tags

Every tag of a parsed source has a name that a tag can have: a letter or underscore, then word
characters, colons and hyphens. The names come from the tokens of tags (`all_named_scan_lines`), and
a parser makes tags of such tokens only, in a template and in all templates that it loads
(`all_has_tag_name_of_yields_composition`).
-/

namespace ElementMarkup

open Attempt

/-- A name that a tag can have. -/
def IsLexedName (name : String) : Prop :=
  Print.isTagName name.toList = true

/-! ## Tokens -/

/-- The name at the start of a text is one that a tag can have. -/
theorem Line.is_tag_name_tag_name {cs : List Char} (h : tagName cs ≠ []) :
    Print.isTagName (tagName cs) = true := by
  cases cs with
  | nil => exact absurd rfl h
  | cons c cs =>
      rw [tagName] at h ⊢
      split at h
      · rename_i hstart
        rw [if_pos hstart, Print.isTagName, hstart, Bool.true_and, Bool.and_eq_true]
        constructor
        · rw [List.all_eq_true]
          intro d hd
          have hsuffix := List.dropWhile_suffix (fun c => !Text.isWord c)
            (l := (cs.takeWhile isTagChar).reverse)
          exact List.mem_takeWhile_imp
            (List.mem_reverse.mp (hsuffix.subset (List.mem_reverse.mp hd)))
        · have hlast := List.head?_dropWhile_not (fun c => !Text.isWord c)
            (cs.takeWhile isTagChar).reverse
          rw [List.getLast?_reverse]
          cases hhead : ((cs.takeWhile isTagChar).reverse.dropWhile
              (fun c => !Text.isWord c)).head? with
          | none => rfl
          | some d =>
              rw [hhead] at hlast
              simpa using hlast
      · exact absurd rfl h

namespace Token

/-- All tags among the tokens have names that tags can have. -/
abbrev AllNamed (tokens : List Token) : Prop :=
  ∀ t ∈ tokens, Parser.HasName IsLexedName t

/-- A token of another kind starts no tag. -/
theorem has_name_of_ne {l : Lexeme} {position : Position} (h : ∀ name, l ≠ .tagName name) :
    Parser.HasName IsLexedName ⟨l, position⟩ :=
  fun name hlexeme => absurd hlexeme (h name)

/-- An attribute starts no tag. -/
theorem all_named_of_is_attribute {tokens : List Token}
    (h : ∀ l ∈ lexemes tokens, l.isAttribute = true) : AllNamed tokens := by
  intro t ht name hlexeme
  have hattribute := h _ (List.mem_map_of_mem ht)
  rw [hlexeme] at hattribute
  cases hattribute

/-- A change of level starts no tag. -/
theorem all_named_of_move_to {layout moved : Layout} {line width : Nat} {tokens : List Token}
    (h : layout.moveTo line width = .ok (tokens, moved)) : AllNamed tokens := by
  intro t ht name hlexeme
  rcases move_to_spec h with ⟨opening, rfl, hindent, -⟩ | ⟨houtdent, -⟩
  · obtain rfl := List.mem_singleton.mp ht
    rw [hlexeme] at hindent
    cases hindent
  · have hclosing := houtdent t ht
    rw [hlexeme] at hclosing
    cases hclosing

/-- A directive is no tag. -/
theorem has_name_directive_token {line column : Nat} {directive : Directive}
    {argument : List Char} {t : Token}
    (h : Line.directiveToken line column directive argument = .ok t) :
    Parser.HasName IsLexedName t := by
  unfold Line.directiveToken at h
  split at h
  · cases h
  · cases h
    cases directive <;> exact has_name_of_ne (by simp [Directive.lexeme])

mutual

/-- The tags on a line have names that tags can have. -/
theorem all_named_tokens {line column : Nat} {cs : List Char} {tokens : List Token}
    (h : Line.tokens line column cs = .ok tokens) : AllNamed tokens := by
  rw [Line.tokens] at h
  split at h
  · cases h
    exact List.forall_mem_singleton.mpr (has_name_of_ne (by simp))
  · split at h
    · cases h
      exact List.forall_mem_singleton.mpr (has_name_of_ne (by simp))
    · split at h
      · obtain ⟨t, ht, hend⟩ := bind_eq_ok.mp h
        cases hend
        exact List.forall_mem_singleton.mpr (has_name_directive_token ht)
      · dsimp only at h
        split at h
        · rename_i hname
          obtain ⟨more, hmore, hend⟩ := bind_eq_ok.mp h
          cases hend
          refine List.forall_mem_cons.mpr ⟨?_, all_named_tag_tokens hmore⟩
          rintro _ ⟨⟩
          rw [IsLexedName, String.toList_ofList]
          exact Line.is_tag_name_tag_name (by simpa using hname)
        · split at h
          · -- A tag without a name is a division.
            obtain ⟨more, hmore, hend⟩ := bind_eq_ok.mp h
            cases hend
            refine List.forall_mem_cons.mpr ⟨?_, all_named_tag_tokens hmore⟩
            rintro _ ⟨⟩
            rw [IsLexedName]
            decide
          · cases h
termination_by 2 * cs.length + 1

/-- The tags in what follows the name of a tag have names that tags can have. -/
theorem all_named_tag_tokens {line column : Nat} {cs : List Char} {tokens : List Token}
    (h : Line.tagTokens line column cs = .ok tokens) : AllNamed tokens := by
  rw [Line.tagTokens.eq_def] at h
  rcases hcs : cs with _ | ⟨c, rest⟩
  · rw [hcs] at h
    cases h
    exact List.forall_mem_nil _
  · have hlength : cs.length = rest.length + 1 := by rw [hcs]; rfl
    rw [hcs] at h
    dsimp only at h
    split at h
    · -- The name of an id follows a hash.
      split at h
      · cases h
      · obtain ⟨more, hmore, hend⟩ := bind_eq_ok.mp h
        cases hend
        exact List.forall_mem_cons.mpr ⟨has_name_of_ne (by simp), all_named_tag_tokens hmore⟩
    · split at h
      · -- The name of a class follows a dot, which ends the line if there is none.
        split at h
        · obtain ⟨more, hmore, hend⟩ := bind_eq_ok.mp h
          cases hend
          exact List.forall_mem_cons.mpr
            ⟨has_name_of_ne (by simp), all_named_tag_tokens hmore⟩
        · split at h
          · cases h
            exact List.forall_mem_singleton.mpr (has_name_of_ne (by simp))
          · cases h
      · split at h
        · -- Attributes stand in parentheses.
          split at h
          · cases h
          · rename_i attributes after hlist
            have hshorter := Line.length_lt_of_attribute_list hlist
            obtain ⟨more, hmore, hend⟩ := bind_eq_ok.mp h
            cases hend
            exact List.forall_mem_append.mpr
              ⟨all_named_of_is_attribute (is_attribute_of_attribute_list hlist),
                all_named_tag_tokens hmore⟩
        · split at h
          · -- Another content of a line follows a colon.
            split at h
            · cases h
            · have hshorter := Text.length_trim_start_le rest
              obtain ⟨more, hmore, hend⟩ := bind_eq_ok.mp h
              cases hend
              exact List.forall_mem_cons.mpr
                ⟨has_name_of_ne (by simp), all_named_tokens hmore⟩
          · split at h
            · -- A text follows a space.
              split at h
              · cases h
                exact List.forall_mem_nil _
              · cases h
                exact List.forall_mem_singleton.mpr (has_name_of_ne (by simp))
            · cases h
termination_by 2 * cs.length

end

/-- The tags of a line have names that tags can have. -/
theorem all_named_scan_line {layout after : Layout} {number passed : Nat} {line : List Char}
    {below : List (List Char)} {tokens : List Token}
    (h : scanLine layout number line below = .ok (tokens, after, passed)) : AllNamed tokens := by
  unfold scanLine at h
  dsimp only at h
  obtain ⟨accepted, -, h⟩ := bind_eq_ok.mp h
  obtain ⟨⟨indentation, moved⟩, hmove, h⟩ := bind_eq_ok.mp h
  obtain ⟨content, hcontent, h⟩ := bind_eq_ok.mp h
  have hline : AllNamed (indentation ++ content) :=
    List.forall_mem_append.mpr ⟨all_named_of_move_to hmove, all_named_tokens hcontent⟩
  have hending (position : Position) : AllNamed [⟨.newline, position⟩] :=
    List.forall_mem_singleton.mpr (has_name_of_ne (by simp))
  have hblock (width : Nat) : AllNamed (TextBlock.tokens number width below) := by
    unfold TextBlock.tokens
    dsimp only
    split
    · exact List.forall_mem_nil _
    · exact List.forall_mem_singleton.mpr (has_name_of_ne (by simp))
  split at h
  · cases h
    exact List.forall_mem_append.mpr
      ⟨List.forall_mem_append.mpr ⟨hline, hblock _⟩, hending _⟩
  · cases h
    exact List.forall_mem_append.mpr ⟨hline, hending _⟩

/-- The tags of lines have names that tags can have. -/
theorem all_named_scan_lines {layout : Layout} {number passed : Nat} {lines : List (List Char)}
    {tokens : List Token} (h : scanLines layout number passed lines = .ok tokens) :
    AllNamed tokens := by
  induction lines generalizing layout number passed tokens with
  | nil =>
      cases h
      intro t ht
      rcases List.mem_append.mp ht with ht | ht
      · obtain ⟨_, -, rfl⟩ := List.mem_map.mp ht
        exact has_name_of_ne (by simp)
      · obtain rfl := List.mem_singleton.mp ht
        exact has_name_of_ne (by simp)
  | cons line below ih =>
      cases passed with
      | succ passed => exact ih h
      | zero =>
          rw [scanLines] at h
          split at h
          · exact ih h
          · split at h
            · cases h
            · rename_i hline
              obtain ⟨more, hmore, hend⟩ := bind_eq_ok.mp h
              cases hend
              exact List.forall_mem_append.mpr ⟨all_named_scan_line hline, ih hmore⟩

end Token

/-! ## Trees -/

namespace Markup

/-- If the node is a tag, its name is one that a tag can have. -/
def hasTagName : Markup → Bool
  | tag _ name _ _ _ => Print.isTagName name.toList
  | _ => true

end Markup

/-- A parser builds tags with names that tags can have. -/
theorem Parser.closed_has_tag_name :
    Closed IsLexedName (fun _ tree => tree.all Markup.hasTagName = true)
      fun tree => tree.all Markup.hasTagName = true where
  text _ _ := rfl
  namedBlock _ _ := rfl
  tag hname hinline := Markup.all_iff.mpr ⟨hname, hinline⟩
  attach hnode hcontent h := by
    unfold attach at h
    split at h
    · cases h
      exact hnode
    · cases h
      obtain ⟨hname, hchildren⟩ := Markup.all_iff.mp hnode
      exact Markup.all_iff.mpr ⟨hname, List.forall_mem_append.mpr ⟨hchildren, hcontent⟩⟩
    · cases h
      obtain ⟨-, hnodes⟩ := Markup.all_iff.mp hnode
      exact Markup.all_iff.mpr ⟨rfl, List.forall_mem_append.mpr ⟨hnodes, hcontent⟩⟩
    · cases h
  included htree := Markup.all_iff.mpr ⟨rfl, List.forall_mem_singleton.mpr htree⟩
  extended htree := Markup.all_iff.mpr ⟨rfl, List.forall_mem_singleton.mpr htree⟩
  root hnodes := Markup.all_iff.mpr ⟨rfl, hnodes⟩

namespace Environment

variable {env : Environment}

/-- The tags of a source have names that tags can have, and so have those of all templates that it
loads. -/
theorem all_has_tag_name_of_yields_parse {name : Option String} {source : String} {tree : Markup}
    {before after : List Event} (h : Yields (env.parse source name) before tree after) :
    tree.all Markup.hasTagName = true := by
  refine of_yields_parse_within (p := fun tree => tree.all Markup.hasTagName = true) ?_ h
  intro name load source tree before after hload h
  obtain ⟨tokens, _, htokens, hparse⟩ := yields_bind.mp h
  have hscan := Parser.scan_of_of_source (yields_lift_except.mp htokens).1
  refine (Parser.ends_parse_of_closed Parser.closed_has_tag_name (fun path _ => ?_)
    (Token.all_named_scan_lines hscan)).value _ tree after hparse
  exact ⟨fun before tree after => hload path tree before after, fun _ _ _ _ => trivial⟩

/-- The tags of a composition have names that tags can have. -/
theorem all_has_tag_name_of_yields_composition {fragments : List String} {count : Nat}
    {name : Option String} {c : Composition} {before after : List Event}
    (h : Yields (env.composition fragments count name) before c after) :
    c.All Markup.hasTagName :=
  all_of_yields_composition (fun hparse => all_has_tag_name_of_yields_parse hparse) h

end Environment

end ElementMarkup
