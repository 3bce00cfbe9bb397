import ElementMarkup.Proofs.LineColumns
import ElementMarkup.Proofs.TreeGrammar

/-!
# Trees up to places

What a tree says does not depend on the columns of its tokens. The lines matter, since they are told
to whoever loads a template. Main statement: `LevelOf.replace`, tokens that differ in their columns
stand for trees that differ in the places of their nodes.
-/

namespace ElementMarkup

namespace Print

/-- The places of several nodes are left out one by one. -/
theorem unplaced_all_eq_map (nodes : List Markup) : unplacedAll nodes = nodes.map unplaced := by
  induction nodes with
  | nil => rfl
  | cons node nodes ih => rw [unplacedAll, ih, List.map_cons]

/-- Nodes that are the same without their places are equally many. -/
theorem is_empty_eq_of_unplaced_all {nodes others : List Markup}
    (h : unplacedAll others = unplacedAll nodes) : others.isEmpty = nodes.isEmpty := by
  rw [unplaced_all_eq_map, unplaced_all_eq_map] at h
  rw [← List.isEmpty_map, h, List.isEmpty_map]

/-- Nodes that are the same without their places, with one more behind them. -/
theorem unplaced_all_concat {nodes others : List Markup} {node other : Markup}
    (h : unplacedAll others = unplacedAll nodes) (hlast : unplaced other = unplaced node) :
    unplacedAll (others ++ [other]) = unplacedAll (nodes ++ [node]) := by
  rw [unplaced_all_eq_map, unplaced_all_eq_map] at h ⊢
  rw [List.map_append, List.map_append, h, List.map_singleton, List.map_singleton, hlast]

end Print

namespace Parser

open Attempt Print Token

variable {context second : Context} {first top : Bool} {before after : List Event}
  {tokens others : List Token} {t : Token} {node other result : Markup}
  {chain content nodes more : List Markup}

/-- Tokens that say the same have the same first token and the same rest. -/
theorem exists_of_on_lines_cons (h : onLines others = onLines (t :: tokens)) :
    ∃ u rest, others = u :: rest ∧ u.lexeme = t.lexeme ∧ u.position.line = t.position.line ∧
      onLines rest = onLines tokens := by
  obtain ⟨u, rest, rfl, hu, hrest⟩ := List.map_eq_cons_iff.mp h
  exact ⟨u, rest, rfl, congrArg Prod.fst hu, congrArg Prod.snd hu, hrest⟩

/-- Tokens that say the same can be cut at the same place. -/
theorem exists_of_on_lines_append {rest : List Token}
    (h : onLines others = onLines (tokens ++ rest)) :
    ∃ front back, others = front ++ back ∧ onLines front = onLines tokens ∧
      onLines back = onLines rest := by
  rw [onLines, onLines, List.map_append] at h
  exact List.map_eq_append_iff.mp h

/-- A single token. -/
theorem exists_of_on_lines_singleton (h : onLines others = onLines [t]) :
    ∃ u, others = [u] ∧ u.lexeme = t.lexeme ∧ u.position.line = t.position.line := by
  obtain ⟨u, rest, rfl, hlexeme, hline, hrest⟩ := exists_of_on_lines_cons h
  rw [List.map_eq_nil_iff.mp hrest]
  exact ⟨u, rfl, hlexeme, hline⟩

/-- What tokens say decides on the attributes that they give. -/
theorem attributes_of_eq_of_on_lines (h : onLines others = onLines tokens) :
    attributesOf others = attributesOf tokens := by
  have heq := congrArg (List.filterMap fun l => l.1.attribute?) h
  rw [onLines, onLines, List.filterMap_map, List.filterMap_map] at heq
  exact heq

/-- Whether tokens are attributes depends on what they say. -/
theorem forall_is_attribute_iff :
    (∀ t ∈ tokens, t.lexeme.isAttribute = true) ↔
      ∀ l ∈ onLines tokens, l.1.isAttribute = true := by
  rw [onLines, List.forall_mem_map]

/-! ## Nodes -/

/-- A node that holds content does so in other places. -/
theorem Holds.replace (h : Holds node content result) (hnode : unplaced other = unplaced node)
    (hcontent : unplacedAll more = unplacedAll content) :
    ∃ final, Holds other more final ∧ unplaced final = unplaced result := by
  rw [unplaced_all_eq_map, unplaced_all_eq_map] at hcontent
  have hne (hcontents : content ≠ []) : more ≠ [] := by
    intro hnil
    rw [hnil] at hcontent
    exact hcontents (List.map_eq_nil_iff.mp hcontent.symm)
  cases h with
  | nothing =>
      rw [List.map_eq_nil_iff.mp hcontent]
      exact ⟨other, .nothing other, hnode⟩
  | tag h =>
      cases other with
      | tag position name attributes blockPosition children =>
          refine ⟨_, .tag (hne h), ?_⟩
          simp only [unplaced, unplaced_all_eq_map, List.map_append, hcontent, Markup.tag.injEq,
            Option.map_some, true_and] at hnode ⊢
          exact ⟨hnode.1, hnode.2.1, by rw [hnode.2.2.2]⟩
      | _ => simp [unplaced] at hnode
  | region h =>
      cases other with
      | namedBlock position name nodes =>
          refine ⟨_, .region (hne h), ?_⟩
          simp only [unplaced, unplaced_all_eq_map, List.map_append, hcontent,
            Markup.namedBlock.injEq, true_and] at hnode ⊢
          exact ⟨hnode.1, by rw [hnode.2]⟩
      | _ => simp [unplaced] at hnode

/-- A line makes up its node in other places. -/
theorem Hangs.replace {others : List Markup} (h : Hangs chain content node)
    (hchain : unplacedAll others = unplacedAll chain)
    (hcontent : unplacedAll more = unplacedAll content) :
    ∃ other, Hangs others more other ∧ unplaced other = unplaced node := by
  rw [unplaced_all_eq_map, unplaced_all_eq_map] at hchain
  induction h generalizing others with
  | last h =>
      obtain ⟨first, rest, rfl, hfirst, hrest⟩ := List.map_eq_cons_iff.mp hchain
      rw [List.map_eq_nil_iff.mp hrest]
      obtain ⟨final, hholds, hfinal⟩ := h.replace hfirst hcontent
      exact ⟨final, .last hholds, hfinal⟩
  | outer _ h ih =>
      obtain ⟨first, rest, rfl, hfirst, hrest⟩ := List.map_eq_cons_iff.mp hchain
      obtain ⟨inner, hhangs, hinner⟩ := ih hrest hcontent
      obtain ⟨final, hholds, hfinal⟩ :=
        h.replace hfirst (@unplaced_all_concat [] [] _ _ rfl hinner)
      exact ⟨final, .outer hhangs hholds, hfinal⟩

/-! ## Tokens -/

/-- The inline text of a tag. -/
theorem InlineOf.replace (h : InlineOf tokens nodes) (hsame : onLines others = onLines tokens) :
    ∃ results, InlineOf others results ∧ unplacedAll results = unplacedAll nodes := by
  cases h with
  | nothing =>
      rw [List.map_eq_nil_iff.mp hsame]
      exact ⟨[], .nothing, rfl⟩
  | text h =>
      obtain ⟨u, rfl, hlexeme, _⟩ := exists_of_on_lines_singleton hsame
      exact ⟨_, .text (hlexeme.trans h), rfl⟩

/-- The tokens of a tag. -/
theorem TagOf.replace (h : TagOf tokens node) (hsame : onLines others = onLines tokens) :
    ∃ other, TagOf others other ∧ unplaced other = unplaced node := by
  cases h with
  | intro hname hattributes hdot hinline =>
      obtain ⟨front, inline, rfl, hfront, hsecond⟩ := exists_of_on_lines_append hsame
      obtain ⟨front, dot, rfl, hfront, hdots⟩ := exists_of_on_lines_append hfront
      obtain ⟨start, attributes, rfl, hlexeme, hline, hsame⟩ := exists_of_on_lines_cons hfront
      obtain ⟨children, hchildren, hunplaced⟩ := hinline.replace hsecond
      rw [forall_is_attribute_iff, ← hsame, ← forall_is_attribute_iff] at hattributes
      have hdot : IsOptionalDot dot := by
        obtain rfl | ⟨d, rfl, hd⟩ := hdot
        · exact .inl (List.map_eq_nil_iff.mp hdots)
        · obtain ⟨u, rfl, hu, _⟩ := exists_of_on_lines_singleton hdots
          exact .inr ⟨u, rfl, hu.trans hd⟩
      refine ⟨_, .intro (hlexeme.trans hname) hattributes hdot hchildren, ?_⟩
      simp only [unplaced, attributes_of_eq_of_on_lines hsame, hunplaced, Option.map_some]

/-- The tokens of a line. Templates are loaded for the same lines, so with the same events. -/
theorem LineOf.replace (h : LineOf context first before tokens chain after)
    (hload : second.load = context.load) (hsame : onLines others = onLines tokens) :
    ∃ nodes, LineOf second first before others nodes after ∧
      unplacedAll nodes = unplacedAll chain := by
  induction h generalizing others with
  | tag h =>
      obtain ⟨node, hnode, hunplaced⟩ := h.replace hsame
      exact ⟨[node], .tag hnode, @unplaced_all_concat [] [] _ _ rfl hunplaced⟩
  | text h =>
      obtain ⟨u, rfl, hlexeme, _⟩ := exists_of_on_lines_singleton hsame
      exact ⟨_, .text (hlexeme.trans h), rfl⟩
  | region h hname =>
      obtain ⟨u, rfl, hlexeme, _⟩ := exists_of_on_lines_singleton hsame
      exact ⟨_, .region (hlexeme.trans h) hname, rfl⟩
  | included h htree =>
      obtain ⟨u, rfl, hlexeme, hline⟩ := exists_of_on_lines_singleton hsame
      rw [← hline, ← hload] at htree
      exact ⟨_, .included (hlexeme.trans h) htree, rfl⟩
  | extended h htree =>
      obtain ⟨u, rfl, hlexeme, hline⟩ := exists_of_on_lines_singleton hsame
      rw [← hline, ← hload] at htree
      exact ⟨_, .extended (hlexeme.trans h) htree, rfl⟩
  | expansion h hcolon hmore ih =>
      obtain ⟨front, back, rfl, hfront, hback⟩ := exists_of_on_lines_append hsame
      obtain ⟨colon, more, rfl, hlexeme, _, hrest⟩ := exists_of_on_lines_cons hback
      obtain ⟨node, hnode, hunplaced⟩ := h.replace hfront
      obtain ⟨nodes, hnodes, hall⟩ := ih hrest
      refine ⟨node :: nodes, .expansion hnode (hlexeme.trans hcolon) hnodes, ?_⟩
      rw [unplacedAll, unplacedAll, hunplaced, hall]

/-- The tokens of a level. -/
theorem LevelOf.replace (h : LevelOf context top before tokens nodes after)
    (hload : second.load = context.load) (hsame : onLines others = onLines tokens) :
    ∃ results, LevelOf second top before others results after ∧
      unplacedAll results = unplacedAll nodes := by
  induction h generalizing others with
  | nil =>
      rw [List.map_eq_nil_iff.mp hsame]
      exact ⟨[], .nil, rfl⟩
  | line habove hline hnewline hnode ih =>
      obtain ⟨front, back, rfl, hfront, hback⟩ := exists_of_on_lines_append hsame
      obtain ⟨above, line, rfl, habove, hlines⟩ := exists_of_on_lines_append hfront
      obtain ⟨newline, rfl, hlexeme, _⟩ := exists_of_on_lines_singleton hback
      obtain ⟨results, hresults, hall⟩ := ih habove
      obtain ⟨chain, hchain, hunplaced⟩ := hline.replace hload hlines
      obtain ⟨node, hhangs, hlast⟩ := hnode.replace hunplaced rfl
      -- The line is the first one of all if and only if it was so before.
      rw [← is_empty_eq_of_unplaced_all hall] at hchain
      refine ⟨_, .line hresults hchain (hlexeme.trans hnewline) hhangs, ?_⟩
      exact unplaced_all_concat hall hlast
  | nested habove hline hnewline hindent hbelow houtdent hnode ih ihbelow =>
      obtain ⟨front, back, rfl, hfront, hback⟩ := exists_of_on_lines_append hsame
      obtain ⟨front, rest, rfl, hfront, hrest⟩ := exists_of_on_lines_append hfront
      obtain ⟨above, line, rfl, habove, hlines⟩ := exists_of_on_lines_append hfront
      obtain ⟨newline, rest, rfl, hlexeme, _, hrest⟩ := exists_of_on_lines_cons hrest
      obtain ⟨indent, below, rfl, hin, _, hbelow⟩ := exists_of_on_lines_cons hrest
      obtain ⟨outdent, rfl, hout, _⟩ := exists_of_on_lines_singleton hback
      obtain ⟨results, hresults, hall⟩ := ih habove
      obtain ⟨content, hcontent, hinside⟩ := ihbelow hbelow
      obtain ⟨chain, hchain, hunplaced⟩ := hline.replace hload hlines
      obtain ⟨node, hhangs, hlast⟩ := hnode.replace hunplaced hinside
      rw [← is_empty_eq_of_unplaced_all hall] at hchain
      rw [← hin] at hindent
      rw [← hout] at houtdent
      refine ⟨_, .nested hresults hchain (hlexeme.trans hnewline) hindent hcontent houtdent hhangs,
        ?_⟩
      exact unplaced_all_concat hall hlast

end Parser

end ElementMarkup
