import ElementMarkup.Proofs.Indentation
import ElementMarkup.Proofs.Parser
import ElementMarkup.Proofs.TagHead
import ElementMarkup.Proofs.TreePlaces

/-!
# Block expansion

A colon after the head of a tag puts what follows it inside the tag. A source whose first line is at
the margin can therefore be moved behind a head: its tree moves inside the tag, whatever lines stand
below. Main statement: `parse_source_expansion`. The tokens of the lines below stay the same, the
first line changes its columns, and the tree changes its places.
-/

namespace ElementMarkup

open Attempt

/-! ## Lines -/

/-- Line ends are unified behind a text without line feeds, unless the text ends inside a line
end. -/
theorem Text.unify_line_ends_append_of_not_mem {line rest : List Char} (h : '\n' ∉ line)
    (hrest : rest.head? ≠ some '\n') :
    unifyLineEnds (line ++ rest) = line ++ unifyLineEnds rest := by
  induction line with
  | nil => rfl
  | cons c line ih =>
      have hline := (not_or.mp (mt List.mem_cons.mpr h)).2
      rw [List.cons_append, unifyLineEnds, ih hline, List.cons_append]
      intro more _ hmore
      cases line with
      | nil => exact hrest (congrArg List.head? hmore)
      | cons d line =>
          cases hmore
          exact hline List.mem_cons_self

namespace Token

variable {head source : String} {first : List Char} {below : List (List Char)}
  {tokens others : List Token}

/-- A line that is neither blank nor indented. -/
def AtMargin (line : List Char) : Prop :=
  Text.allBlank line = false ∧ Layout.indentWidth line = 0

instance (line : List Char) : Decidable (AtMargin line) :=
  inferInstanceAs (Decidable (_ ∧ _))

/-- A text without line feeds is one line. -/
theorem source_lines_of_not_mem (h : '\n' ∉ head.toList) : sourceLines head = [head.toList] := by
  have hunified := @Text.unify_line_ends_append_of_not_mem head.toList [] h (by simp)
  have hsplit := Text.split_on_append_of_not_mem h []
  rw [Text.unifyLineEnds, List.append_nil] at hunified
  rw [List.append_nil] at hsplit
  rw [sourceLines, hunified, hsplit]
  exact congrArg (fun line => [line]) (List.append_nil _)

/-- What stands in front of a source stands in front of its first line. -/
theorem source_lines_expansion (h : '\n' ∉ head.toList)
    (hsource : sourceLines source = first :: below) :
    sourceLines (head ++ ": " ++ source) = (head.toList ++ ':' :: ' ' :: first) :: below := by
  have htext : (head ++ ": " ++ source).toList = head.toList ++ ':' :: ' ' :: source.toList := by
    simp
  have hunified : Text.unifyLineEnds (head ++ ": " ++ source).toList =
      (head.toList ++ [':', ' ']) ++ Text.unifyLineEnds source.toList := by
    rw [htext, Text.unify_line_ends_append_of_not_mem h (by simp), List.append_assoc]
    rfl
  have hcolon : '\n' ∉ head.toList ++ [':', ' '] := by
    simp [h]
  rw [sourceLines] at hsource
  rw [sourceLines, hunified, Text.split_on_append_of_not_mem hcolon, hsource, List.modifyHead_cons,
    List.append_assoc]
  rfl

/-- Whether tokens open a block depends on what they say. -/
theorem opens_block_congr (h : onLines others = onLines tokens) :
    opensBlock others = opensBlock tokens := by
  have heq (tokens : List Token) :
      opensBlock tokens = (onLines tokens).getLast?.any fun l => l.1 == .dot := by
    rw [opensBlock, onLines, List.getLast?_map, Option.any_map]
  rw [heq, heq, h]

/-- Whether a line opens a block depends on what stands last on it. -/
theorem opens_block_append (first : List Token) (h : tokens ≠ []) :
    opensBlock (first ++ tokens) = opensBlock tokens := by
  rw [opensBlock, List.getLast?_append_of_ne_nil first h, opensBlock]

/-- A line of a tag name and attributes opens no text block. -/
theorem opens_block_eq_false {line : Nat} {tag : String} {ls : List Lexeme}
    (hls : ∀ l ∈ ls, l.isAttribute = true)
    (h : onLines tokens = onLine line (.tagName tag :: ls)) : opensBlock tokens = false := by
  rw [Bool.eq_false_iff]
  intro hopens
  obtain ⟨t, hlast, hdot⟩ := (Option.any_eq_true _ _).mp hopens
  have hmem : (t.lexeme, t.position.line) ∈ onLine line (.tagName tag :: ls) := by
    rw [← h]
    exact List.mem_map_of_mem (List.mem_of_getLast? hlast)
  obtain ⟨l, hl, heq⟩ := List.mem_map.mp hmem
  have hlexeme : l = .dot := (congrArg Prod.fst heq).trans (beq_iff_eq.mp hdot)
  rcases List.mem_cons.mp hl with htag | hl
  · rw [hlexeme] at htag
    cases htag
  · have hattribute := hls l hl
    rw [hlexeme] at hattribute
    cases hattribute

/-- A line whose first character is not blank is at the margin. -/
theorem at_margin_cons {c : Char} (h : Text.isBlank c = false) (cs : List Char) :
    AtMargin (c :: cs) := by
  refine ⟨Text.all_blank_eq_false List.mem_cons_self h, ?_⟩
  have hgap : Line.isGap c = false := by
    by_contra hgap
    simp only [Line.isGap, Bool.not_eq_false, Bool.or_eq_true, beq_iff_eq] at hgap
    rcases hgap with rfl | rfl <;> revert h <;> decide
  rw [Layout.indentWidth, List.takeWhile_cons_of_neg (by simp [hgap])]
  rfl

/-- The first line of a source, if it is at the margin. -/
theorem scan_line_start (h : AtMargin first) (below : List (List Char)) :
    scanLine .start 1 first below = (do
      let content ← Line.tokens 1 0 first
      return (content ++ (if opensBlock content then TextBlock.tokens 1 0 below else []) ++
          [⟨.newline, ⟨1, first.length⟩⟩], .start,
        if opensBlock content then (TextBlock.blockLines 0 below).length else 0)) := by
  unfold scanLine
  rw [h.2]
  show (do
    let content ← Line.tokens 1 0 first
    if opensBlock content then _ else _) = _
  congr 1
  funext content
  split
  · rfl
  · rw [List.append_nil]
    rfl

/-- A source whose first line is at the margin gives the tokens of this line, the text block below
it if it opens one, and the tokens of the other lines. -/
theorem scan_eq_ok_iff (hlines : sourceLines source = first :: below) (hfirst : AtMargin first) :
    scan source = .ok tokens ↔
      ∃ content more, Line.tokens 1 0 first = .ok content ∧
        scanLines .start 2 (if opensBlock content then (TextBlock.blockLines 0 below).length else 0)
          below = .ok more ∧
        tokens = content ++ (if opensBlock content then TextBlock.tokens 1 0 below else []) ++
          ⟨.newline, ⟨1, first.length⟩⟩ :: more := by
  rw [scan, hlines, scanLines, hfirst.1, scan_line_start hfirst]
  cases hcontent : Line.tokens 1 0 first with
  | error flaw =>
      constructor
      · intro h
        cases h
      · rintro ⟨content, more, h, _⟩
        cases h
  | ok content =>
      show (scanLines .start 2 _ below >>= fun more => .ok (_ ++ more)) = .ok tokens ↔ _
      rw [bind_eq_ok]
      constructor
      · rintro ⟨more, hmore, heq⟩
        cases heq
        exact ⟨content, more, rfl, hmore, by simp⟩
      · rintro ⟨_, more, heq, hmore, rfl⟩
        cases heq
        exact ⟨more, hmore, by simp⟩

/-- A source behind a head gives the tokens of the head, a colon, and its own tokens at other
columns. -/
theorem exists_scan_expansion {start : List Token}
    (hhead : Line.IsHead head.toList) (hline : '\n' ∉ head.toList)
    (hstart : Line.tokens 1 0 head.toList = .ok start) (hscan : scan source = .ok tokens)
    (hfirst : ∀ line ∈ (sourceLines source).head?, AtMargin line) :
    ∃ (colon : Token) (others : List Token), colon.lexeme = .colon ∧
      scan (head ++ ": " ++ source) = .ok others ∧
      onLines others = onLines (start ++ colon :: tokens) := by
  obtain ⟨first, below, hlines⟩ := List.exists_cons_of_ne_nil (source_lines_ne_nil source)
  have hfirst := hfirst first (by rw [hlines]; rfl)
  obtain ⟨content, more, hcontent, hmore, rfl⟩ := (scan_eq_ok_iff hlines hfirst).mp hscan
  obtain ⟨colon, moved, hcolon, hmoved, hsame⟩ := hhead.tokens_colon hstart hcontent
  -- The line opens the same text block as before, so that the same lines below it are passed.
  have hopens : opensBlock moved = opensBlock content := by
    have hne : content ≠ [] := by
      intro hnil
      exact (is_content_tokens hcontent).ne_nil (by rw [hnil]; rfl)
    rw [opens_block_congr hsame, ← List.singleton_append, ← List.append_assoc,
      opens_block_append _ hne]
  obtain ⟨c, cs, hcs, hc⟩ := hhead.exists_cons
  have hmargin := at_margin_cons hc (cs ++ ':' :: ' ' :: first)
  rw [← List.cons_append, ← hcs] at hmargin
  rw [← hopens] at hmore
  refine ⟨colon, _, hcolon, (scan_eq_ok_iff (source_lines_expansion hline hlines) hmargin).mpr
    ⟨moved, more, hmoved, hmore, rfl⟩, ?_⟩
  simp only [onLines, List.map_append, List.map_cons] at hsame ⊢
  rw [hsame, hopens]
  simp

end Token

/-! ## Trees -/

namespace Parser

open Token

variable {context : Context} {before after : List Event} {tokens head : List Token}
  {node outer result : Markup} {chain content nodes : List Markup}

/-- A level without nodes has no tokens. -/
theorem LevelOf.eq_nil {top : Bool} (h : LevelOf context top before tokens [] after) :
    tokens = [] ∧ before = after := by
  generalize hnodes : ([] : List Markup) = nodes at h
  cases h with
  | nil => exact ⟨rfl, rfl⟩
  | line _ _ _ _ => simp at hnodes
  | nested _ _ _ _ _ _ _ => simp at hnodes

/-- A line that does not extend a template can stand behind a colon. -/
theorem LineOf.behind (h : LineOf context true before tokens chain after)
    (hhangs : Hangs chain content node)
    (hnode : ∀ place path tree, node ≠ .extended place path tree) :
    LineOf context false before tokens chain after := by
  cases h with
  | tag h => exact .tag h
  | text h => exact .text h
  | region h hname => exact .region h hname
  | included h hload => exact .included h hload
  | extended _ _ =>
      -- The node of such a line can only be the extended template.
      cases hhangs with
      | last hholds =>
          cases hholds
          exact absurd rfl (hnode _ _ _)
      | outer hinner _ => cases hinner
  | expansion h hcolon hmore => exact .expansion h hcolon hmore

/-- A tag and a colon in front of a single node put the node inside the tag. -/
theorem LevelOf.expand (h : LevelOf context true before tokens [node] after)
    (hnode : ∀ place path tree, node ≠ .extended place path tree) (hhead : TagOf head outer)
    {colon : Token} (hcolon : colon.lexeme = .colon) (hresult : Holds outer [node] result) :
    LevelOf context true before (head ++ colon :: tokens) [result] after := by
  generalize hnodes : [node] = nodes at h
  cases h with
  | nil => cases hnodes
  | line habove hline hnewline hhangs =>
      obtain ⟨rfl, hlast⟩ := List.append_inj' (show [] ++ [node] = _ ++ [_] from hnodes) rfl
      cases hlast
      obtain ⟨rfl, rfl⟩ := habove.eq_nil
      have hlevel := LevelOf.line habove (.expansion hhead hcolon (hline.behind hhangs hnode))
        hnewline (.outer hhangs hresult)
      simpa using hlevel
  | nested habove hline hnewline hindent hbelow houtdent hhangs =>
      obtain ⟨rfl, hlast⟩ := List.append_inj' (show [] ++ [node] = _ ++ [_] from hnodes) rfl
      cases hlast
      obtain ⟨rfl, rfl⟩ := habove.eq_nil
      have hlevel := LevelOf.nested habove (.expansion hhead hcolon (hline.behind hhangs hnode))
        hnewline hindent hbelow houtdent (.outer hhangs hresult)
      simpa using hlevel

/-- The tokens of a head are those of a tag without content. -/
theorem exists_tag_of {line : Nat} {name : String} {ls : List Lexeme}
    (hls : ∀ l ∈ ls, l.isAttribute = true)
    (h : onLines tokens = onLine line (.tagName name :: ls)) :
    ∃ place attributes, TagOf tokens (.tag place name attributes (some ⟨place.line, 0⟩) []) := by
  obtain ⟨start, attributes, rfl, hstart, hattributes⟩ := List.map_eq_cons_iff.mp h
  refine ⟨start.position, attributesOf attributes, ?_⟩
  have hall : ∀ t ∈ attributes, t.lexeme.isAttribute = true := by
    rw [forall_is_attribute_iff, onLines, hattributes]
    simpa using hls
  have htag := TagOf.intro (congrArg Prod.fst hstart) hall (.inl rfl) .nothing
  rw [List.append_nil, List.append_nil] at htag
  exact htag

end Parser

namespace Environment

open Token

variable {name : Option String} {load : String → Logged Markup} {source : String} {tree : Markup}
  {before after : List Event}

/-- A source is parsed to exactly the trees of the tokens before its end. -/
theorem yields_parse_source_iff :
    Yields (parseSource name load source) before tree after ↔
      ∃ front last nodes, scan source = .ok (front ++ [last]) ∧ last.lexeme = .endOfSource ∧
        tree = .block ⟨1, 0⟩ nodes ∧
        Parser.LevelOf ⟨name, some source, fun path _ => load path⟩ true before front nodes
          after := by
  have hends {tokens : List Token} (hscan : scan source = .ok tokens) :
      (∃ t ∈ tokens, t.isEnd = true) ∧ ∃ last, last.lexeme = .endOfSource ∧
        tokens = (tokens.takeWhile fun t => !t.isEnd) ++ [last] := by
    obtain ⟨front, last, rfl, hlast, hfront⟩ := (stream_scan hscan).ends
    have hend : last.isEnd = true := by simp [Token.isEnd, hlast]
    refine ⟨⟨last, by simp, hend⟩, last, hlast, ?_⟩
    rw [List.takeWhile_append_of_pos (fun t ht => by simp [Token.isEnd, hfront t ht]),
      List.takeWhile_cons_of_neg (by simp [hend]), List.append_nil]
  constructor
  · intro h
    obtain ⟨tokens, _, htokens, hparse⟩ := yields_bind.mp h
    obtain ⟨hsource, rfl⟩ := yields_lift_except.mp htokens
    have hscan := Parser.scan_of_of_source hsource
    obtain ⟨hend, last, hlast, heq⟩ := hends hscan
    obtain ⟨nodes, htree, hlevel⟩ := (Parser.yields_parse_iff hend).mp hparse
    rw [heq] at hscan
    exact ⟨_, last, nodes, hscan, hlast, htree, hlevel⟩
  · rintro ⟨front, last, nodes, hscan, hlast, rfl, hlevel⟩
    have htokens : ofSource source name = .ok (front ++ [last]) := by
      rw [ofSource, hscan]
      rfl
    obtain ⟨hend, _, _, heq⟩ := hends hscan
    obtain ⟨hfront, _⟩ := List.append_inj' heq rfl
    rw [hfront] at hlevel
    refine yields_bind.mpr ⟨_, before, yields_lift_except.mpr ⟨htokens, rfl⟩, ?_⟩
    exact (Parser.yields_parse_iff hend).mpr ⟨nodes, rfl, hlevel⟩

/-- A head that is a source of its own is parsed to a tag without content. -/
theorem parse_source_head {head : String} (hhead : Line.IsHead head.toList)
    (hline : '\n' ∉ head.toList) (h : Yields (parseSource name load head) before tree after) :
    ∃ start position tag attributes, Line.tokens 1 0 head.toList = .ok start ∧
      Parser.TagOf start (.tag position tag attributes (some ⟨position.line, 0⟩) []) ∧
      tree = .block ⟨1, 0⟩ [.tag position tag attributes (some ⟨position.line, 0⟩) []] := by
  obtain ⟨_, _, _, hscan, _⟩ := yields_parse_source_iff.mp h
  obtain ⟨c, cs, hcs, hc⟩ := hhead.exists_cons
  have hmargin := at_margin_cons hc cs
  rw [← hcs] at hmargin
  obtain ⟨start, more, hstart, hmore, htokens⟩ :=
    (scan_eq_ok_iff (source_lines_of_not_mem hline) hmargin).mp hscan
  obtain ⟨tag, ls, hls, hlines, _⟩ := hhead.on_lines_tokens hstart
  obtain ⟨position, attributes, htag⟩ := Parser.exists_tag_of hls hlines
  refine ⟨start, position, tag, attributes, hstart, htag, ?_⟩
  rw [opens_block_eq_false hls hlines] at hmore htokens
  cases hmore
  rw [htokens, if_neg Bool.false_ne_true, List.append_nil] at hscan
  -- The parser has one answer only, so it is enough to give the tree of these tokens.
  let newline : Token := ⟨.newline, ⟨1, head.toList.length⟩⟩
  let last : Token := ⟨.endOfSource, ⟨1, 0⟩⟩
  have hscan : scan head = .ok ([] ++ start ++ [newline] ++ [last]) := by
    rw [hscan, List.append_assoc]
    rfl
  exact (yields_unique h (yields_parse_source_iff.mpr ⟨_, last, _, hscan, rfl, rfl,
    .line .nil (.tag htag) rfl (.last (.nothing _))⟩)).1

/-- Block expansion is nesting. Let a head and a source be parsed on their own, the source to one
node that does not extend a template, and let its first line be neither blank nor indented. Then the
source behind the head and a colon is parsed with the same events, and up to places its tree is the
tag of the head with the node as its only child. -/
theorem parse_source_expansion {head : String} {node : Markup} {headBefore headAfter : List Event}
    {place : Position} (hhead : Line.IsHead head.toList) (hline : '\n' ∉ head.toList)
    (hparsed : Yields (parseSource name load head) headBefore tree headAfter)
    (hsource : Yields (parseSource name load source) before (.block place [node]) after)
    (hnode : ∀ place path tree, node ≠ .extended place path tree)
    (hfirst : ∀ line ∈ (sourceLines source).head?, AtMargin line) :
    ∃ position tag attributes block result,
      tree = .block ⟨1, 0⟩ [.tag position tag attributes block []] ∧
      Yields (parseSource name load (head ++ ": " ++ source)) before (.block ⟨1, 0⟩ [result])
        after ∧
      Print.unplaced result = Print.unplaced (.tag position tag attributes block [node]) := by
  obtain ⟨start, position, tag, attributes, hstart, htag, htree⟩ :=
    parse_source_head hhead hline hparsed
  obtain ⟨front, last, nodes, hscan, hlast, hblock, hlevel⟩ := yields_parse_source_iff.mp hsource
  cases hblock
  obtain ⟨colon, others, hcolon, hothers, hsame⟩ :=
    exists_scan_expansion hhead hline hstart hscan hfirst
  -- The node goes inside the tag with its tokens as they are, and then they change their columns.
  have hexpanded := hlevel.expand hnode htag hcolon (.tag (List.cons_ne_nil node []))
  rw [← List.cons_append, ← List.append_assoc] at hsame
  obtain ⟨moved, back, rfl, hmoved, hback⟩ := Parser.exists_of_on_lines_append hsame
  obtain ⟨ending, rfl, hending, _⟩ := Parser.exists_of_on_lines_singleton hback
  let context : Parser.Context := ⟨name, some (head ++ ": " ++ source), fun path _ => load path⟩
  obtain ⟨results, hresults, hunplaced⟩ :=
    hexpanded.replace (show context.load = fun path _ => load path from rfl) hmoved
  rw [Print.unplaced_all_eq_map, Print.unplaced_all_eq_map] at hunplaced
  obtain ⟨result, rfl, hresult⟩ := List.map_eq_singleton_iff.mp hunplaced
  refine ⟨position, tag, attributes, some ⟨position.line, 0⟩, result, htree, ?_, hresult⟩
  exact yields_parse_source_iff.mpr
    ⟨moved, ending, [result], hothers, hending.trans hlast, rfl, hresults⟩

/-- A head with a colon in its name and all kinds of groups, in front of a line that has a colon of
its own and opens a text block. -/
theorem parse_source_expansion_text_block :
    let load : String → Logged Markup := fun path => pure (.text .unknown path)
    let head := "a:x#y.-z(c=1 d)"
    let source := "b: p.\n  one\n    two"
    ∃ result, Yields (parseSource none load (head ++ ": " ++ source)) [] (.block ⟨1, 0⟩ [result])
        [] ∧
      Print.unplaced result =
        .tag .unknown "a:x" [⟨"id", .text "y"⟩, ⟨"class", .text "-z"⟩, ⟨"c", .integer 1⟩,
          ⟨"d", .boolean true⟩] (some .unknown) [.tag .unknown "b" [] (some .unknown)
            [.tag .unknown "p" [] (some .unknown) [.text .unknown "one\n  two"]]] := by
  intro load head source
  have hattributes : Line.attributeList 1 0 "c=1 d)".toList =
      .ok ([⟨.attributePair "c" (.integer 1), ⟨1, 0⟩⟩,
        ⟨.attributePair "d" (.boolean true), ⟨1, 4⟩⟩], []) := by decide +kernel
  have hhead : Line.IsHead head.toList := by
    have heq : head.toList = "a:x".toList ++
        [['#', 'y'], '.' :: (['-'] ++ ['z']), '(' :: "c=1 d)".toList].flatten := by decide +kernel
    rw [heq]
    refine .intro (by decide) ?_
    intro group hgroup
    simp only [List.mem_cons, List.not_mem_nil, or_false] at hgroup
    rcases hgroup with rfl | rfl | rfl
    · exact .idName (by decide) (List.all_eq_true.mp (by decide))
    · exact .className (.inr rfl) (by decide) (by simp)
    · exact .attributes hattributes
  have htokens : ofSource head none = .ok [⟨.tagName "a:x", ⟨1, 0⟩⟩,
      ⟨.idName (.text "y"), ⟨1, 3⟩⟩, ⟨.className (.text "-z"), ⟨1, 5⟩⟩,
      ⟨.attributePair "c" (.integer 1), ⟨1, 9⟩⟩, ⟨.attributePair "d" (.boolean true), ⟨1, 13⟩⟩,
      ⟨.newline, ⟨1, 15⟩⟩, ⟨.endOfSource, ⟨1, 0⟩⟩] := by decide +kernel
  have hsource : ofSource source none = .ok [⟨.tagName "b", ⟨1, 0⟩⟩, ⟨.colon, ⟨1, 1⟩⟩,
      ⟨.tagName "p", ⟨1, 3⟩⟩, ⟨.dot, ⟨1, 4⟩⟩, ⟨.text "one\n  two", ⟨2, 2⟩⟩, ⟨.newline, ⟨1, 5⟩⟩,
      ⟨.endOfSource, ⟨3, 0⟩⟩] := by decide +kernel
  have hfirst : ∀ line ∈ (sourceLines source).head?, AtMargin line := by decide +kernel
  obtain ⟨position, tag, attributes, block, result, htree, hyields, hresult⟩ :=
    @parse_source_expansion none load source _ [] [] head _ [] [] ⟨1, 0⟩ hhead (by decide +kernel)
      (yields_bind.mpr ⟨_, [], yields_lift_except.mpr ⟨htokens, rfl⟩, rfl⟩)
      (yields_bind.mpr ⟨_, [], yields_lift_except.mpr ⟨hsource, rfl⟩, rfl⟩)
      (fun _ _ _ h => by cases h) hfirst
  cases htree
  exact ⟨result, hyields, hresult⟩

end Environment

end ElementMarkup
