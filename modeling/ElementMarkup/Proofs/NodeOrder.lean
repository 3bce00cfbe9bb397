import ElementMarkup.Proofs.TreeGrammar

/-!
# The order of nodes

The nodes of a tree, listed from the outside in and from the top down, are the tokens that stand for
a node, in the order in which they were read. The trees of other templates are not listed. Main
statement: `parse_listing`, which together with the grammar of trees says that the parser loses,
repeats and reorders nothing.
-/

namespace ElementMarkup

/-- What a node says, apart from the nodes inside it. -/
inductive Item where
  | tag (position : Position) (name : String) (attributes : List Attribute)
  | text (position : Position) (value : String)
  | region (position : Position) (name : String)
  | included (position : Position) (path : Option String)
  | extended (position : Position) (path : Option String)
  deriving DecidableEq, Repr

/-- The item of a template that is extended. -/
def Item.isExtended : Item → Bool
  | extended _ _ => true
  | _ => false

namespace Markup

mutual

/-- The items of a node: its own and then those of the nodes inside it. -/
def listing : Markup → List Item
  | .block _ nodes => listingOf nodes
  | .namedBlock position name nodes => .region position name :: listingOf nodes
  | .text position value => [.text position value]
  | .tag position name attributes _ children =>
    .tag position name attributes :: listingOf children
  | .included position path _ => [.included position path]
  | .extended position path _ => [.extended position path]
  | .foreign _ _ => []

/-- The items of several nodes. -/
def listingOf : List Markup → List Item
  | [] => []
  | node :: nodes => listing node ++ listingOf nodes

end

end Markup

namespace Token

/-- The item that a token stands for, given the tokens behind it: the attributes of a tag follow its
name. -/
def item? (t : Token) (rest : List Token) : Option Item :=
  match t.lexeme with
  | .tagName name =>
    some (.tag t.position name
      (Parser.attributesOf (rest.takeWhile fun t => t.lexeme.isAttribute)))
  | .text value => some (.text t.position value)
  | .blockName (.text name) => some (.region t.position name)
  | .includePath path => some (.included t.position (some path))
  | .extendsPath path => some (.extended t.position (some path))
  | _ => none

/-- The items that tokens stand for. -/
def listing : List Token → List Item
  | [] => []
  | t :: rest => (t.item? rest).toList ++ listing rest

end Token

/-! ## Listings -/

namespace Lexeme

/-- A level does not open inside a line. -/
theorem is_inside_of_is_indent {l : Lexeme} (h : l.isIndent = true) : l.isInside = false := by
  cases l <;> simp_all [isIndent, isInside]

/-- A level does not end inside a line. -/
theorem is_inside_of_is_outdent {l : Lexeme} (h : l.isOutdent = true) : l.isInside = false := by
  cases l <;> simp_all [isOutdent, isInside]

end Lexeme

namespace Markup

/-- The nodes of two lists are listed one list after the other. -/
theorem listing_of_append (first second : List Markup) :
    listingOf (first ++ second) = listingOf first ++ listingOf second := by
  induction first with
  | nil => rfl
  | cons node first ih => simp only [List.cons_append, listingOf, ih, List.append_assoc]

/-- A single node. -/
theorem listing_of_singleton (node : Markup) : listingOf [node] = node.listing := by
  simp only [listingOf, List.append_nil]

end Markup

namespace Token

variable {t : Token} {tokens more : List Token}

/-- Attributes behind a list of tokens belong to it only if they follow it directly. -/
theorem take_while_is_attribute_append (h : ∀ t ∈ more.head?, t.lexeme.isAttribute = false) :
    ((tokens ++ more).takeWhile fun t => t.lexeme.isAttribute) =
      tokens.takeWhile fun t => t.lexeme.isAttribute := by
  induction tokens with
  | nil =>
      cases more with
      | nil => rfl
      | cons t more =>
          have ht := h t rfl
          simp [ht]
  | cons t tokens ih =>
      cases ht : t.lexeme.isAttribute <;> simp [ht, ih]

/-- Two lists of tokens stand for the items of both, unless the second one starts with
attributes. -/
theorem listing_append (h : ∀ t ∈ more.head?, t.lexeme.isAttribute = false) :
    listing (tokens ++ more) = listing tokens ++ listing more := by
  induction tokens with
  | nil => rfl
  | cons t tokens ih =>
      have hitem : t.item? (tokens ++ more) = t.item? tokens := by
        unfold item?
        rw [take_while_is_attribute_append h]
      simp only [List.cons_append, listing, hitem, ih, List.append_assoc]

/-- Attributes stand for no items of their own. -/
theorem listing_attributes (h : ∀ t ∈ tokens, t.lexeme.isAttribute = true) :
    listing tokens = [] := by
  induction tokens with
  | nil => rfl
  | cons t tokens ih =>
      have ht := h t List.mem_cons_self
      have hitem : t.item? tokens = none := by
        unfold item?
        cases hlexeme : t.lexeme <;> simp_all [Lexeme.isAttribute]
      rw [listing, hitem, ih fun u hu => h u (List.mem_cons_of_mem t hu)]
      rfl

/-- A token that stands for no item may be left out. -/
theorem listing_cons_of_none (h : t.item? tokens = none) :
    listing (t :: tokens) = listing tokens := by
  rw [listing, h]
  rfl

/-- A token outside a line stands for no item, and is no attribute of what is before it. -/
theorem listing_append_cons_of_not_is_inside (h : t.lexeme.isInside = false) :
    listing (tokens ++ t :: more) = listing tokens ++ listing more := by
  have hitem : t.item? more = none := by
    unfold item?
    cases hlexeme : t.lexeme <;> simp_all [Lexeme.isInside]
  have hattribute : t.lexeme.isAttribute = false := by
    cases hlexeme : t.lexeme <;> simp_all [Lexeme.isInside, Lexeme.isAttribute]
  rw [listing_append (by simpa using hattribute), listing_cons_of_none hitem]

end Token

namespace Parser

open Attempt Token Markup

variable {context : Context} {first top : Bool} {before after : List Event} {tokens : List Token}
  {node : Markup} {chain content nodes : List Markup}

/-- Content is listed behind the node that holds it. -/
theorem Holds.listing {result : Markup} (h : Holds node content result) :
    result.listing = node.listing ++ listingOf content := by
  cases h with
  | nothing => simp only [listingOf, List.append_nil]
  | tag | region => simp only [Markup.listing, listing_of_append, List.cons_append]

/-- The nodes of a line are listed in order, and then the content below the line. -/
theorem Hangs.listing (h : Hangs chain content node) :
    node.listing = listingOf chain ++ listingOf content := by
  induction h with
  | last hholds => rw [hholds.listing, listing_of_singleton]
  | outer _ hholds ih => rw [hholds.listing, listing_of_singleton, ih, listingOf, List.append_assoc]

/-- The inline text of a tag is listed by its token. -/
theorem InlineOf.listing (h : InlineOf tokens content) :
    Token.listing tokens = listingOf content := by
  cases h with
  | nothing => rfl
  | text htext => simp only [Token.listing, item?, htext, listingOf, Markup.listing]; rfl

/-- A tag is listed by its tokens. -/
theorem TagOf.listing (h : TagOf tokens node) : Token.listing tokens = node.listing := by
  obtain ⟨hname, hattributes, hdot, hinline⟩ := h
  rename_i start name attributes dot inline children
  have hhead : ∀ t ∈ (dot ++ inline).head?, t.lexeme.isAttribute = false := by
    intro t ht
    rcases hdot with rfl | ⟨d, rfl, hd⟩
    · cases hinline with
      | nothing => cases ht
      | text htext =>
          cases ht
          rw [htext]
          rfl
    · cases ht
      rw [hd]
      rfl
  have hrest : Token.listing (dot ++ inline) = listingOf children := by
    rcases hdot with rfl | ⟨d, rfl, hd⟩
    · exact hinline.listing
    · rw [List.singleton_append, listing_cons_of_none (by simp only [item?, hd]), hinline.listing]
  have htake : ((attributes ++ (dot ++ inline)).takeWhile fun t => t.lexeme.isAttribute) =
      attributes := by
    rw [take_while_is_attribute_append hhead]
    exact List.takeWhile_eq_self_iff.mpr hattributes
  rw [List.append_assoc, List.cons_append, Token.listing, listing_append hhead,
    listing_attributes hattributes, hrest]
  simp only [item?, hname, htake]
  rfl

/-- A line is listed by its tokens, and does not start with an attribute. -/
theorem LineOf.listing (h : LineOf context first before tokens chain after) :
    Token.listing tokens = listingOf chain ∧
      ∀ t ∈ tokens.head?, t.lexeme.isAttribute = false := by
  induction h with
  | tag htag =>
      refine ⟨by rw [htag.listing, listing_of_singleton], ?_⟩
      obtain ⟨hname, -, -, -⟩ := htag
      intro t ht
      cases ht
      rw [hname]
      rfl
  | text hlexeme | region hlexeme _ | included hlexeme _ | extended hlexeme _ =>
      constructor
      · simp only [Token.listing, item?, hlexeme, listingOf, Markup.listing]
        rfl
      · intro t ht
        cases ht
        rw [hlexeme]
        rfl
  | expansion htag hcolon _ ih =>
      obtain ⟨hmore, -⟩ := ih
      constructor
      · rw [listing_append, htag.listing, listing_cons_of_none (by simp only [item?, hcolon]),
          hmore, listingOf]
        intro t ht
        cases ht
        rw [hcolon]
        rfl
      · obtain ⟨hname, -, -, -⟩ := htag
        intro t ht
        cases ht
        rw [hname]
        rfl

/-- A level is listed by its tokens. -/
theorem LevelOf.listing (h : LevelOf context top before tokens nodes after) :
    Token.listing tokens = listingOf nodes := by
  induction h with
  | nil => rfl
  | line _ hline hnewline hnode ih =>
      obtain ⟨hlisting, hhead⟩ := hline.listing
      rw [listing_append_cons_of_not_is_inside (by rw [hnewline]; rfl), listing_append hhead, ih,
        hlisting, listing_of_append, listing_of_singleton, hnode.listing]
      simp only [Token.listing, listingOf, List.append_nil]
  | nested _ hline hnewline hindent _ houtdent hnode ih ihbelow =>
      obtain ⟨hlisting, hhead⟩ := hline.listing
      have hopening := Lexeme.is_inside_of_is_indent hindent
      have hclosing := Lexeme.is_inside_of_is_outdent houtdent
      rw [listing_append_cons_of_not_is_inside hclosing,
        listing_append_cons_of_not_is_inside (by rw [hnewline]; rfl), listing_append hhead, ih,
        hlisting, ← List.nil_append (_ :: _), listing_append_cons_of_not_is_inside hopening,
        ihbelow, listing_of_append, listing_of_singleton, hnode.listing]
      simp only [Token.listing, List.nil_append, List.append_nil, List.append_assoc]

/-! ## Extended templates -/

/-- Only the first item can be a template that is extended, and only where this is allowed. -/
def ExtendsFirst (allowed : Bool) (items : List Item) : Prop :=
  (∀ item ∈ items.tail, item.isExtended = false) ∧
    (allowed = false → ∀ item ∈ items, item.isExtended = false)

/-- Where nothing is extended, nothing is extended in the wrong place. -/
theorem extends_first_of_forall {items : List Item} (h : ∀ item ∈ items, item.isExtended = false) :
    ExtendsFirst first items :=
  ⟨fun item hitem => h item (List.mem_of_mem_tail hitem), fun _ => h⟩

/-- Behind other items nothing can be extended. -/
theorem ExtendsFirst.append {items others : List Item} (h : ExtendsFirst top items)
    (hothers : ExtendsFirst first others) (hfirst : first = true → top = true ∧ items = []) :
    ExtendsFirst top (items ++ others) := by
  cases first with
  | true =>
      obtain ⟨rfl, rfl⟩ := hfirst rfl
      exact hothers
  | false =>
      have hnone := hothers.2 rfl
      constructor
      · intro item hitem
        cases items with
        | nil => exact hnone item (List.mem_of_mem_tail hitem)
        | cons _ items =>
            rcases List.mem_append.mp hitem with hitem | hitem
            · exact h.1 item hitem
            · exact hnone item hitem
      · intro htop
        exact List.forall_mem_append.mpr ⟨h.2 htop, hnone⟩

/-- A tag extends nothing. -/
theorem TagOf.is_extended_listing (h : TagOf tokens node) :
    ∀ item ∈ node.listing, item.isExtended = false := by
  obtain ⟨-, -, -, hinline⟩ := h
  cases hinline <;> simp [Markup.listing, listingOf, Item.isExtended]

/-- A line extends a template only with its first item. -/
theorem LineOf.extends_first (h : LineOf context first before tokens chain after) :
    ExtendsFirst first (listingOf chain) := by
  induction h with
  | tag htag =>
      rw [listing_of_singleton]
      exact extends_first_of_forall htag.is_extended_listing
  | text | region | included | extended =>
      simp [ExtendsFirst, listingOf, Markup.listing, Item.isExtended]
  | expansion htag _ _ ih =>
      rw [listingOf]
      exact extends_first_of_forall
        (List.forall_mem_append.mpr ⟨htag.is_extended_listing, ih.2 rfl⟩)

/-- The next line of a level, with what is below it. -/
theorem extends_first_concat (hnodes : ExtendsFirst top (listingOf nodes))
    (hchain : ExtendsFirst (top && nodes.isEmpty) (listingOf chain))
    (hcontent : ExtendsFirst false (listingOf content)) (hnode : Hangs chain content node) :
    ExtendsFirst top (listingOf (nodes ++ [node])) := by
  rw [listing_of_append, listing_of_singleton, hnode.listing]
  refine hnodes.append (hchain.append hcontent (by simp)) ?_
  intro hfirst
  obtain ⟨htop, hempty⟩ := Bool.and_eq_true_iff.mp hfirst
  rw [List.isEmpty_iff.mp hempty]
  exact ⟨htop, rfl⟩

/-- A level extends a template only with its first item, and only if it is the outermost one. -/
theorem LevelOf.extends_first (h : LevelOf context top before tokens nodes after) :
    ExtendsFirst top (listingOf nodes) := by
  induction h with
  | nil => simp [ExtendsFirst, listingOf]
  | line _ hline _ hnode ih =>
      exact extends_first_concat ih hline.extends_first (by simp [ExtendsFirst, listingOf]) hnode
  | nested _ hline _ _ _ _ hnode ih ihbelow =>
      exact extends_first_concat ih hline.extends_first ihbelow hnode

/-- The parser ends with a fault or with the tree of a template. It gives exactly the trees of the
grammar. The nodes of a tree are those that the tokens before the end of the source stand for, in
the same order, and only the very first of them can extend another template. -/
theorem parse_listing (context : Context) {tokens : List Token}
    (h : ∃ t ∈ tokens, t.isEnd = true) (before : List Event) :
    ((∃ fault after, Fails (Parser.parse context tokens) before fault after) ∨
      ∃ nodes after, Yields (Parser.parse context tokens) before (.block ⟨1, 0⟩ nodes) after) ∧
    ∀ nodes after,
      (Yields (Parser.parse context tokens) before (.block ⟨1, 0⟩ nodes) after ↔
        LevelOf context true before (tokens.takeWhile fun t => !t.isEnd) nodes after) ∧
      (Yields (Parser.parse context tokens) before (.block ⟨1, 0⟩ nodes) after →
        listingOf nodes = Token.listing (tokens.takeWhile fun t => !t.isEnd) ∧
        ∀ (i : Nat) (position : Position) (path : Option String),
          (listingOf nodes)[i]? = some (.extended position path) → i = 0) := by
  have hiff (nodes : List Markup) (after : List Event) :
      Yields (Parser.parse context tokens) before (.block ⟨1, 0⟩ nodes) after ↔
        LevelOf context true before (tokens.takeWhile fun t => !t.isEnd) nodes after := by
    rw [yields_parse_iff h]
    constructor
    · rintro ⟨_, heq, hlevel⟩
      cases heq
      exact hlevel
    · intro hlevel
      exact ⟨nodes, rfl, hlevel⟩
  refine ⟨?_, fun nodes after => ⟨hiff nodes after, fun hyields => ?_⟩⟩
  · rcases yields_or_fails (Parser.parse context tokens) before with ⟨tree, after, hyields⟩ | hfails
    · obtain ⟨nodes, rfl, -⟩ := (yields_parse_iff h).mp hyields
      exact .inr ⟨nodes, after, hyields⟩
    · exact .inl hfails
  · have hlevel := (hiff nodes after).mp hyields
    refine ⟨hlevel.listing.symm, fun i position path hitem => ?_⟩
    cases i with
    | zero => rfl
    | succ i =>
        rw [← List.getElem?_tail] at hitem
        cases hlevel.extends_first.1 _ (List.mem_of_getElem? hitem)

/-- A template that extends another one, a line with a tag inside another one and inline text, and
two lines below it, one of which includes a template. -/
theorem parse_listing_expansion :
    let context : Context := ⟨none, none, fun path _ => pure (.text .unknown path)⟩
    let tokens : List Token :=
      [⟨.extendsPath "base", ⟨1, 0⟩⟩, ⟨.newline, ⟨1, 12⟩⟩, ⟨.tagName "ul", ⟨2, 0⟩⟩,
        ⟨.className (.text "a"), ⟨2, 2⟩⟩, ⟨.colon, ⟨2, 4⟩⟩, ⟨.tagName "li", ⟨2, 6⟩⟩,
        ⟨.idName (.text "b"), ⟨2, 8⟩⟩, ⟨.attributePair "c" (.boolean true), ⟨2, 11⟩⟩,
        ⟨.text "One", ⟨2, 14⟩⟩, ⟨.newline, ⟨2, 17⟩⟩, ⟨.indent (some 2), ⟨3, 0⟩⟩,
        ⟨.text "two", ⟨3, 2⟩⟩, ⟨.newline, ⟨3, 7⟩⟩, ⟨.includePath "x", ⟨4, 2⟩⟩,
        ⟨.newline, ⟨4, 11⟩⟩, ⟨.outdent none, ⟨4, 0⟩⟩, ⟨.endOfSource, ⟨4, 0⟩⟩]
    (∃ t ∈ tokens, t.isEnd = true) ∧
    ∃ nodes, Yields (Parser.parse context tokens) [] (.block ⟨1, 0⟩ nodes) [] ∧
      listingOf nodes =
        [.extended ⟨1, 0⟩ (some "base"), .tag ⟨2, 0⟩ "ul" [⟨"class", .text "a"⟩],
          .tag ⟨2, 6⟩ "li" [⟨"id", .text "b"⟩, ⟨"c", .boolean true⟩], .text ⟨2, 14⟩ "One",
          .text ⟨3, 2⟩ "two", .included ⟨4, 2⟩ (some "x")] := by
  intro context tokens
  have hend : ∃ t ∈ tokens, t.isEnd = true := ⟨⟨.endOfSource, ⟨4, 0⟩⟩, by simp [tokens], rfl⟩
  refine ⟨hend, _, rfl, ?_⟩
  exact (((parse_listing context hend []).2 _ []).2 rfl).1

end Parser

end ElementMarkup
