import ElementMarkup.Composition
import ElementMarkup.Proofs.Attempt
import ElementMarkup.Proofs.Attributes
import Mathlib.Data.List.TakeWhile

/-!
# Chains of templates

A template may extend another one that extends a third one, and so on. `Chain` describes such a
chain by the extends line of each template and the nodes that follow it. Main statement:
`of_nodes_chain`. The chain can be composed exactly if only named blocks follow the extends lines
and the template at the end is not empty, the block of the most derived template wins, and within
one template the last block of a name. Read `of_parent_chain` for the induction along the chain.
-/

namespace ElementMarkup

open Attempt

/-! ## Putting entries over others -/

namespace Entries

variable {α : Type}

/-- Entries that are put over others hide those with the same keys. -/
theorem get?_put_all (entries : Entries α) {more : Entries α} (h : more.keys.Nodup)
    (key : String) : (entries.putAll more).get? key = (more.get? key).or (entries.get? key) := by
  induction more generalizing entries with
  | nil => rfl
  | cons entry more ih =>
      obtain ⟨k, v⟩ := entry
      rw [keys, List.map_cons, List.nodup_cons] at h
      show (putAll (entries.put k v) more).get? key = _
      rw [ih (entries.put k v) h.2, get?_put, get?_cons]
      by_cases hkey : key = k
      · subst hkey
        rw [if_pos rfl, if_pos rfl, get?_of_not_mem h.1]
        rfl
      · rw [if_neg hkey, if_neg hkey]

end Entries

/-! ## Named blocks -/

/-- The node is a named block. -/
def Markup.isNamedBlock : Markup → Bool
  | .namedBlock _ _ _ => true
  | _ => false

/-- The body of a named block, if the node is one of the given name. -/
def Markup.body? (name : String) : Markup → Option (List Markup)
  | .namedBlock _ other nodes => if name = other then some nodes else none
  | _ => none

namespace Composition

/-- A template that extends another one: the path on its extends line, and the nodes after it. -/
structure Derived where
  path : Option String
  siblings : List Markup

namespace Derived

/-- Nothing but named blocks follows the extends line. -/
def IsPlain (level : Derived) : Prop :=
  ∀ sibling ∈ level.siblings, sibling.isNamedBlock = true

/-- The body of the last block of a name. -/
def body? (level : Derived) (name : String) : Option (List Markup) :=
  level.siblings.reverse.findSome? (Markup.body? name)

end Derived

/-- `Chain base levels nodes` says that the template with the nodes at its top extends the tree
`base` through the given templates, the most derived one first. The tree `base` extends nothing. -/
inductive Chain (base : Markup) : List Derived → List Markup → Prop where
  | base (h : ∀ position path tree, base.topLevel.head? ≠ some (.extended position path tree)) :
      Chain base [] base.topLevel
  | derived {levels : List Derived} (position : Position) (path : Option String) {tree : Markup}
      (siblings : List Markup) (h : Chain base levels tree.topLevel) :
      Chain base (⟨path, siblings⟩ :: levels) (.extended position path tree :: siblings)

/-- The fault for a node after an extends line that is no named block. Something that is no node
and has no place cannot even be reported as such. -/
def intruderFault (path : Option String) : Markup → Fault
  | .foreign none kind => .wrongKind (.noMember kind "lineno")
  | sibling =>
    .template (.badSyntax .lexing
      { problem := .contentAfterExtends sibling.kind, line := knownLine sibling, name := path })

/-- What is wrong with a chain, at the most derived template where something is: the first node
after the extends line that is no named block, or a template at the end that is empty. -/
inductive FirstOffence (base : Markup) : List Derived → Fault → Prop where
  | intruder {above below : List Derived} {level : Derived} {blocks more : List Markup}
      {sibling : Markup} (habove : ∀ level ∈ above, level.IsPlain)
      (hsiblings : level.siblings = blocks ++ sibling :: more)
      (hblocks : ∀ block ∈ blocks, block.isNamedBlock = true)
      (hsibling : sibling.isNamedBlock = false) :
      FirstOffence base (above ++ level :: below) (intruderFault level.path sibling)
  | empty {above : List Derived} {level : Derived}
      (hplain : ∀ other ∈ above ++ [level], other.IsPlain) (hbase : base.topLevel = []) :
      FirstOffence base (above ++ [level]) (.template (.emptyParent level.path))

/-! ## One template -/

variable {path : Option String} {siblings : List Markup}

/-- The blocks after an extends line are put over each other, the later ones over the earlier ones
and over those that are there. -/
theorem collect_overrides_onto (h : Derived.IsPlain ⟨path, siblings⟩)
    {overrides : Entries (List Markup)} (hnodup : overrides.keys.Nodup) :
    ∃ result, collectOverrides path overrides siblings = .ok result ∧ result.keys.Nodup ∧
      ∀ name, result.get? name =
        (Derived.body? ⟨path, siblings⟩ name).or (overrides.get? name) := by
  induction siblings generalizing overrides with
  | nil => exact ⟨overrides, rfl, hnodup, fun _ => rfl⟩
  | cons sibling siblings ih =>
      obtain ⟨hsibling, hmore⟩ := List.forall_mem_cons.mp h
      cases sibling with
      | namedBlock position blockName nodes =>
          obtain ⟨result, hresult, hkeys, hget⟩ :=
            ih hmore (Entries.nodup_keys_put hnodup blockName nodes)
          refine ⟨result, hresult, hkeys, ?_⟩
          intro name
          have hbody : Derived.body? ⟨path, .namedBlock position blockName nodes :: siblings⟩ name =
              (Derived.body? ⟨path, siblings⟩ name).or
                (if name = blockName then some nodes else none) := by
            rw [Derived.body?, List.reverse_cons, List.findSome?_append, List.findSome?_singleton]
            rfl
          rw [hget, Entries.get?_put, hbody, Option.or_assoc]
          by_cases hname : name = blockName
          · rw [if_pos hname, if_pos hname]
            rfl
          · rw [if_neg hname, if_neg hname]
            rfl
      | block | text | tag | included | extended | foreign => cases hsibling

/-- Of the blocks after an extends line the last one of a name counts. -/
theorem collect_overrides_of_is_plain (h : Derived.IsPlain ⟨path, siblings⟩) :
    ∃ result, collectOverrides path [] siblings = .ok result ∧ result.keys.Nodup ∧
      ∀ name, result.get? name = Derived.body? ⟨path, siblings⟩ name := by
  obtain ⟨result, hresult, hkeys, hget⟩ :=
    @collect_overrides_onto path siblings h [] List.nodup_nil
  exact ⟨result, hresult, hkeys, fun name => (hget name).trans Option.or_none⟩

/-- The first node after an extends line that is no named block is a fault. -/
theorem collect_overrides_of_intruder (path : Option String) {blocks : List Markup}
    (hblocks : ∀ block ∈ blocks, block.isNamedBlock = true) {sibling : Markup}
    (hsibling : sibling.isNamedBlock = false) (more : List Markup)
    (overrides : Entries (List Markup)) :
    collectOverrides path overrides (blocks ++ sibling :: more) =
      .error (intruderFault path sibling) := by
  induction blocks generalizing overrides with
  | nil =>
      cases sibling with
      | namedBlock => cases hsibling
      | foreign position kind => cases position <;> rfl
      | block | text | tag | included | extended => rfl
  | cons block blocks ih =>
      obtain ⟨hblock, hmore⟩ := List.forall_mem_cons.mp hblocks
      cases block with
      | namedBlock position name nodes => exact ih hmore (overrides.put name nodes)
      | block | text | tag | included | extended | foreign => cases hblock

/-- The nodes after an extends line are all named blocks, or one of them is the first that is
not. -/
theorem is_plain_or_exists (level : Derived) :
    level.IsPlain ∨ ∃ blocks sibling more, level.siblings = blocks ++ sibling :: more ∧
      (∀ block ∈ blocks, block.isNamedBlock = true) ∧ sibling.isNamedBlock = false := by
  have hparts := @List.takeWhile_append_dropWhile _ Markup.isNamedBlock level.siblings
  have hblocks : ∀ block ∈ level.siblings.takeWhile Markup.isNamedBlock,
      block.isNamedBlock = true := fun _ h => List.mem_takeWhile_imp h
  cases hrest : level.siblings.dropWhile Markup.isNamedBlock with
  | nil =>
      rw [hrest, List.append_nil] at hparts
      rw [hparts] at hblocks
      exact .inl hblocks
  | cons sibling more =>
      have hsibling := List.head?_dropWhile_not Markup.isNamedBlock level.siblings
      rw [hrest] at hparts hsibling
      exact .inr ⟨_, sibling, more, hparts.symm, hblocks, hsibling⟩

variable {tree : Markup}

/-- An empty parent is a fault, unless something else is wrong before. -/
theorem of_parent_of_nil (h : tree.topLevel = []) :
    ofParent path siblings tree =
      collectOverrides path [] siblings >>= fun _ => .error (.template (.emptyParent path)) := by
  cases tree with
  | block position nodes =>
      cases h
      rfl
  | namedBlock | text | tag | included | extended | foreign => cases h

/-- A parent that extends a template of its own contributes what it inherits and its blocks. -/
theorem of_parent_of_extended {position : Position} {grandPath : Option String}
    {grandParent : Markup} {more : List Markup}
    (h : tree.topLevel = .extended position grandPath grandParent :: more) :
    ofParent path siblings tree =
      collectOverrides path [] siblings >>= fun overrides =>
        ofParent grandPath more grandParent >>= fun inherited =>
          .ok ⟨inherited.root, inherited.overrides.putAll overrides⟩ := by
  cases tree with
  | block outer nodes =>
      cases h
      rw [ofParent]
      rfl
  | extended outer path' inner =>
      cases h
      rw [ofParent]
      rfl
  | namedBlock | text | tag | included | foreign => cases h

/-- A parent that extends nothing contributes its first node. -/
theorem of_parent_of_first {first : Markup} {more : List Markup}
    (h : tree.topLevel = first :: more)
    (hfirst : ∀ position path tree, first ≠ .extended position path tree) :
    ofParent path siblings tree =
      collectOverrides path [] siblings >>= fun overrides => .ok ⟨first, overrides⟩ := by
  cases tree with
  | block outer nodes =>
      cases h
      cases first with
      | extended position path tree => exact absurd rfl (hfirst position path tree)
      | block | namedBlock | text | tag | included | foreign => rfl
  | extended position path tree =>
      cases h
      exact absurd rfl (hfirst position path tree)
  | namedBlock | text | tag | included | foreign =>
      cases h
      rfl

/-- What is wrong after the extends line of a template comes before all that is wrong with its
parent. -/
theorem of_parent_of_error {fault : Fault}
    (h : collectOverrides path [] siblings = .error fault) :
    ofParent path siblings tree = .error fault := by
  cases hnodes : tree.topLevel with
  | nil =>
      rw [of_parent_of_nil hnodes, h]
      rfl
  | cons first more =>
      cases first with
      | extended position grandPath grandParent =>
          rw [of_parent_of_extended hnodes, h]
          rfl
      | block | namedBlock | text | tag | included | foreign =>
          rw [of_parent_of_first hnodes (by intro _ _ _ heq; cases heq), h]
          rfl

/-! ## Chains -/

variable {base : Markup} {levels : List Derived} {nodes : List Markup}

/-- How the composition of a chain may end: with the first node of the template at the end and the
most derived blocks, or with the first offence. -/
inductive Composes (base : Markup) (levels : List Derived) : Except Fault Composition → Prop where
  | ok {c : Composition} (hplain : ∀ level ∈ levels, level.IsPlain)
      (hroot : base.topLevel.head? = some c.root)
      (hlookup : ∀ name, c.lookup name = levels.findSome? (·.body? name)) :
      Composes base levels (.ok c)
  | error {fault : Fault} (hoffence : FirstOffence base levels fault) :
      Composes base levels (.error fault)

/-- The first offence of a chain stays the first one if a template without one extends the chain. -/
theorem FirstOffence.cons {fault : Fault} (h : FirstOffence base levels fault) {level : Derived}
    (hplain : level.IsPlain) : FirstOffence base (level :: levels) fault := by
  cases h with
  | intruder habove hsiblings hblocks hsibling =>
      rw [← List.cons_append]
      exact .intruder (List.forall_mem_cons.mpr ⟨hplain, habove⟩) hsiblings hblocks hsibling
  | empty hall hbase =>
      rw [← List.cons_append]
      exact .empty (List.forall_mem_cons.mpr ⟨hplain, hall⟩) hbase

/-- A node that is no named block is the first offence of the most derived template. -/
theorem composes_of_intruder
    (h : ∃ blocks sibling more, siblings = blocks ++ sibling :: more ∧
      (∀ block ∈ blocks, block.isNamedBlock = true) ∧ sibling.isNamedBlock = false) :
    Composes base (⟨path, siblings⟩ :: levels) (ofParent path siblings tree) := by
  obtain ⟨blocks, sibling, more, hsiblings, hblocks, hsibling⟩ := h
  have hcollect := collect_overrides_of_intruder path hblocks hsibling more []
  rw [← hsiblings] at hcollect
  rw [of_parent_of_error hcollect]
  exact .error (@FirstOffence.intruder base [] levels ⟨path, siblings⟩ _ _ _
    (List.forall_mem_nil _) hsiblings hblocks hsibling)

/-- The body of a block is that of the first template, or else of the other ones. -/
theorem find_some?_body?_cons (level : Derived) (levels : List Derived) (name : String) :
    (level :: levels).findSome? (·.body? name) =
      (level.body? name).or (levels.findSome? (·.body? name)) := by
  rw [List.findSome?_cons]
  cases level.body? name <;> rfl

/-- Composing along a chain ends with the most derived blocks or with the first offence. -/
theorem of_parent_chain (hchain : Chain base levels nodes) (htree : tree.topLevel = nodes) :
    Composes base (⟨path, siblings⟩ :: levels) (ofParent path siblings tree) := by
  induction hchain generalizing path siblings tree with
  | base hbase =>
      rcases is_plain_or_exists ⟨path, siblings⟩ with hplain | hintruder
      · obtain ⟨overrides, hoverrides, _, hget⟩ := collect_overrides_of_is_plain hplain
        cases hnodes : base.topLevel with
        | nil =>
            have hempty :=
              @FirstOffence.empty base [] _ (List.forall_mem_singleton.mpr hplain) hnodes
            rw [of_parent_of_nil (htree.trans hnodes), hoverrides]
            exact .error hempty
        | cons first more =>
            have hfirst (position : Position) (path : Option String) (tree : Markup) :
                first ≠ .extended position path tree := by
              intro heq
              apply hbase position path tree
              rw [hnodes, heq]
              rfl
            rw [of_parent_of_first (htree.trans hnodes) hfirst, hoverrides]
            refine .ok (List.forall_mem_singleton.mpr hplain) (congrArg List.head? hnodes) ?_
            intro name
            show overrides.get? name = _
            rw [hget, List.findSome?_singleton]
      · exact composes_of_intruder hintruder
  | @derived levels position grandPath grandParent grandSiblings hchain ih =>
      rcases is_plain_or_exists ⟨path, siblings⟩ with hplain | hintruder
      · obtain ⟨overrides, hoverrides, hnodup, hget⟩ := collect_overrides_of_is_plain hplain
        have hparent := @ih grandPath grandSiblings grandParent rfl
        rw [of_parent_of_extended htree, hoverrides]
        generalize ofParent grandPath grandSiblings grandParent = inherited at hparent
        cases hparent with
        | @ok c hall hroot hlookup =>
            refine .ok (List.forall_mem_cons.mpr ⟨hplain, hall⟩) hroot ?_
            intro name
            -- The blocks of this template hide those that its parent contributes or inherits.
            show (c.overrides.putAll overrides).get? name = _
            have hinherited : c.overrides.get? name = _ := hlookup name
            rw [Entries.get?_put_all _ hnodup, hget, hinherited,
              find_some?_body?_cons ⟨path, siblings⟩]
        | error hoffence => exact .error (hoffence.cons hplain)
      · exact composes_of_intruder hintruder

/-- A template that extends another one is composed if its parent can be, and this is reported. -/
theorem yields_of_nodes_extended {position : Position} {before after : List Event}
    {c : Composition} :
    Yields (ofNodes (.extended position path tree :: siblings)) before c after ↔
      ofParent path siblings tree = .ok c ∧
        before ++ [.resolvedExtends path c.overrides.keys] = after := by
  unfold ofNodes
  simp only [yields_bind, yields_lift_except, yields_report, yields_pure]
  constructor
  · intro h
    obtain ⟨result, _, ⟨hresult, rfl⟩, _, _, rfl, rfl, rfl⟩ := h
    exact ⟨hresult, rfl⟩
  · intro h
    exact ⟨c, before, ⟨h.1, rfl⟩, (), after, h.2, rfl, rfl⟩

/-- A template that extends another one fails as its parent does. -/
theorem fails_of_nodes_extended {position : Position} {before after : List Event} {fault : Fault} :
    Fails (ofNodes (.extended position path tree :: siblings)) before fault after ↔
      ofParent path siblings tree = .error fault ∧ before = after := by
  unfold ofNodes
  simp only [fails_bind, fails_lift_except, not_fails_report, not_fails_pure, and_false,
    exists_const, exists_false, or_false]

/-- A chain with an offence has a node that is no named block after an extends line, or an empty
template at its end. -/
theorem FirstOffence.not_plain {fault : Fault} (h : FirstOffence base levels fault) :
    ¬ ((∀ level ∈ levels, level.IsPlain) ∧ base.topLevel ≠ []) := by
  intro hplain
  cases h with
  | @intruder above below level blocks more sibling habove hsiblings hblocks hsibling =>
      have hlevel := hplain.1 level (by simp)
      have hblock := hlevel sibling (by rw [hsiblings]; simp)
      rw [hsibling] at hblock
      cases hblock
  | empty hall hbase => exact hplain.2 hbase

/-- Block overrides resolve to the most derived definition. A chain of templates can be composed
exactly if only named blocks follow the extends lines and the template at its end is not empty. Its
root is then the first node of the template at the end, and a block has the body of the last block
of its name in the most derived template that has one. If the chain cannot be composed, the fault is
that of the most derived template where something is wrong. -/
theorem of_nodes_chain (hchain : Chain base levels nodes) (hlevels : levels ≠ [])
    (before : List Event) :
    ((∃ c after, Yields (ofNodes nodes) before c after) ↔
        (∀ level ∈ levels, ∀ sibling ∈ level.siblings, sibling.isNamedBlock = true) ∧
          base.topLevel ≠ []) ∧
      (∀ c after, Yields (ofNodes nodes) before c after →
        base.topLevel.head? = some c.root ∧
          ∀ name, c.lookup name = levels.findSome? (·.body? name)) ∧
      ∀ fault after, Fails (ofNodes nodes) before fault after →
        FirstOffence base levels fault := by
  cases hchain with
  | base => exact absurd rfl hlevels
  | @derived levels position path tree siblings hchain =>
      have hcomposes := @of_parent_chain path siblings tree base levels _ hchain rfl
      simp only [yields_of_nodes_extended, fails_of_nodes_extended]
      generalize ofParent path siblings tree = result at hcomposes
      cases hcomposes with
      | @ok c hplain hroot hlookup =>
          refine ⟨iff_of_true ⟨c, _, rfl, rfl⟩ ⟨hplain, ?_⟩, ?_, ?_⟩
          · intro hnil
            rw [hnil] at hroot
            cases hroot
          · intro other after h
            cases h.1
            exact ⟨hroot, hlookup⟩
          · intro fault after h
            cases h.1
      | @error fault hoffence =>
          refine ⟨iff_of_false ?_ hoffence.not_plain, ?_, ?_⟩
          · intro h
            obtain ⟨c, after, heq, _⟩ := h
            cases heq
          · intro c after h
            cases h.1
          · intro other after h
            cases h.1
            exact hoffence

/-- Three templates, with a block that the most derived one replaces and one that its parent gives
twice. -/
theorem of_nodes_chain_replaced :
    let block (name text : String) : Markup := .namedBlock .unknown name [.text .unknown text]
    let base : Markup := .block .unknown [.text .unknown "root", .text .unknown "more"]
    let parent : Markup := .block .unknown [.extended .unknown (some "base") base,
      block "a" "parent", block "b" "first", block "b" "second"]
    ∃ c after, Yields (ofNodes [.extended .unknown (some "parent") parent, block "a" "child"]) []
        c after ∧
      c.root = .text .unknown "root" ∧ c.lookup "a" = some [.text .unknown "child"] ∧
      c.lookup "b" = some [.text .unknown "second"] ∧ c.lookup "c" = none := by
  intro block base parent
  have hchain : Chain base [⟨some "parent", [block "a" "child"]⟩,
      ⟨some "base", [block "a" "parent", block "b" "first", block "b" "second"]⟩]
      [.extended .unknown (some "parent") parent, block "a" "child"] :=
    @Chain.derived base _ _ _ parent _
      (@Chain.derived base _ _ _ base _ (.base (by intro _ _ _ h; cases h)))
  obtain ⟨hcomposes, hresult, _⟩ := of_nodes_chain hchain (List.cons_ne_nil _ _) []
  have hblocks : ∀ level ∈ [(⟨some "parent", [block "a" "child"]⟩ : Derived),
      ⟨some "base", [block "a" "parent", block "b" "first", block "b" "second"]⟩],
      ∀ sibling ∈ level.siblings, sibling.isNamedBlock = true := by
    simp [block, Markup.isNamedBlock]
  obtain ⟨c, after, hc⟩ := hcomposes.mpr ⟨hblocks, List.cons_ne_nil _ _⟩
  obtain ⟨hroot, hlookup⟩ := hresult c after hc
  exact ⟨c, after, hc, (Option.some.inj hroot).symm, (hlookup "a").trans rfl,
    (hlookup "b").trans rfl, (hlookup "c").trans rfl⟩

end Composition

end ElementMarkup
