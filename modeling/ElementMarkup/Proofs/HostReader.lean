import ElementMarkup.Proofs.Transform

/-!
# Format strings of programs

A format string can be split into fragments and interpolations only if it consists of texts and
fields. The reader of programs makes no others. Main statement: `is_well_formed_of_source`. The
functions of the reader call each other with less and less room, so that the property is proved of
all of them at once (`Reads`), by induction on the room.
-/

namespace ElementMarkup.Host

namespace Expr

/-- A part of a format string: a text or a field. -/
def isPart : Expr → Bool
  | constant (.text _) => true
  | field _ _ _ => true
  | _ => false

/-- If the expression is a format string, it consists of texts and fields. -/
def hasParts : Expr → Bool
  | formatString parts => parts.all isPart
  | _ => true

/-- All format strings in an expression consist of texts and fields. -/
def isWellFormed (e : Expr) : Bool :=
  e.all hasParts

/-- An expression is well formed if its own parts are as they should be and those right inside it
are well formed. -/
theorem is_well_formed_iff {e : Expr} : e.isWellFormed = true ↔
    e.hasParts = true ∧ ∀ inner ∈ e.inside, inner.isWellFormed = true :=
  all_iff

/-- A format string is well formed if its parts are texts and fields, and well formed. -/
theorem is_well_formed_format_string {parts : List Expr}
    (h : ∀ part ∈ parts, part.isWellFormed = true ∧ part.isPart = true) :
    (formatString parts).isWellFormed = true :=
  is_well_formed_iff.mpr
    ⟨List.all_eq_true.mpr fun part hpart => (h part hpart).2, fun part hpart => (h part hpart).1⟩

end Expr

mutual

/-- All format strings in a statement consist of texts and fields. -/
def Statement.isWellFormed : Statement → Bool
  | .assign targets value => targets.all Expr.isWellFormed && value.isWellFormed
  | .expression value => value.isWellFormed
  | .define _ _ body => areWellFormed body
  | .giveBack value => value.all Expr.isWellFormed
  | .other _ parts body => parts.all Expr.isWellFormed && areWellFormed body

/-- All format strings in statements consist of texts and fields. -/
def Statement.areWellFormed : List Statement → Bool
  | [] => true
  | s :: statements => s.isWellFormed && areWellFormed statements

end

namespace Reader

/-! ## Results with a property -/

section

variable {ε α β : Type} {p : α → Prop} {q : β → Prop}

/-- Every result has the property. -/
def Delivers (x : Except ε α) (p : α → Prop) : Prop :=
  ∀ a, x = .ok a → p a

/-- A result is the only one. -/
theorem delivers_ok {a : α} (h : p a) : Delivers (.ok a : Except ε α) p := by
  intro b hb
  cases hb
  exact h

/-- A fault is no result. -/
theorem delivers_error (fault : ε) : Delivers (.error fault : Except ε α) p := by
  intro a ha
  cases ha

/-- The results of two steps in a row are those of the second one. -/
theorem delivers_bind {x : Except ε α} {f : α → Except ε β} (hx : Delivers x p)
    (hf : ∀ a, p a → Delivers (f a) q) : Delivers (x >>= f) q := by
  intro b hb
  obtain ⟨a, ha, hb⟩ := Attempt.bind_eq_ok.mp hb
  exact hf a (hx a ha) b hb

/-- Nothing is said of the results. -/
theorem delivers_any (x : Except ε α) : Delivers x fun _ => True :=
  fun _ _ => trivial

/-- Words that cannot go on give no result. -/
theorem delivers_stuck (words : List Word) : Delivers (stuck words : Except HostFault α) p := by
  unfold stuck
  split
  · exact delivers_error _
  · exact delivers_error _

end

/-! ## Expressions -/

open ElementMarkup.Host.Expr (is_well_formed_iff is_well_formed_format_string)

/-- With the given room all that is read is well formed. -/
structure Reads (room : Nat) : Prop where
  expressions (words : List Word) :
    Delivers (readExpressions room words) fun r => r.1.isWellFormed = true
  more (words : List Word) :
    Delivers (readMore room words) fun r => ∀ e ∈ r.1, e.isWellFormed = true
  expression (words : List Word) :
    Delivers (readExpression room words) fun r => r.1.isWellFormed = true
  sum (words : List Word) : Delivers (readSum room words) fun r => r.1.isWellFormed = true
  sumRest {left : Expr} (hleft : left.isWellFormed = true) (words : List Word) :
    Delivers (readSumRest room left words) fun r => r.1.isWellFormed = true
  product (words : List Word) : Delivers (readProduct room words) fun r => r.1.isWellFormed = true
  productRest {left : Expr} (hleft : left.isWellFormed = true) (words : List Word) :
    Delivers (readProductRest room left words) fun r => r.1.isWellFormed = true
  signed (words : List Word) : Delivers (readSigned room words) fun r => r.1.isWellFormed = true
  trailers (line : Nat) {e : Expr} (he : e.isWellFormed = true) (words : List Word) :
    Delivers (readTrailers room line e words) fun r => r.1.isWellFormed = true
  arguments (words : List Word) :
    Delivers (readArguments room words) fun r =>
      (∀ e ∈ r.1.1, e.isWellFormed = true) ∧ ∀ entry ∈ r.1.2, entry.2.isWellFormed = true
  nextArguments (words : List Word) :
    Delivers (readNextArguments room words) fun r =>
      (∀ e ∈ r.1.1, e.isWellFormed = true) ∧ ∀ entry ∈ r.1.2, entry.2.isWellFormed = true
  atom (words : List Word) : Delivers (readAtom room words) fun r => r.1.isWellFormed = true
  target (words : List Word) : Delivers (readTarget room words) fun r => r.1.isWellFormed = true
  entries (words : List Word) :
    Delivers (readEntries room words) fun r =>
      ∀ entry ∈ r.1, entry.1.isWellFormed = true ∧ entry.2.isWellFormed = true
  parts (inSpec : Bool) (depth line : Nat) (cs : List Char) :
    Delivers (readParts room inSpec depth line cs) fun r =>
      ∀ part ∈ r.1, part.isWellFormed = true ∧ part.isPart = true
  field (depth line : Nat) (cs : List Char) :
    Delivers (readField room depth line cs) fun r =>
      r.2.1.isWellFormed = true ∧ r.2.1.isPart = true

section

variable {room : Nat} (h : Reads room)

include h

/-- Several expressions are well formed. -/
theorem delivers_read_expressions (words : List Word) :
    Delivers (readExpressions (room + 1) words) fun r => r.1.isWellFormed = true := by
  rw [readExpressions]
  refine delivers_bind (h.expression words) ?_
  rintro ⟨first, words⟩ hfirst
  dsimp only
  split
  · refine delivers_bind (h.more words) ?_
    rintro ⟨rest, words⟩ hrest
    exact delivers_ok (is_well_formed_iff.mpr ⟨rfl, List.forall_mem_cons.mpr ⟨hfirst, hrest⟩⟩)
  · exact delivers_ok hfirst

/-- Further expressions are well formed. -/
theorem delivers_read_more (words : List Word) :
    Delivers (readMore (room + 1) words) fun r => ∀ e ∈ r.1, e.isWellFormed = true := by
  rw [readMore]
  dsimp only
  split
  · split
    · exact delivers_ok (List.forall_mem_nil _)
    · refine delivers_bind (h.expression _) ?_
      rintro ⟨e, words⟩ he
      refine delivers_bind (h.more words) ?_
      rintro ⟨es, words⟩ hes
      exact delivers_ok (List.forall_mem_cons.mpr ⟨he, hes⟩)
  · exact delivers_ok (List.forall_mem_nil _)

/-- An expression is well formed. -/
theorem delivers_read_expression (words : List Word) :
    Delivers (readExpression (room + 1) words) fun r => r.1.isWellFormed = true := by
  rw [readExpression]
  refine delivers_bind (h.sum words) ?_
  rintro ⟨body, words⟩ hbody
  dsimp only
  split
  · refine delivers_bind (h.sum _) ?_
    rintro ⟨test, words⟩ htest
    refine delivers_bind (delivers_any _) fun words _ => ?_
    refine delivers_bind (h.expression words) ?_
    rintro ⟨orElse, words⟩ horElse
    exact delivers_ok (is_well_formed_iff.mpr
      ⟨rfl, by simpa [Expr.inside] using ⟨htest, hbody, horElse⟩⟩)
  · exact delivers_ok hbody

/-- A sum is well formed. -/
theorem delivers_read_sum (words : List Word) :
    Delivers (readSum (room + 1) words) fun r => r.1.isWellFormed = true := by
  rw [readSum]
  refine delivers_bind (h.product words) ?_
  rintro ⟨first, words⟩ hfirst
  exact h.sumRest hfirst words

omit h in
/-- An operation on well formed operands is well formed. -/
theorem is_well_formed_binary {left right : Expr} (hleft : left.isWellFormed = true)
    (hright : right.isWellFormed = true) (op : Operator) :
    (Expr.binary left op right).isWellFormed = true :=
  is_well_formed_iff.mpr ⟨rfl, by simpa [Expr.inside] using ⟨hleft, hright⟩⟩

/-- A sum with more operands is well formed. -/
theorem delivers_read_sum_rest {left : Expr} (hleft : left.isWellFormed = true)
    (words : List Word) :
    Delivers (readSumRest (room + 1) left words) fun r => r.1.isWellFormed = true := by
  rw [readSumRest]
  split
  · refine delivers_bind (h.product _) ?_
    rintro ⟨right, words⟩ hright
    exact h.sumRest (is_well_formed_binary hleft hright _) words
  · refine delivers_bind (h.product _) ?_
    rintro ⟨right, words⟩ hright
    exact h.sumRest (is_well_formed_binary hleft hright _) words
  · exact delivers_ok hleft

/-- A product is well formed. -/
theorem delivers_read_product (words : List Word) :
    Delivers (readProduct (room + 1) words) fun r => r.1.isWellFormed = true := by
  rw [readProduct]
  refine delivers_bind (h.signed words) ?_
  rintro ⟨first, words⟩ hfirst
  exact h.productRest hfirst words

/-- A product with more operands is well formed. -/
theorem delivers_read_product_rest {left : Expr} (hleft : left.isWellFormed = true)
    (words : List Word) :
    Delivers (readProductRest (room + 1) left words) fun r => r.1.isWellFormed = true := by
  rw [readProductRest]
  split
  · refine delivers_bind (h.signed _) ?_
    rintro ⟨right, words⟩ hright
    exact h.productRest (is_well_formed_binary hleft hright _) words
  · exact delivers_ok hleft

/-- An operand with its signs is well formed. -/
theorem delivers_read_signed (words : List Word) :
    Delivers (readSigned (room + 1) words) fun r => r.1.isWellFormed = true := by
  rw [readSigned]
  split
  · refine delivers_bind (h.signed _) ?_
    rintro ⟨operand, words⟩ hoperand
    exact delivers_ok (is_well_formed_iff.mpr ⟨rfl, List.forall_mem_singleton.mpr hoperand⟩)
  · refine delivers_bind (h.atom words) ?_
    rintro ⟨e, rest⟩ he
    exact h.trailers (lineOf words) he rest

/-- What stands behind an expression keeps it well formed. -/
theorem delivers_read_trailers (line : Nat) {e : Expr} (he : e.isWellFormed = true)
    (words : List Word) :
    Delivers (readTrailers (room + 1) line e words) fun r => r.1.isWellFormed = true := by
  rw [readTrailers]
  split
  · refine delivers_bind (delivers_any _) ?_
    rintro ⟨attr, words⟩ _
    refine h.trailers line (is_well_formed_iff.mpr ⟨rfl, ?_⟩) words
    exact List.forall_mem_singleton.mpr he
  · refine delivers_bind (h.arguments _) ?_
    rintro ⟨⟨arguments, keywords⟩, words⟩ ⟨harguments, hkeywords⟩
    refine h.trailers line (is_well_formed_iff.mpr ⟨rfl, ?_⟩) words
    refine List.forall_mem_cons.mpr ⟨he, List.forall_mem_append.mpr ⟨harguments, ?_⟩⟩
    exact List.forall_mem_map.mpr hkeywords
  · refine delivers_bind (h.expressions _) ?_
    rintro ⟨index, words⟩ hindex
    refine delivers_bind (delivers_any _) fun words _ => ?_
    exact h.trailers line
      (is_well_formed_iff.mpr ⟨rfl, by simpa [Expr.inside] using ⟨he, hindex⟩⟩) words
  · exact delivers_ok he

/-- The arguments of a call are well formed. -/
theorem delivers_read_arguments (words : List Word) :
    Delivers (readArguments (room + 1) words) fun r =>
      (∀ e ∈ r.1.1, e.isWellFormed = true) ∧ ∀ entry ∈ r.1.2, entry.2.isWellFormed = true := by
  rw [readArguments]
  split
  · exact delivers_ok ⟨List.forall_mem_nil _, List.forall_mem_nil _⟩
  · split
    · refine delivers_bind (delivers_any _) ?_
      rintro ⟨name, words⟩ _
      refine delivers_bind (h.expression _) ?_
      rintro ⟨value, words⟩ hvalue
      refine delivers_bind (h.nextArguments words) ?_
      rintro ⟨rest, words⟩ ⟨-, hrest⟩
      dsimp only
      split
      · exact delivers_ok ⟨List.forall_mem_nil _, List.forall_mem_cons.mpr ⟨hvalue, hrest⟩⟩
      · exact delivers_stuck words
    · refine delivers_bind (h.expression words) ?_
      rintro ⟨e, words⟩ he
      refine delivers_bind (h.nextArguments words) ?_
      rintro ⟨⟨arguments, keywords⟩, words⟩ ⟨harguments, hkeywords⟩
      exact delivers_ok ⟨List.forall_mem_cons.mpr ⟨he, harguments⟩, hkeywords⟩

/-- The arguments after a comma are well formed. -/
theorem delivers_read_next_arguments (words : List Word) :
    Delivers (readNextArguments (room + 1) words) fun r =>
      (∀ e ∈ r.1.1, e.isWellFormed = true) ∧ ∀ entry ∈ r.1.2, entry.2.isWellFormed = true := by
  rw [readNextArguments]
  split
  · exact h.arguments _
  · exact delivers_ok ⟨List.forall_mem_nil _, List.forall_mem_nil _⟩
  · exact delivers_stuck words

/-- A name, a constant, a string or something in brackets is well formed. -/
theorem delivers_read_atom (words : List Word) :
    Delivers (readAtom (room + 1) words) fun r => r.1.isWellFormed = true := by
  unfold readAtom
  split
  · exact delivers_ok rfl
  · exact delivers_ok rfl
  · exact delivers_ok rfl
  · split
    · exact delivers_ok rfl
    · exact delivers_stuck _
  · exact delivers_ok rfl
  · split
    · exact delivers_ok rfl
    · exact delivers_error _
  · refine delivers_bind (h.parts _ _ _ _) ?_
    rintro ⟨parts, _⟩ hparts
    exact delivers_ok (is_well_formed_format_string hparts)
  · split
    · exact delivers_ok rfl
    · refine delivers_bind (h.expressions _) ?_
      rintro ⟨e, rest⟩ he
      exact delivers_bind (delivers_any _) fun _ _ => delivers_ok he
  · split
    · exact delivers_ok rfl
    · refine delivers_bind (h.expression _) ?_
      rintro ⟨first, rest⟩ hfirst
      dsimp only
      split
      · refine delivers_bind (h.target _) ?_
        rintro ⟨target, rest⟩ htarget
        refine delivers_bind (delivers_any _) fun rest _ => ?_
        refine delivers_bind (h.sum rest) ?_
        rintro ⟨source, rest⟩ hsource
        refine delivers_bind (delivers_any _) fun _ _ => ?_
        exact delivers_ok (is_well_formed_iff.mpr
          ⟨rfl, by simpa [Expr.inside] using ⟨hfirst, htarget, hsource⟩⟩)
      · refine delivers_bind (h.more rest) ?_
        rintro ⟨more, rest⟩ hmore
        refine delivers_bind (delivers_any _) fun _ _ => ?_
        exact delivers_ok (is_well_formed_iff.mpr ⟨rfl, List.forall_mem_cons.mpr ⟨hfirst, hmore⟩⟩)
  · refine delivers_bind (h.entries _) ?_
    rintro ⟨pairs, rest⟩ hpairs
    refine delivers_ok (is_well_formed_iff.mpr ⟨rfl, List.forall_mem_append.mpr ⟨?_, ?_⟩⟩)
    · exact List.forall_mem_map.mpr fun entry hentry => (hpairs entry hentry).1
    · exact List.forall_mem_map.mpr fun entry hentry => (hpairs entry hentry).2
  · exact delivers_stuck _

/-- What a comprehension assigns to is well formed. -/
theorem delivers_read_target (words : List Word) :
    Delivers (readTarget (room + 1) words) fun r => r.1.isWellFormed = true := by
  have hend {target : Expr} {rest : List Word} (htarget : target.isWellFormed = true) :
      Delivers (if isTarget target = true then pure (target, rest) else stuck words)
        fun r => r.1.isWellFormed = true := by
    split
    · exact delivers_ok htarget
    · exact delivers_stuck words
  rw [readTarget]
  refine delivers_bind (h.signed words) ?_
  rintro ⟨first, rest⟩ hfirst
  dsimp only
  split
  · refine delivers_bind (h.more rest) ?_
    rintro ⟨more, rest⟩ hmore
    exact hend (is_well_formed_iff.mpr ⟨rfl, List.forall_mem_cons.mpr ⟨hfirst, hmore⟩⟩)
  · exact hend hfirst

/-- The entries of a dictionary are well formed. -/
theorem delivers_read_entries (words : List Word) :
    Delivers (readEntries (room + 1) words) fun r =>
      ∀ entry ∈ r.1, entry.1.isWellFormed = true ∧ entry.2.isWellFormed = true := by
  rw [readEntries]
  split
  · exact delivers_ok (List.forall_mem_nil _)
  · refine delivers_bind (h.expression words) ?_
    rintro ⟨key, words⟩ hkey
    refine delivers_bind (delivers_any _) fun words _ => ?_
    refine delivers_bind (h.expression words) ?_
    rintro ⟨value, words⟩ hvalue
    dsimp only
    split
    · refine delivers_bind (h.entries _) ?_
      rintro ⟨entries, words⟩ hentries
      exact delivers_ok (List.forall_mem_cons.mpr ⟨⟨hkey, hvalue⟩, hentries⟩)
    · exact delivers_ok (List.forall_mem_singleton.mpr ⟨hkey, hvalue⟩)
    · exact delivers_stuck words

omit h in
/-- Literal text is a part of a format string. -/
theorem is_part_of_mem_literal_part {cs : List Char} {part : Expr} (hpart : part ∈ literalPart cs) :
    part.isWellFormed = true ∧ part.isPart = true := by
  unfold literalPart at hpart
  split at hpart
  · cases hpart
  · rw [List.mem_singleton.mp hpart]
    exact ⟨rfl, rfl⟩

/-- The parts of a format string are texts and fields. -/
theorem delivers_read_parts (inSpec : Bool) (depth line : Nat) (cs : List Char) :
    Delivers (readParts (room + 1) inSpec depth line cs) fun r =>
      ∀ part ∈ r.1, part.isWellFormed = true ∧ part.isPart = true := by
  rw [readParts]
  split
  · exact delivers_error _
  · dsimp only
    split
    · exact delivers_error _
    · refine delivers_bind (h.field _ _ _) ?_
      rintro ⟨echo, field, after⟩ hfield
      refine delivers_bind (h.parts _ _ _ _) ?_
      rintro ⟨parts, after⟩ hparts
      exact delivers_ok (List.forall_mem_append.mpr
        ⟨fun _ => is_part_of_mem_literal_part, List.forall_mem_cons.mpr ⟨hfield, hparts⟩⟩)
    · exact delivers_ok fun _ => is_part_of_mem_literal_part

/-- A field is a part of a format string. -/
theorem delivers_read_field (depth line : Nat) (cs : List Char) :
    Delivers (readField (room + 1) depth line cs) fun r =>
      r.2.1.isWellFormed = true ∧ r.2.1.isPart = true := by
  rw [readField]
  split
  · exact delivers_error _
  · rename_i text rest _
    dsimp only
    split
    · exact delivers_error _
    · refine delivers_bind (h.expressions _) ?_
      rintro ⟨value, left⟩ hvalue
      dsimp only
      split
      · refine delivers_bind (delivers_any _) ?_
        rintro ⟨conversion, rest⟩ _
        have hfield {spec : Option Expr} (hspec : ∀ e ∈ spec.toList, e.isWellFormed = true)
            (conversion : Int) :
            (Expr.field value conversion spec).isWellFormed = true ∧
              (Expr.field value conversion spec).isPart = true :=
          ⟨is_well_formed_iff.mpr ⟨rfl, List.forall_mem_cons.mpr ⟨hvalue, hspec⟩⟩, rfl⟩
        dsimp only
        split
        · refine delivers_bind (h.parts _ _ _ _) ?_
          rintro ⟨parts, rest⟩ hparts
          have hspec : ∀ e ∈ (some (Expr.formatString parts)).toList, e.isWellFormed = true :=
            List.forall_mem_singleton.mpr (is_well_formed_format_string hparts)
          refine delivers_bind (p := fun r => r.1 = some (Expr.formatString parts))
            (delivers_ok rfl) ?_
          rintro ⟨_, rest⟩ rfl
          dsimp only
          split
          · exact delivers_ok (hfield hspec _)
          · exact delivers_error _
        · refine delivers_bind (p := fun r => r.1 = none) (delivers_ok rfl) ?_
          rintro ⟨_, rest⟩ rfl
          dsimp only
          split
          · exact delivers_ok (hfield (List.forall_mem_nil _) _)
          · exact delivers_error _
      · exact delivers_stuck _

end

/-- All that is read is well formed, however much room there is. -/
theorem reads (room : Nat) : Reads room := by
  induction room with
  | zero =>
      exact {
        expressions := fun words => by rw [readExpressions]; exact delivers_stuck words
        more := fun words => by rw [readMore]; exact delivers_stuck words
        expression := fun words => by rw [readExpression]; exact delivers_stuck words
        sum := fun words => by rw [readSum]; exact delivers_stuck words
        sumRest := fun _ words => by rw [readSumRest]; exact delivers_stuck words
        product := fun words => by rw [readProduct]; exact delivers_stuck words
        productRest := fun _ words => by rw [readProductRest]; exact delivers_stuck words
        signed := fun words => by rw [readSigned]; exact delivers_stuck words
        trailers := fun _ _ _ words => by rw [readTrailers]; exact delivers_stuck words
        arguments := fun words => by rw [readArguments]; exact delivers_stuck words
        nextArguments := fun words => by rw [readNextArguments]; exact delivers_stuck words
        atom := fun words => by rw [readAtom]; exact delivers_stuck words
        target := fun words => by rw [readTarget]; exact delivers_stuck words
        entries := fun words => by rw [readEntries]; exact delivers_stuck words
        parts := fun _ _ _ _ => by rw [readParts]; exact delivers_error _
        field := fun _ _ _ => by rw [readField]; exact delivers_error _ }
  | succ room ih =>
      exact {
        expressions := delivers_read_expressions ih
        more := delivers_read_more ih
        expression := delivers_read_expression ih
        sum := delivers_read_sum ih
        sumRest := delivers_read_sum_rest ih
        product := delivers_read_product ih
        productRest := delivers_read_product_rest ih
        signed := delivers_read_signed ih
        trailers := delivers_read_trailers ih
        arguments := delivers_read_arguments ih
        nextArguments := delivers_read_next_arguments ih
        atom := delivers_read_atom ih
        target := delivers_read_target ih
        entries := delivers_read_entries ih
        parts := delivers_read_parts ih
        field := delivers_read_field ih }

/-! ## Statements -/

/-- An assignment is well formed. -/
theorem delivers_read_assignment (room : Nat) {targets : List Expr} {e : Expr}
    (htargets : targets.all Expr.isWellFormed = true) (he : e.isWellFormed = true)
    (words : List Word) :
    Delivers (readAssignment room targets e words) fun r => r.1.isWellFormed = true := by
  induction room generalizing targets e words with
  | zero => exact delivers_stuck words
  | succ room ih =>
      rw [readAssignment]
      split
      · split
        · refine delivers_bind ((reads room).expressions _) ?_
          rintro ⟨next, words⟩ hnext
          refine ih ?_ hnext words
          rw [List.all_append, htargets]
          simpa using he
        · exact delivers_stuck words
      · split
        · exact delivers_ok he
        · exact delivers_ok (Bool.and_eq_true_iff.mpr ⟨htargets, he⟩)

/-- A statement on a line is well formed. -/
theorem delivers_read_simple (room : Nat) (words : List Word) :
    Delivers (readSimple room words) fun r => r.1.isWellFormed = true := by
  have hend {s : Statement} (hs : s.isWellFormed = true) (words : List Word) :
      Delivers (do return (s, ← expectNewline words)) fun r => r.1.isWellFormed = true :=
    delivers_bind (delivers_any _) fun _ _ => delivers_ok hs
  unfold readSimple
  dsimp only
  split
  · split
    · exact hend rfl _
    · refine delivers_bind ((reads room).expressions _) ?_
      rintro ⟨e, words⟩ he
      exact @hend (.giveBack (some e)) he words
  · refine delivers_bind ((reads room).expressions _) ?_
    rintro ⟨e, words⟩ he
    refine delivers_bind (delivers_read_assignment room rfl he words) ?_
    rintro ⟨s, words⟩ hs
    exact hend hs _

/-- With the given room all statements that are read are well formed. -/
structure ReadsStatements (room : Nat) : Prop where
  statement (words : List Word) :
    Delivers (readStatement room words) fun r => r.1.isWellFormed = true
  block (opener : Nat) (words : List Word) :
    Delivers (readBlock room opener words) fun r => Statement.areWellFormed r.1 = true
  statements (words : List Word) :
    Delivers (readStatements room words) fun r => Statement.areWellFormed r.1 = true

/-- All statements that are read are well formed. -/
theorem reads_statements (room : Nat) : ReadsStatements room := by
  induction room with
  | zero =>
      exact {
        statement := fun words => by rw [readStatement]; exact delivers_stuck words
        block := fun _ words => by rw [readBlock]; exact delivers_stuck words
        statements := fun words => by rw [readStatements]; exact delivers_stuck words }
  | succ room ih =>
      have hcons {s : Statement} {rest : List Statement} (hs : s.isWellFormed = true)
          (hrest : Statement.areWellFormed rest = true) :
          Statement.areWellFormed (s :: rest) = true := by
        rw [Statement.areWellFormed, hs, hrest]
        rfl
      constructor
      · intro words
        rw [readStatement]
        split
        · refine delivers_bind (delivers_any _) ?_
          rintro ⟨name, words⟩ _
          refine delivers_bind (delivers_any _) fun words _ => ?_
          refine delivers_bind (delivers_any _) ?_
          rintro ⟨parameters, words⟩ _
          refine delivers_bind (delivers_any _) fun words _ => ?_
          refine delivers_bind (ih.block _ words) ?_
          rintro ⟨body, words⟩ hbody
          exact delivers_ok hbody
        · exact delivers_read_simple room words
      · intro opener words
        unfold readBlock
        split
        · refine delivers_bind (ih.statement _) ?_
          rintro ⟨first, words⟩ hfirst
          refine delivers_bind (ih.statements words) ?_
          rintro ⟨rest, words⟩ hrest
          dsimp only
          split
          · exact delivers_ok (hcons hfirst hrest)
          · exact delivers_stuck _
        · exact delivers_error _
        · exact delivers_error _
        · refine delivers_bind (delivers_read_simple room _) ?_
          rintro ⟨s, words⟩ hs
          exact delivers_ok (hcons hs rfl)
      · intro words
        unfold readStatements
        split
        · exact delivers_ok rfl
        · exact delivers_ok rfl
        · exact delivers_error _
        · refine delivers_bind (ih.statement _) ?_
          rintro ⟨s, words⟩ hs
          refine delivers_bind (ih.statements words) ?_
          rintro ⟨rest, words⟩ hrest
          exact delivers_ok (hcons hs hrest)

end Reader

/-- The statements of a program that is read are well formed. -/
theorem is_well_formed_of_source {source : String} {m : Module}
    (h : Module.ofSource source = .ok m) :
    Statement.areWellFormed m.statements = true := by
  have hread : Reader.Delivers (Module.ofSource source)
      fun m => Statement.areWellFormed m.statements = true := by
    unfold Module.ofSource
    dsimp only
    split
    · exact Reader.delivers_error _
    · refine Reader.delivers_bind ((Reader.reads_statements _).statements _) ?_
      rintro ⟨statements, rest⟩ hstatements
      dsimp only
      split
      · exact Reader.delivers_ok hstatements
      · exact Reader.delivers_stuck _
  exact hread m h

end ElementMarkup.Host
