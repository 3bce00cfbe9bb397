import ElementMarkup.Proofs.Transform

/-!
# The meaning of lowered trees

A call tree has a meaning of its own: it applies the element factory, looks up names, and puts
texts, properties and lists together. A `Semantics` says what the host language makes of names,
members, calls and formatting, with whatever effects these have, and what all other expressions
stand for. In each semantics the expression for a call tree has the value that the tree means, with
the same effects in the same order. There is an expression for a tree exactly if the host language
can spell its interpolations, and those that are expressions stand in it as they are. Main
statement: `lower_meaning`.

`LowersTo` says once what one step of lowering does. All properties follow from it by induction on
the trees inside a tree.
-/

namespace ElementMarkup

open Attempt

/-! ## Induction on the trees inside a tree -/

namespace CallTree

variable {ι : Type}

/-- A tree is larger than those right inside it. -/
theorem size_of_lt_of_mem_inside {tree inner : CallTree ι} (h : inner ∈ tree.inside) :
    sizeOf inner < sizeOf tree := by
  cases tree with
  | call _ arguments =>
      have hlt : sizeOf inner < sizeOf arguments := List.sizeOf_lt_of_mem h
      simp only [call.sizeOf_spec]
      omega
  | concat parts =>
      have hlt : sizeOf inner < sizeOf parts := List.sizeOf_lt_of_mem h
      simp only [concat.sizeOf_spec]
      omega
  | list items =>
      have hlt : sizeOf inner < sizeOf items := List.sizeOf_lt_of_mem h
      simp only [list.sizeOf_spec]
      omega
  | props properties =>
      obtain ⟨property, hproperty, rfl⟩ := List.mem_map.mp h
      have hlt := List.sizeOf_lt_of_mem hproperty
      cases property
      simp only [Property.mk.sizeOf_spec, props.sizeOf_spec] at hlt ⊢
      omega
  | reference | literal | null | interpolation => cases h

/-- What holds of a tree as soon as it holds of those right inside it holds of all trees. -/
theorem inside_induction {motive : CallTree ι → Prop}
    (h : ∀ tree, (∀ inner ∈ tree.inside, motive inner) → motive tree) (tree : CallTree ι) :
    motive tree :=
  h tree fun inner _ => inside_induction h inner
termination_by sizeOf tree
decreasing_by exact size_of_lt_of_mem_inside ‹_›

/-- The interpolations in several trees are those in each of them. -/
theorem interpolations_of_eq (trees : List (CallTree ι)) :
    interpolationsOf trees = trees.flatMap interpolations := by
  induction trees with
  | nil => rfl
  | cons tree trees ih => rw [interpolationsOf, ih, List.flatMap_cons]

/-- The interpolations in properties are those in the values of them. -/
theorem interpolations_of_properties_eq (properties : List (Property (CallTree ι))) :
    interpolationsOfProperties properties =
      (properties.map (·.value)).flatMap interpolations := by
  induction properties with
  | nil => rfl
  | cons property properties ih =>
      rw [interpolationsOfProperties, ih, List.map_cons, List.flatMap_cons]

/-- The interpolations in a tree that is none itself are those in the trees right inside it. -/
theorem interpolations_eq {tree : CallTree ι} (h : ∀ value, tree ≠ .interpolation value) :
    tree.interpolations = tree.inside.flatMap interpolations := by
  cases tree with
  | interpolation value => exact absurd rfl (h value)
  | call | concat | list => exact interpolations_of_eq _
  | props => exact interpolations_of_properties_eq _
  | reference | literal | null => rfl

end CallTree

namespace Host

/-! ## Lists of partners -/

section

variable {α β : Type} {rel other : α → β → Prop} {as : List α}

/-- A list has a list of partners exactly if each of its items has one. -/
theorem exists_forall₂_iff :
    (∃ bs, List.Forall₂ rel as bs) ↔ ∀ a ∈ as, ∃ b, rel a b := by
  induction as with
  | nil => exact iff_of_true ⟨[], .nil⟩ (List.forall_mem_nil _)
  | cons a as ih =>
      rw [List.forall_mem_cons, ← ih]
      constructor
      · rintro ⟨_, _ | ⟨hb, hbs⟩⟩
        exact ⟨⟨_, hb⟩, _, hbs⟩
      · rintro ⟨⟨b, hb⟩, bs, hbs⟩
        exact ⟨b :: bs, .cons hb hbs⟩

/-- Partners stay partners if another relation follows for the items of the list. -/
theorem forall₂_imp_of_mem {bs : List β} (h : List.Forall₂ rel as bs)
    (himp : ∀ a ∈ as, ∀ b, rel a b → other a b) : List.Forall₂ other as bs :=
  ((List.forall₂_and_left _ _).mpr ⟨himp, h⟩).imp fun _ b ⟨hother, hrel⟩ => hother b hrel

end

/-! ## Steps of lowering -/

/-- The expressions for trees, one for each. -/
abbrev AllLowered (trees : List (CallTree Value)) (es : List Expr) : Prop :=
  List.Forall₂ (fun tree e => lower tree = .ok e) trees es

/-- The part of a format string for a part of a concatenation. -/
inductive LowersPart : CallTree Value → Expr → Prop where
  | text (value : Scalar) : LowersPart (.literal value) (.text (formatted value))
  | field {part : CallTree Value} {e : Expr} :
      (∀ value, part ≠ .literal value) → lower part = .ok e →
      LowersPart part (.field e (-1) none)

/-- The expression for a tree, given those for the trees right inside it. -/
inductive LowersTo : CallTree Value → Expr → Prop where
  | call {callee : String} {arguments : List (CallTree Value)} {es : List Expr} :
      AllLowered arguments es →
      LowersTo (.call callee arguments) (.call 0 (dottedName callee) es [] [])
  | reference (name : String) : LowersTo (.reference name) (dottedName name)
  | literal (value : Scalar) : LowersTo (.literal value) (.constant value)
  | null : LowersTo .null (.constant .null)
  | concat {parts : List (CallTree Value)} {es : List Expr} :
      List.Forall₂ LowersPart parts es → LowersTo (.concat parts) (.formatString es)
  | props {properties : List (Property (CallTree Value))} {es : List Expr} :
      AllLowered (properties.map (·.value)) es →
      LowersTo (.props properties) (.dict (properties.map fun p => .text p.key) es)
  | list {items : List (CallTree Value)} {es : List Expr} :
      AllLowered items es → LowersTo (.list items) (.list es)
  | interpolation {value : Value} {e : Expr} :
      lowerValue value = .ok e → LowersTo (.interpolation value) e

/-- Trees are lowered one by one. -/
theorem lower_all_eq_ok_iff {trees : List (CallTree Value)} {es : List Expr} :
    lowerAll trees = .ok es ↔ AllLowered trees es := by
  induction trees generalizing es with
  | nil =>
      rw [lowerAll, AllLowered, List.forall₂_nil_left_iff, Except.ok.injEq]
      exact eq_comm
  | cons tree trees ih =>
      rw [lowerAll, bind_eq_ok]
      constructor
      · rintro ⟨e, he, h⟩
        obtain ⟨more, hmore, hend⟩ := bind_eq_ok.mp h
        cases hend
        exact .cons he (ih.mp hmore)
      · rintro (_ | ⟨he, hmore⟩)
        exact ⟨_, he, bind_eq_ok.mpr ⟨_, ih.mpr hmore, rfl⟩⟩

/-- The values of properties are lowered one by one. -/
theorem lower_properties_eq (properties : List (Property (CallTree Value))) :
    lowerProperties properties = lowerAll (properties.map (·.value)) := by
  induction properties with
  | nil => rfl
  | cons property properties ih => rw [lowerProperties, ih, List.map_cons, lowerAll]

/-- The parts of a concatenation are lowered one by one. -/
theorem lower_parts_eq_ok_iff {parts : List (CallTree Value)} {es : List Expr} :
    lowerParts parts = .ok es ↔ List.Forall₂ LowersPart parts es := by
  induction parts generalizing es with
  | nil =>
      rw [lowerParts, List.forall₂_nil_left_iff, Except.ok.injEq]
      exact eq_comm
  | cons part parts ih =>
      by_cases hpart : ∃ value, part = .literal value
      · obtain ⟨value, rfl⟩ := hpart
        rw [lowerParts, bind_eq_ok]
        constructor
        · rintro ⟨more, hmore, hend⟩
          cases hend
          exact .cons (.text value) (ih.mp hmore)
        · rintro (_ | ⟨hfirst, hmore⟩)
          cases hfirst with
          | text => exact ⟨_, ih.mpr hmore, rfl⟩
          | field hne => exact absurd rfl (hne value)
      · have hne : ∀ value, part ≠ .literal value := fun value heq => hpart ⟨value, heq⟩
        rw [lowerParts, bind_eq_ok]
        · constructor
          · rintro ⟨e, he, h⟩
            obtain ⟨more, hmore, hend⟩ := bind_eq_ok.mp h
            cases hend
            exact .cons (.field hne he) (ih.mp hmore)
          · rintro (_ | ⟨hfirst, hmore⟩)
            cases hfirst with
            | text value => exact absurd rfl (hne value)
            | field _ he => exact ⟨_, he, bind_eq_ok.mpr ⟨_, ih.mpr hmore, rfl⟩⟩
        · exact hne

/-- Lowering takes these steps and no others. -/
theorem lower_eq_ok_iff {tree : CallTree Value} {e : Expr} :
    lower tree = .ok e ↔ LowersTo tree e := by
  constructor
  · intro h
    cases tree with
    | call callee arguments =>
        obtain ⟨es, hes, hend⟩ := bind_eq_ok.mp h
        cases hend
        exact .call (lower_all_eq_ok_iff.mp hes)
    | concat parts =>
        obtain ⟨es, hes, hend⟩ := bind_eq_ok.mp h
        cases hend
        exact .concat (lower_parts_eq_ok_iff.mp hes)
    | props properties =>
        obtain ⟨es, hes, hend⟩ := bind_eq_ok.mp h
        cases hend
        rw [lower_properties_eq] at hes
        exact .props (lower_all_eq_ok_iff.mp hes)
    | list items =>
        obtain ⟨es, hes, hend⟩ := bind_eq_ok.mp h
        cases hend
        exact .list (lower_all_eq_ok_iff.mp hes)
    | interpolation value => exact .interpolation h
    | reference name => cases h; exact .reference name
    | literal value => cases h; exact .literal value
    | null => cases h; exact .null
  · intro h
    cases h with
    | call hes => exact bind_eq_ok.mpr ⟨_, lower_all_eq_ok_iff.mpr hes, rfl⟩
    | concat hes => exact bind_eq_ok.mpr ⟨_, lower_parts_eq_ok_iff.mpr hes, rfl⟩
    | props hes =>
        refine bind_eq_ok.mpr ⟨_, ?_, rfl⟩
        rw [lower_properties_eq]
        exact lower_all_eq_ok_iff.mpr hes
    | list hes => exact bind_eq_ok.mpr ⟨_, lower_all_eq_ok_iff.mpr hes, rfl⟩
    | interpolation he => exact he
    | reference | literal | null => rfl

/-! ## Trees that can be lowered -/

/-- The host language can spell an interpolation: it is an expression, or a text, a number, a truth
value or the null value. -/
def Value.isSpellable : Value → Bool
  | expression _ => true
  | scalar (.bytes _) => false
  | scalar _ => true
  | other _ => false

/-- An interpolation has an expression exactly if it can be spelled. -/
theorem exists_lower_value_iff {value : Value} :
    (∃ e, lowerValue value = .ok e) ↔ value.isSpellable = true := by
  unfold lowerValue Value.isSpellable
  split <;> simp

/-- A part of a concatenation has a part of the format string exactly if it has an expression. -/
theorem exists_lowers_part_iff {part : CallTree Value} :
    (∃ e, LowersPart part e) ↔ ∃ e, lower part = .ok e := by
  constructor
  · rintro ⟨_, value | ⟨_, he⟩⟩
    · exact ⟨_, rfl⟩
    · exact ⟨_, he⟩
  · rintro ⟨e, he⟩
    by_cases hpart : ∃ value, part = .literal value
    · obtain ⟨value, rfl⟩ := hpart
      exact ⟨_, .text value⟩
    · exact ⟨_, .field (fun value heq => hpart ⟨value, heq⟩) he⟩

/-- A tree that is no interpolation has an expression exactly if the trees right inside it do. -/
theorem exists_lower_iff_inside {tree : CallTree Value}
    (h : ∀ value, tree ≠ .interpolation value) :
    (∃ e, lower tree = .ok e) ↔ ∀ inner ∈ tree.inside, ∃ e, lower inner = .ok e := by
  simp only [@lower_eq_ok_iff tree]
  cases tree with
  | call callee arguments =>
      refine Iff.trans ?_ exists_forall₂_iff
      exact ⟨fun ⟨_, .call hes⟩ => ⟨_, hes⟩, fun ⟨_, hes⟩ => ⟨_, .call hes⟩⟩
  | props properties =>
      refine Iff.trans ?_ exists_forall₂_iff
      exact ⟨fun ⟨_, .props hes⟩ => ⟨_, hes⟩, fun ⟨_, hes⟩ => ⟨_, .props hes⟩⟩
  | list items =>
      refine Iff.trans ?_ exists_forall₂_iff
      exact ⟨fun ⟨_, .list hes⟩ => ⟨_, hes⟩, fun ⟨_, hes⟩ => ⟨_, .list hes⟩⟩
  | concat parts =>
      have hparts : (∀ part ∈ parts, ∃ e, LowersPart part e) ↔
          ∀ part ∈ parts, ∃ e, lower part = .ok e :=
        forall₂_congr fun _ _ => exists_lowers_part_iff
      refine Iff.trans ?_ (exists_forall₂_iff.trans hparts)
      exact ⟨fun ⟨_, .concat hes⟩ => ⟨_, hes⟩, fun ⟨_, hes⟩ => ⟨_, .concat hes⟩⟩
  | reference name => exact iff_of_true ⟨_, .reference name⟩ (List.forall_mem_nil _)
  | literal value => exact iff_of_true ⟨_, .literal value⟩ (List.forall_mem_nil _)
  | null => exact iff_of_true ⟨_, .null⟩ (List.forall_mem_nil _)
  | interpolation value => exact absurd rfl (h value)

/-- A tree has an expression exactly if all its interpolations can be spelled. -/
theorem exists_lower_iff (tree : CallTree Value) :
    (∃ e, lower tree = .ok e) ↔ ∀ value ∈ tree.interpolations, value.isSpellable = true := by
  induction tree using CallTree.inside_induction with
  | h tree ih =>
      by_cases hvalue : ∃ value, tree = .interpolation value
      · obtain ⟨value, rfl⟩ := hvalue
        rw [CallTree.interpolations, List.forall_mem_singleton, ← exists_lower_value_iff]
        rfl
      · have hnot : ∀ value, tree ≠ .interpolation value := fun value heq => hvalue ⟨value, heq⟩
        rw [exists_lower_iff_inside hnot, CallTree.interpolations_eq hnot]
        simp only [List.mem_flatMap, forall_exists_index, and_imp]
        constructor
        · intro h value inner hinner
          exact (ih inner hinner).mp (h inner hinner) value
        · intro h inner hinner
          exact (ih inner hinner).mpr fun value => h value inner hinner

/-! ## Values of expressions and of trees -/

/-- What the host language makes of expressions, with the effects `m` and the values `V`: of names,
members, calls, formatting, lists and dictionaries. What all other expressions, all other parts of
format strings, and interpolations that it cannot spell stand for is left open. -/
structure Semantics (m : Type → Type) (V : Type) where
  name : String → m V
  member : V → String → m V
  constant : Scalar → V
  apply : V → List V → m V
  format : V → m String
  list : List V → m V
  dict : List (V × V) → m V
  otherExpr : Expr → m V
  otherPart : Expr → m String
  unspelled : String → m V

namespace Semantics

variable {m : Type → Type} [Monad m] {V : Type} (s : Semantics m V)

mutual

/-- The value of an expression. What stands inside it is evaluated from left to right. -/
def eval : Expr → m V
  | .name id => s.name id
  | .member value attr => do s.member (← eval value) attr
  | .constant value => return s.constant value
  | .call _ function arguments [] [] => do
    let f ← eval function
    let values ← (evalEach arguments).mapM id
    s.apply f values
  | .formatString parts => do
    let texts ← (partEach parts).mapM id
    return s.constant (.text (String.join texts))
  | .list items => do s.list (← (evalEach items).mapM id)
  | .dict keys values => do
    let entry (key value : m V) : m (V × V) := do return (← key, ← value)
    s.dict (← (List.zipWith entry (evalEach keys) (evalEach values)).mapM id)
  | e => s.otherExpr e

/-- The values of expressions, each on its own. -/
def evalEach : List Expr → List (m V)
  | [] => []
  | e :: es => eval e :: evalEach es

/-- The texts of the parts of a format string, each on its own. -/
def partEach : List Expr → List (m String)
  | [] => []
  | .constant (.text value) :: parts => pure value :: partEach parts
  | .field value (-1) none :: parts => (do s.format (← eval value)) :: partEach parts
  | part :: parts => s.otherPart part :: partEach parts

end

/-- The value of a name with dots: that of the first name, and then of the members in order. -/
def lookup (name : String) : m V :=
  match Text.splitOn '.' name.toList with
  | [] => s.name ""
  | first :: members => do
    members.foldlM (fun value member => s.member value (String.ofList member))
      (← s.name (String.ofList first))

/-- The value of an interpolation. -/
def valueOf : Value → m V
  | .expression e => s.eval e
  | .scalar value => return s.constant value
  | .other kind => s.unspelled kind

mutual

/-- What a call tree means. -/
def meaning : CallTree Value → m V
  | .call callee arguments => do
    let f ← s.lookup callee
    let values ← (meaningEach arguments).mapM id
    s.apply f values
  | .reference name => s.lookup name
  | .literal value => return s.constant value
  | .null => return s.constant .null
  | .concat parts => do
    let texts ← (textEach parts).mapM id
    return s.constant (.text (String.join texts))
  | .props properties => do s.dict (← (entryEach properties).mapM id)
  | .list items => do s.list (← (meaningEach items).mapM id)
  | .interpolation value => s.valueOf value

/-- What call trees mean, each on its own. -/
def meaningEach : List (CallTree Value) → List (m V)
  | [] => []
  | tree :: trees => meaning tree :: meaningEach trees

/-- The texts that the parts of a concatenation stand for, each on its own. -/
def textEach : List (CallTree Value) → List (m String)
  | [] => []
  | .literal value :: parts => pure (formatted value) :: textEach parts
  | part :: parts => (do s.format (← meaning part)) :: textEach parts

/-- The keys and the values that properties stand for, each on its own. -/
def entryEach : List (Property (CallTree Value)) → List (m (V × V))
  | [] => []
  | ⟨key, value, _⟩ :: properties =>
    (do return (s.constant (.text key), ← meaning value)) :: entryEach properties

end

/-- Expressions are evaluated as each of them is. -/
theorem eval_each_eq (es : List Expr) : s.evalEach es = es.map s.eval := by
  induction es with
  | nil => rfl
  | cons e es ih => rw [evalEach, ih, List.map_cons]

/-- Trees mean what each of them does. -/
theorem meaning_each_eq (trees : List (CallTree Value)) :
    s.meaningEach trees = trees.map s.meaning := by
  induction trees with
  | nil => rfl
  | cons tree trees ih => rw [meaningEach, ih, List.map_cons]

/-- The expressions for trees have the values that the trees mean if each of them does. -/
theorem eval_each_of_all_lowered {trees : List (CallTree Value)} {es : List Expr}
    (h : AllLowered trees es)
    (ih : ∀ tree ∈ trees, ∀ e, lower tree = .ok e → s.eval e = s.meaning tree) :
    s.evalEach es = s.meaningEach trees := by
  rw [eval_each_eq, meaning_each_eq, eq_comm, ← List.forall₂_eq_eq_eq, List.forall₂_map_left_iff,
    List.forall₂_map_right_iff]
  exact forall₂_imp_of_mem h fun tree htree e he => (ih tree htree e he).symm

/-- The parts of a format string have the texts that the parts of the concatenation stand for. -/
theorem part_each_of_lowers_part {parts : List (CallTree Value)} {es : List Expr}
    (h : List.Forall₂ LowersPart parts es)
    (ih : ∀ part ∈ parts, ∀ e, lower part = .ok e → s.eval e = s.meaning part) :
    s.partEach es = s.textEach parts := by
  induction h with
  | nil => rfl
  | @cons part e parts es hpart _ ihparts =>
      obtain ⟨hmeaning, hmore⟩ := List.forall_mem_cons.mp ih
      cases hpart with
      | text value => rw [Expr.text, partEach, textEach, ihparts hmore]
      | field hne he =>
          rw [partEach, textEach, hmeaning _ he, ihparts hmore]
          exact hne

section

variable [LawfulMonad m]

/-- The value of a member of a member is looked up in order. -/
theorem eval_foldl_member (e : Expr) (members : List (List Char)) :
    s.eval (members.foldl (fun e member => .member e (String.ofList member)) e) = (do
      members.foldlM (fun value member => s.member value (String.ofList member)) (← s.eval e)) := by
  induction members generalizing e with
  | nil => simp
  | cons member members ih =>
      rw [List.foldl_cons, ih]
      simp only [eval, List.foldlM_cons, bind_assoc]

/-- The value of the expression for a name with dots is the one that is looked up. -/
theorem eval_dotted_name (name : String) : s.eval (dottedName name) = s.lookup name := by
  unfold dottedName lookup
  cases Text.splitOn '.' name.toList with
  | nil => rfl
  | cons first members => exact s.eval_foldl_member _ _

/-- The entries of a dictionary are those that the properties stand for. -/
theorem zip_with_meaning_each (properties : List (Property (CallTree Value))) :
    List.zipWith (fun key value => do return (← key, ← value))
      (s.evalEach (properties.map fun p => .text p.key))
      (s.meaningEach (properties.map (·.value))) =
    s.entryEach properties := by
  induction properties with
  | nil => rfl
  | cons property properties ih =>
      rw [List.map_cons, List.map_cons, evalEach, meaningEach, entryEach, List.zipWith_cons_cons,
        ih]
      simp only [Expr.text, eval, pure_bind]

/-- The expression for a tree has the value that the tree means. -/
theorem eval_of_lower {tree : CallTree Value} {e : Expr} (h : lower tree = .ok e) :
    s.eval e = s.meaning tree := by
  induction tree using CallTree.inside_induction generalizing e with
  | h tree ih =>
      have ih : ∀ inner ∈ tree.inside, ∀ e, lower inner = .ok e → s.eval e = s.meaning inner :=
        fun inner hinner _ => ih inner hinner
      cases lower_eq_ok_iff.mp h with
      | call hes => rw [eval, meaning, eval_dotted_name, s.eval_each_of_all_lowered hes ih]
      | reference name => exact s.eval_dotted_name name
      | literal | null => rfl
      | concat hes => rw [eval, meaning, s.part_each_of_lowers_part hes ih]
      | props hes =>
          rw [eval, meaning, s.eval_each_of_all_lowered hes ih]
          rw [s.zip_with_meaning_each]
      | list hes => rw [eval, meaning, s.eval_each_of_all_lowered hes ih]
      | @interpolation value _ he =>
          rw [meaning]
          unfold lowerValue at he
          split at he <;> cases he <;> rfl

end

end Semantics

/-! ## Expressions inside expressions -/

/-- The expression of an interpolation that is one. -/
def Value.expression? : Value → Option Expr
  | expression e => some e
  | _ => none

namespace Expr

/-- The expression is of a form that lowering puts around others: a name, a member, a constant, a
call without keywords, a format string or a plain field of one, a list, or a dictionary. -/
def isFrame : Expr → Bool
  | name _ | member _ _ | constant _ | call _ _ _ [] [] | formatString _ | field _ (-1) none
  | list _ | dict _ _ => true
  | _ => false

mutual

/-- The expressions of a list stand in an expression as they are, one after the other from left to
right, and what is around them are frames. -/
inductive Encloses : Expr → List Expr → Prop where
  | itself (e : Expr) : Encloses e [e]
  | frame {e : Expr} {es : List Expr} : e.isFrame = true → EnclosesAll e.inside es → Encloses e es

/-- The expressions of a list stand in several expressions, one after the other. -/
inductive EnclosesAll : List Expr → List Expr → Prop where
  | nil : EnclosesAll [] []
  | cons {e : Expr} {outer inner others : List Expr} :
      Encloses e inner → EnclosesAll outer others → EnclosesAll (e :: outer) (inner ++ others)

end

/-- Expressions that enclose nothing may stand before others. -/
theorem EnclosesAll.append_of_nil {first second es : List Expr}
    (hfirst : ∀ e ∈ first, e.Encloses []) (hsecond : EnclosesAll second es) :
    EnclosesAll (first ++ second) es := by
  induction first with
  | nil => exact hsecond
  | cons e first ih =>
      obtain ⟨he, hmore⟩ := List.forall_mem_cons.mp hfirst
      exact .cons he (ih hmore)

/-- A constant encloses nothing. -/
theorem encloses_constant (value : Scalar) : (constant value).Encloses [] :=
  .frame rfl .nil

end Expr

open ElementMarkup.Host.Expr (Encloses EnclosesAll encloses_constant)

/-- A dotted name encloses nothing. -/
theorem encloses_dotted_name (name : String) : (dottedName name).Encloses [] := by
  have hmembers (members : List (List Char)) {e : Expr} (he : e.Encloses []) :
      (members.foldl (fun e member => Expr.member e (String.ofList member)) e).Encloses [] := by
    induction members generalizing e with
    | nil => exact he
    | cons member members ih => exact ih (.frame rfl (.cons he .nil))
  unfold dottedName
  split
  · exact .frame rfl .nil
  · exact hmembers _ (.frame rfl .nil)

/-- The expressions among the interpolations of a tree. -/
def embedded (tree : CallTree Value) : List Expr :=
  tree.interpolations.filterMap Value.expression?

/-- Expressions that enclose what is embedded in one tree each enclose what is embedded in all of
them. -/
theorem encloses_all_of_forall₂ {trees : List (CallTree Value)} {es : List Expr}
    (h : List.Forall₂ (fun tree e => Encloses e (embedded tree)) trees es) :
    EnclosesAll es (trees.flatMap embedded) := by
  induction h with
  | nil => exact .nil
  | cons he _ ih =>
      rw [List.flatMap_cons]
      exact .cons he ih

/-- The part of a format string for a part of a concatenation encloses what is embedded in it. -/
theorem encloses_of_lowers_part {part : CallTree Value} {e : Expr}
    (ih : ∀ e, lower part = .ok e → e.Encloses (embedded part)) (h : LowersPart part e) :
    e.Encloses (embedded part) := by
  cases h with
  | text value => exact encloses_constant _
  | field _ he =>
      refine .frame rfl ?_
      rw [← List.append_nil (embedded part)]
      exact .cons (ih _ he) .nil

/-- The expression for a tree encloses the expressions that are embedded in the tree. -/
theorem encloses_of_lower {tree : CallTree Value} {e : Expr} (h : lower tree = .ok e) :
    e.Encloses (embedded tree) := by
  induction tree using CallTree.inside_induction generalizing e with
  | h tree ih =>
      have hall {trees : List (CallTree Value)} (htrees : tree.inside = trees) {es : List Expr}
          (hes : AllLowered trees es) : EnclosesAll es (tree.inside.flatMap embedded) := by
        subst htrees
        exact encloses_all_of_forall₂ (forall₂_imp_of_mem hes fun inner hinner _ => ih inner hinner)
      by_cases hvalue : ∃ value, tree = .interpolation value
      · obtain ⟨value, rfl⟩ := hvalue
        change lowerValue value = .ok e at h
        unfold lowerValue at h
        split at h <;> cases h
        · exact .itself e
        · exact encloses_constant _
      · have hembedded : embedded tree = tree.inside.flatMap embedded := by
          unfold embedded
          rw [CallTree.interpolations_eq fun value heq => hvalue ⟨value, heq⟩,
            List.filterMap_flatMap]
        rw [hembedded]
        cases lower_eq_ok_iff.mp h with
        | call hes =>
            refine .frame rfl (.cons (encloses_dotted_name _) ?_)
            rw [List.append_nil]
            exact hall rfl hes
        | reference name => exact encloses_dotted_name name
        | literal | null => exact encloses_constant _
        | @concat parts es hes =>
            refine .frame rfl (encloses_all_of_forall₂ (forall₂_imp_of_mem hes ?_))
            exact fun part hpart _ => encloses_of_lowers_part fun _ => ih part hpart
        | props hes =>
            refine .frame rfl (.append_of_nil ?_ (hall rfl hes))
            intro key hkey
            obtain ⟨property, -, rfl⟩ := List.mem_map.mp hkey
            exact encloses_constant _
        | list hes => exact .frame rfl (hall rfl hes)
        | interpolation => exact absurd ⟨_, rfl⟩ hvalue

/-- Lowering keeps the meaning of trees. There is an expression for a tree exactly if the host
language can spell all its interpolations. Whatever the host language makes of expressions, the
expression then has the value that the tree means, with the same effects in the same order, and the
interpolations that are expressions stand in it as they are, once each and in the same order. -/
theorem lower_meaning (tree : CallTree Value) :
    ((∃ e, lower tree = .ok e) ↔ ∀ value ∈ tree.interpolations, value.isSpellable = true) ∧
    ∀ e, lower tree = .ok e →
      (∀ (m : Type → Type) [Monad m] [LawfulMonad m] (V : Type) (s : Semantics m V),
        s.eval e = s.meaning tree) ∧
      e.Encloses (tree.interpolations.filterMap Value.expression?) :=
  ⟨exists_lower_iff tree, fun _ h => ⟨fun _ _ _ _ s => s.eval_of_lower h, encloses_of_lower h⟩⟩

/-- A semantics in which values are texts and every name that is looked up is written down. -/
def tracing : Semantics (StateM (List String)) String where
  name id := do
    modify (· ++ [id])
    return id
  member value attr := do
    modify (· ++ ["." ++ attr])
    return value ++ "." ++ attr
  constant := formatted
  apply f values := return f ++ "(" ++ ", ".intercalate values ++ ")"
  format value := return "<" ++ value ++ ">"
  list values := return "[" ++ ", ".intercalate values ++ "]"
  dict entries := return ", ".intercalate (entries.map fun entry => entry.1 ++ "=" ++ entry.2)
  otherExpr e := return e.kind
  otherPart e := return e.kind
  unspelled kind := return kind

/-- A component with an expression in a text, in a list and as a child. The names are looked up from
left to right. -/
theorem lower_meaning_component :
    let title : Expr := .member (.name "page") "title"
    let first : Expr := .subscript (.name "items") (.constant (.integer 0))
    let tree : CallTree Value := .call "React.createElement"
      [.reference "ui.Card",
        .props [
          ⟨"class", .concat [.literal (.text "a "), .interpolation (.expression title)], false⟩,
          ⟨"data-n", .interpolation (.scalar (.integer 3)), true⟩],
        .list [.interpolation (.expression first), .interpolation (.scalar .null)],
        .interpolation (.expression (.name "rest"))]
    ∃ e, lower tree = .ok e ∧
      Id.run ((tracing.eval e).run []) =
        ("React.createElement(ui.Card, class=a <page.title>, data-n=3, [Subscript, None], rest)",
          ["React", ".createElement", "ui", ".Card", "page", ".title", "rest"]) ∧
      e.Encloses [title, first, .name "rest"] := by
  intro title first tree
  obtain ⟨hspellable, hlower⟩ := lower_meaning tree
  have hvalues : ∀ value ∈ tree.interpolations, value.isSpellable = true :=
    List.all_eq_true.mp (by decide)
  obtain ⟨e, he⟩ := hspellable.mpr hvalues
  obtain ⟨hmeaning, hencloses⟩ := hlower e he
  refine ⟨e, he, ?_, hencloses⟩
  rw [hmeaning _ _ tracing]
  decide +kernel

end Host

end ElementMarkup
