import ElementMarkup.Host.Transform
import ElementMarkup.Proofs.Elements

/-!
# Programs without templates

A transformed expression has no call of the template tag left that stands for a template, and an
expression without such calls is transformed into itself. `isCompiled` says that an expression has
none. Main statement: `transform_complete`.

The argument for a call that becomes an expression is that the calls which make elements have two
arguments at least, so that none of them stands for a template even if the element factory has the
name of the tag, and that the interpolations come from inside the call and are transformed already.
-/

namespace ElementMarkup.Host

open Attempt

namespace Expr

/-- The expressions right inside an expression. -/
def inside : Expr → List Expr
  | name _ | constant _ => []
  | member value _ => [value]
  | call _ function arguments _ keywordValues => function :: (arguments ++ keywordValues)
  | formatString parts => parts
  | field value _ spec => value :: spec.toList
  | list items | tuple items => items
  | dict keys values => keys ++ values
  | subscript value index => [value, index]
  | binary left _ right => [left, right]
  | negate operand => [operand]
  | conditional test body orElse => [test, body, orElse]
  | comprehension item target source => [item, target, source]
  | other _ parts => parts

mutual

/-- A property of an expression and of all expressions inside it. -/
def all (p : Expr → Bool) : Expr → Bool
  | name id => p (name id)
  | constant value => p (constant value)
  | member value attr => p (member value attr) && all p value
  | call line function arguments keywords keywordValues =>
      p (call line function arguments keywords keywordValues) &&
        (all p function && (allOf p arguments && allOf p keywordValues))
  | formatString parts => p (formatString parts) && allOf p parts
  | field value conversion spec =>
      p (field value conversion spec) && (all p value && allOfSpec p spec)
  | list items => p (list items) && allOf p items
  | tuple items => p (tuple items) && allOf p items
  | dict keys values => p (dict keys values) && (allOf p keys && allOf p values)
  | subscript value index => p (subscript value index) && (all p value && all p index)
  | binary left op right => p (binary left op right) && (all p left && all p right)
  | negate operand => p (negate operand) && all p operand
  | conditional test body orElse =>
      p (conditional test body orElse) && (all p test && (all p body && all p orElse))
  | comprehension item target source =>
      p (comprehension item target source) && (all p item && (all p target && all p source))
  | other form parts => p (other form parts) && allOf p parts

/-- A property of expressions and of all expressions inside them. -/
def allOf (p : Expr → Bool) : List Expr → Bool
  | [] => true
  | e :: es => all p e && allOf p es

/-- A property of the specification of a field and of all expressions inside it. -/
def allOfSpec (p : Expr → Bool) : Option Expr → Bool
  | none => true
  | some spec => all p spec

end

/-- A property of all expressions of a list is one of each. -/
theorem all_of_iff {p : Expr → Bool} {es : List Expr} :
    allOf p es = true ↔ ∀ e ∈ es, all p e = true := by
  induction es with
  | nil => simp [allOf]
  | cons e es ih => rw [allOf, Bool.and_eq_true, ih, List.forall_mem_cons]

/-- A property of an expression and all inside it is one of the expression and of those right
inside it. -/
theorem all_iff {p : Expr → Bool} {e : Expr} :
    all p e = true ↔ p e = true ∧ ∀ inner ∈ e.inside, all p inner = true := by
  cases e with
  | name | constant => simp [all, inside]
  | field _ _ spec => cases spec <;> simp [all, allOfSpec, inside]
  | call | dict => simp [all, all_of_iff, inside, or_imp, forall_and]
  | _ => simp [all, all_of_iff, inside]

/-- Whether an expression can be the template of a call: a string or a format string. -/
def isTemplate : Expr → Bool
  | constant (.text _) | formatString _ => true
  | _ => false

/-- Whether an expression is a call of the tag with a template as its one argument. -/
def isTemplateCall (tag : String) : Expr → Bool
  | call _ (name id) [argument] [] [] => id == tag && argument.isTemplate
  | _ => false

/-- Whether no call in an expression stands for a template. -/
def isCompiled (tag : String) (e : Expr) : Bool :=
  e.all fun inner => !inner.isTemplateCall tag

variable {tag : String}

/-- An expression is compiled if it is no call for a template and those right inside it are
compiled. -/
theorem is_compiled_iff {e : Expr} : e.isCompiled tag = true ↔
    e.isTemplateCall tag = false ∧ ∀ inner ∈ e.inside, inner.isCompiled tag = true := by
  unfold isCompiled
  rw [all_iff, Bool.not_eq_true']

/-- A call with two arguments or more stands for no template. -/
theorem is_template_call_of_two_le {line : Nat} {function : Expr} {arguments : List Expr}
    (h : 2 ≤ arguments.length) :
    (call line function arguments [] []).isTemplateCall tag = false := by
  unfold isTemplateCall
  split
  · rename_i heq
    cases heq
    simp at h
  · rfl

end Expr

variable {tag : String}

/-! ## Which calls stand for templates -/

/-- Exactly the strings and format strings are templates, unless a format string is malformed. -/
theorem split_template_eq_none_iff {e : Expr} :
    splitTemplate e = .ok none ↔ e.isTemplate = false := by
  unfold splitTemplate Expr.isTemplate
  split
  · simp
  · rename_i parts
    cases splitParts "" parts <;> simp [bind, Except.bind, pure, Except.pure]
  · simp

/-- An expression has no template exactly if it is no call for one. -/
theorem template_call?_eq_none_iff {e : Expr} :
    templateCall? tag e = .ok none ↔ e.isTemplateCall tag = false := by
  unfold templateCall?
  split
  · rename_i line id argument
    show _ ↔ (id == tag && argument.isTemplate) = false
    by_cases hid : id = tag
    · rw [if_pos hid, beq_iff_eq.mpr hid, Bool.true_and, ← split_template_eq_none_iff]
      cases splitTemplate argument with
      | error => simp [bind, Except.bind]
      | ok template => cases template <;> simp [bind, Except.bind, pure, Except.pure]
    · simp [hid]
  · rename_i hother
    have hnone : e.isTemplateCall tag = false := by
      unfold Expr.isTemplateCall
      split
      · exact (hother _ _ _ rfl).elim
      · rfl
    simp [hnone]

section

variable {p : Expr → Bool}
  (hp : ∀ value conversion spec, p (.formatString [.field value conversion spec]) = true)

include hp

/-- The interpolation for a field has a property that the field and all inside it have. -/
theorem all_field_interpolation {value : Expr} {conversion : Int} {spec : Option Expr}
    (h : (Expr.field value conversion spec).all p = true) :
    (fieldInterpolation value conversion spec).all p = true := by
  unfold fieldInterpolation
  split
  · exact (Expr.all_iff.mp h).2 _ List.mem_cons_self
  · exact Expr.all_iff.mpr ⟨hp _ _ _, List.forall_mem_singleton.mpr h⟩

/-- The interpolations of parts have a property that the parts and all inside them have. -/
theorem all_of_split_parts {fragment : String} {parts : List Expr} {fragments : List String}
    {interpolations : List Expr} (hparts : ∀ part ∈ parts, part.all p = true)
    (h : splitParts fragment parts = .ok (fragments, interpolations)) :
    ∀ e ∈ interpolations, e.all p = true := by
  fun_induction splitParts fragment parts generalizing fragments interpolations with
  | case1 =>
      cases h
      exact List.forall_mem_nil _
  | case2 fragment value conversion spec parts ih =>
      obtain ⟨hfield, hmore⟩ := List.forall_mem_cons.mp hparts
      obtain ⟨⟨rest, more⟩, hrest, hend⟩ := bind_eq_ok.mp h
      cases hend
      exact List.forall_mem_cons.mpr ⟨all_field_interpolation hp hfield, ih hmore hrest⟩
  | case3 fragment s parts ih => exact ih (List.forall_mem_cons.mp hparts).2 h
  | case4 => cases h
  | case5 => cases h

/-- The interpolations of a call for a template have a property that all inside the call has. -/
theorem all_of_template_call? {e : Expr} {line : Nat} {fragments : List String}
    {interpolations : List Expr} (hinside : ∀ inner ∈ e.inside, inner.all p = true)
    (h : templateCall? tag e = .ok (some (line, fragments, interpolations))) :
    ∀ inner ∈ interpolations, inner.all p = true := by
  unfold templateCall? at h
  split at h
  · rename_i argument
    have hargument : argument.all p = true := hinside argument (by simp [Expr.inside])
    split at h
    · obtain ⟨template, hsplit, hend⟩ := bind_eq_ok.mp h
      unfold splitTemplate at hsplit
      split at hsplit
      · cases hsplit
        cases hend
        exact List.forall_mem_nil _
      · obtain ⟨split, hparts, hsome⟩ := bind_eq_ok.mp hsplit
        cases hsome
        cases hend
        exact all_of_split_parts hp (Expr.all_iff.mp hargument).2 hparts
      · cases hsplit
        cases hend
    · cases h
  · cases h

end

/-! ## Lowering -/

/-- A dotted name has a property that names and members have. -/
theorem all_dotted_name {p : Expr → Bool} (hname : ∀ id, p (.name id) = true)
    (hmember : ∀ value attr, p (.member value attr) = true) (name : String) :
    (dottedName name).all p = true := by
  have hmembers {e : Expr} (he : e.all p = true) (members : List (List Char)) :
      (members.foldl (fun e member => Expr.member e (String.ofList member)) e).all p = true := by
    induction members generalizing e with
    | nil => exact he
    | cons member members ih =>
        exact ih (Expr.all_iff.mpr ⟨hmember _ _, List.forall_mem_singleton.mpr he⟩)
  unfold dottedName
  split
  · exact hname _
  · exact hmembers (e := .name _) (hname _) _

/-- A dotted name is compiled. -/
theorem is_compiled_dotted_name (name : String) : (dottedName name).isCompiled tag = true :=
  all_dotted_name (fun _ => rfl) (fun _ _ => rfl) name

/-- An interpolation that is compiled if it is an expression at all. -/
def Value.IsCompiled (tag : String) (value : Value) : Prop :=
  ∀ e, value = .expression e → e.isCompiled tag = true

/-- The expression for a compiled interpolation is compiled. -/
theorem is_compiled_of_lower_value {value : Value} {e : Expr} (hvalue : value.IsCompiled tag)
    (h : lowerValue value = .ok e) : e.isCompiled tag = true := by
  unfold lowerValue at h
  split at h
  · cases h
    exact hvalue e rfl
  · cases h
  · cases h
    rfl
  · cases h

mutual

/-- The expression for a proper tree with compiled interpolations is compiled. -/
theorem is_compiled_of_lower {tree : CallTree Value} {e : Expr}
    (htree : tree.Proper (Value.IsCompiled tag)) (h : lower tree = .ok e) :
    e.isCompiled tag = true := by
  match tree, htree with
  | .call callee arguments, .call htwo harguments =>
      obtain ⟨es, hes, hend⟩ := bind_eq_ok.mp h
      cases hend
      obtain ⟨hcompiled, hlength⟩ := is_compiled_of_lower_all harguments hes
      refine Expr.is_compiled_iff.mpr ⟨Expr.is_template_call_of_two_le (hlength ▸ htwo), ?_⟩
      refine List.forall_mem_cons.mpr ⟨is_compiled_dotted_name callee, ?_⟩
      rw [List.append_nil]
      exact hcompiled
  | .reference name, _ =>
      cases h
      exact is_compiled_dotted_name name
  | .literal _, _ | .null, _ =>
      cases h
      rfl
  | .concat parts, .concat hparts =>
      obtain ⟨es, hes, hend⟩ := bind_eq_ok.mp h
      cases hend
      exact Expr.is_compiled_iff.mpr ⟨rfl, is_compiled_of_lower_parts hparts hes⟩
  | .props properties, .props hproperties =>
      obtain ⟨es, hes, hend⟩ := bind_eq_ok.mp h
      cases hend
      refine Expr.is_compiled_iff.mpr ⟨rfl, List.forall_mem_append.mpr ⟨?_, ?_⟩⟩
      · intro key hkey
        obtain ⟨_, _, rfl⟩ := List.mem_map.mp hkey
        rfl
      · exact is_compiled_of_lower_properties hproperties hes
  | .list items, .list hitems =>
      obtain ⟨es, hes, hend⟩ := bind_eq_ok.mp h
      cases hend
      exact Expr.is_compiled_iff.mpr ⟨rfl, (is_compiled_of_lower_all hitems hes).1⟩
  | .interpolation value, .interpolation hvalue => exact is_compiled_of_lower_value hvalue h

/-- The expressions for proper trees are compiled, and there is one for each. -/
theorem is_compiled_of_lower_all {trees : List (CallTree Value)} {es : List Expr}
    (htrees : ∀ tree ∈ trees, tree.Proper (Value.IsCompiled tag)) (h : lowerAll trees = .ok es) :
    (∀ e ∈ es, e.isCompiled tag = true) ∧ trees.length = es.length := by
  match trees with
  | [] =>
      cases h
      exact ⟨List.forall_mem_nil _, rfl⟩
  | tree :: trees =>
      obtain ⟨htree, hmore⟩ := List.forall_mem_cons.mp htrees
      obtain ⟨e, he, h⟩ := bind_eq_ok.mp h
      obtain ⟨es, hes, hend⟩ := bind_eq_ok.mp h
      cases hend
      obtain ⟨hcompiled, hlength⟩ := is_compiled_of_lower_all hmore hes
      exact ⟨List.forall_mem_cons.mpr ⟨is_compiled_of_lower htree he, hcompiled⟩,
        congrArg (· + 1) hlength⟩

/-- The parts of the format string for proper trees are compiled. -/
theorem is_compiled_of_lower_parts {parts : List (CallTree Value)} {es : List Expr}
    (hparts : ∀ part ∈ parts, part.Proper (Value.IsCompiled tag)) (h : lowerParts parts = .ok es) :
    ∀ e ∈ es, e.isCompiled tag = true := by
  match parts with
  | [] =>
      cases h
      exact List.forall_mem_nil _
  | part :: parts =>
      obtain ⟨hpart, hmore⟩ := List.forall_mem_cons.mp hparts
      unfold lowerParts at h
      split at h
      · cases ‹_ :: _ = []›
      · rename_i heq
        cases heq
        obtain ⟨es, hes, hend⟩ := bind_eq_ok.mp h
        cases hend
        exact List.forall_mem_cons.mpr ⟨rfl, is_compiled_of_lower_parts hmore hes⟩
      · rename_i heq
        cases heq
        obtain ⟨e, he, h⟩ := bind_eq_ok.mp h
        obtain ⟨es, hes, hend⟩ := bind_eq_ok.mp h
        cases hend
        refine List.forall_mem_cons.mpr ⟨?_, is_compiled_of_lower_parts hmore hes⟩
        exact Expr.is_compiled_iff.mpr
          ⟨rfl, List.forall_mem_singleton.mpr (is_compiled_of_lower hpart he)⟩

/-- The values of properties that are proper trees are compiled. -/
theorem is_compiled_of_lower_properties {properties : List (Property (CallTree Value))}
    {es : List Expr}
    (hproperties : ∀ property ∈ properties, property.value.Proper (Value.IsCompiled tag))
    (h : lowerProperties properties = .ok es) : ∀ e ∈ es, e.isCompiled tag = true := by
  match properties with
  | [] =>
      cases h
      exact List.forall_mem_nil _
  | ⟨_, value, _⟩ :: properties =>
      obtain ⟨hvalue, hmore⟩ := List.forall_mem_cons.mp hproperties
      obtain ⟨e, he, h⟩ := bind_eq_ok.mp h
      obtain ⟨es, hes, hend⟩ := bind_eq_ok.mp h
      cases hend
      exact List.forall_mem_cons.mpr
        ⟨is_compiled_of_lower hvalue he, is_compiled_of_lower_properties hmore hes⟩

end

/-! ## Transforming -/

/-- A computation that reports events gives the same as a part of one that counts. -/
theorem yields_lift_logged {α : Type} {x : Logged α} {p q : Progress} {a : α}
    (h : Yields (liftLogged x) p a q) : ∃ events, Yields x p.events a events := by
  refine ⟨(x.run.run p.events).2, ?_⟩
  have hresult : (x.run.run p.events).1 = .ok a := congrArg Prod.fst h
  exact eq_mk_of_fst_eq hresult

/-- Whatever an attempt yields has the property. -/
abbrev Gives {α : Type} (x : Attempt Progress α) (gives : α → Prop) : Prop :=
  Maintains (fun _ => True) x gives

/-- Nothing is said of what an attempt yields. -/
theorem gives_trivial {α : Type} (x : Attempt Progress α) : Gives x fun _ => True :=
  fun _ _ _ _ _ => ⟨trivial, trivial⟩

/-- A call whose parts are compiled stands for a compiled expression. -/
theorem gives_expand (t : Transformer) {e : Expr}
    (hinside : ∀ inner ∈ e.inside, inner.isCompiled t.tag = true) :
    Gives (expand t e) fun e' => e'.isCompiled t.tag = true := by
  have hfound : Gives (liftExcept (templateCall? t.tag e))
      fun template => templateCall? t.tag e = .ok template := maintains_lift_except fun _ h => h
  refine maintains_bind hfound fun template htemplate => ?_
  match template with
  | none =>
      exact maintains_pure
        (Expr.is_compiled_iff.mpr ⟨template_call?_eq_none_iff.mp htemplate, hinside⟩)
  | some (line, fragments, interpolations) =>
      have hvalues : ∀ value ∈ interpolations.map Value.expression, value.IsCompiled t.tag := by
        intro value hvalue
        obtain ⟨inner, hinner, rfl⟩ := List.mem_map.mp hvalue
        rintro _ ⟨⟩
        exact all_of_template_call? (fun _ _ _ => rfl) hinside htemplate inner hinner
      refine maintains_bind (gives_trivial _) fun _ _ => ?_
      refine maintains_bind (?_ : Maintains _ _ (CallTree.Proper (Value.IsCompiled t.tag)))
        fun tree htree => ?_
      · intro p tree q _ hyields
        obtain ⟨_, hcompile⟩ := yields_lift_logged hyields
        have hmap : interpolations.map (fun e => CallTree.interpolation (.expression e)) =
            (interpolations.map Value.expression).map .interpolation := List.map_map.symm
        rw [hmap] at hcompile
        exact ⟨Environment.proper_of_yields_compile hvalues hcompile, trivial⟩
      · exact maintains_bind (gives_trivial _) fun _ _ =>
          maintains_lift_except fun _ => is_compiled_of_lower htree

mutual

/-- A transformed expression is compiled. -/
theorem gives_transform (t : Transformer) (e : Expr) :
    Gives (transform t e) fun e' => e'.isCompiled t.tag = true := by
  -- Only calls can stand for templates: all else is compiled as soon as its parts are.
  have hcompiled {e : Expr} (hcall : e.isTemplateCall t.tag = false)
      (hinside : ∀ inner ∈ e.inside, inner.isCompiled t.tag = true) :
      Gives (pure e) fun e' => e'.isCompiled t.tag = true :=
    maintains_pure (Expr.is_compiled_iff.mpr ⟨hcall, hinside⟩)
  match e with
  | .name _ | .constant _ => exact maintains_pure rfl
  | .member value _ =>
      exact maintains_bind (gives_transform t value) fun _ hvalue =>
        hcompiled rfl (by simpa [Expr.inside] using hvalue)
  | .call _ function arguments _ keywordValues =>
      refine maintains_bind (gives_transform t function) fun _ hfunction => ?_
      refine maintains_bind (gives_transform_all t arguments) fun _ harguments => ?_
      refine maintains_bind (gives_transform_all t keywordValues) fun _ hkeywords => ?_
      exact gives_expand t (List.forall_mem_cons.mpr
        ⟨hfunction, List.forall_mem_append.mpr ⟨harguments, hkeywords⟩⟩)
  | .formatString parts | .list parts | .tuple parts | .other _ parts =>
      exact maintains_bind (gives_transform_all t parts) fun _ hparts => hcompiled rfl hparts
  | .field value _ spec =>
      exact maintains_bind (gives_transform t value) fun _ hvalue =>
        maintains_bind (gives_transform_spec t spec) fun _ hspec =>
          hcompiled rfl (List.forall_mem_cons.mpr ⟨hvalue, hspec⟩)
  | .dict keys values =>
      exact maintains_bind (gives_transform_all t keys) fun _ hkeys =>
        maintains_bind (gives_transform_all t values) fun _ hvalues =>
          hcompiled rfl (List.forall_mem_append.mpr ⟨hkeys, hvalues⟩)
  | .subscript first second | .binary first _ second =>
      exact maintains_bind (gives_transform t first) fun _ hfirst =>
        maintains_bind (gives_transform t second) fun _ hsecond =>
          hcompiled rfl (by simpa [Expr.inside] using ⟨hfirst, hsecond⟩)
  | .negate operand =>
      exact maintains_bind (gives_transform t operand) fun _ hoperand =>
        hcompiled rfl (by simpa [Expr.inside] using hoperand)
  | .conditional first second third | .comprehension first second third =>
      exact maintains_bind (gives_transform t first) fun _ hfirst =>
        maintains_bind (gives_transform t second) fun _ hsecond =>
          maintains_bind (gives_transform t third) fun _ hthird =>
            hcompiled rfl (by simpa [Expr.inside] using ⟨hfirst, hsecond, hthird⟩)

/-- Transformed expressions are compiled. -/
theorem gives_transform_all (t : Transformer) (es : List Expr) :
    Gives (transformAll t es) fun es' => ∀ e ∈ es', e.isCompiled t.tag = true := by
  match es with
  | [] => exact maintains_pure (List.forall_mem_nil _)
  | e :: es =>
      exact maintains_bind (gives_transform t e) fun _ he =>
        maintains_bind (gives_transform_all t es) fun _ hes =>
          maintains_pure (List.forall_mem_cons.mpr ⟨he, hes⟩)

/-- The transformed specification of a field is compiled. -/
theorem gives_transform_spec (t : Transformer) (spec : Option Expr) :
    Gives (transformSpec t spec) fun spec' => ∀ e ∈ spec'.toList, e.isCompiled t.tag = true := by
  match spec with
  | none => exact maintains_pure (List.forall_mem_nil _)
  | some spec =>
      exact maintains_bind (gives_transform t spec) fun _ hspec =>
        maintains_pure (by simpa using hspec)

end

/-- An expression that is no call for a template stands for itself. -/
theorem expand_of_not_is_template_call (t : Transformer) {e : Expr}
    (h : e.isTemplateCall t.tag = false) : expand t e = pure e := by
  unfold expand
  rw [template_call?_eq_none_iff.mpr h]
  rfl

mutual

/-- A compiled expression is transformed into itself, and nothing is counted or reported. -/
theorem transform_of_is_compiled (t : Transformer) {e : Expr} (h : e.isCompiled t.tag = true) :
    transform t e = pure e := by
  obtain ⟨hcall, hinside⟩ := Expr.is_compiled_iff.mp h
  match e with
  | .name _ | .constant _ => rfl
  | .member value _ | .negate value =>
      rw [transform, transform_of_is_compiled t (hinside value (by simp [Expr.inside]))]
      rfl
  | .call _ function arguments _ keywordValues =>
      obtain ⟨hfunction, hrest⟩ := List.forall_mem_cons.mp hinside
      obtain ⟨harguments, hkeywords⟩ := List.forall_mem_append.mp hrest
      rw [transform, transform_of_is_compiled t hfunction,
        transform_all_of_is_compiled t harguments, transform_all_of_is_compiled t hkeywords]
      exact expand_of_not_is_template_call t hcall
  | .formatString parts | .list parts | .tuple parts | .other _ parts =>
      have hparts : transformAll t parts = pure parts := transform_all_of_is_compiled t hinside
      rw [transform, hparts]
      rfl
  | .field value _ spec =>
      obtain ⟨hvalue, hspec⟩ := List.forall_mem_cons.mp hinside
      rw [transform, transform_of_is_compiled t hvalue, transform_spec_of_is_compiled t hspec]
      rfl
  | .dict keys values =>
      obtain ⟨hkeys, hvalues⟩ := List.forall_mem_append.mp hinside
      rw [transform, transform_all_of_is_compiled t hkeys, transform_all_of_is_compiled t hvalues]
      rfl
  | .subscript first second | .binary first _ second =>
      rw [transform, transform_of_is_compiled t (hinside first (by simp [Expr.inside])),
        transform_of_is_compiled t (hinside second (by simp [Expr.inside]))]
      rfl
  | .conditional first second third | .comprehension first second third =>
      rw [transform, transform_of_is_compiled t (hinside first (by simp [Expr.inside])),
        transform_of_is_compiled t (hinside second (by simp [Expr.inside])),
        transform_of_is_compiled t (hinside third (by simp [Expr.inside]))]
      rfl

/-- Compiled expressions are transformed into themselves. -/
theorem transform_all_of_is_compiled (t : Transformer) {es : List Expr}
    (h : ∀ e ∈ es, e.isCompiled t.tag = true) : transformAll t es = pure es := by
  match es with
  | [] => rfl
  | e :: es =>
      obtain ⟨he, hes⟩ := List.forall_mem_cons.mp h
      rw [transformAll, transform_of_is_compiled t he, transform_all_of_is_compiled t hes]
      rfl

/-- A compiled specification of a field is transformed into itself. -/
theorem transform_spec_of_is_compiled (t : Transformer) {spec : Option Expr}
    (h : ∀ e ∈ spec.toList, e.isCompiled t.tag = true) : transformSpec t spec = pure spec := by
  match spec with
  | none => rfl
  | some spec =>
      rw [transformSpec, transform_of_is_compiled t (h spec (by simp))]
      rfl

end

/-- A transformation that succeeds leaves no call for a template, whatever the name of the element
factory. An expression without such calls is transformed into itself: nothing is counted and no
event reported. So transforming a result once more changes nothing. -/
theorem transform_complete (t : Transformer) (e : Expr) :
    (∀ before e' after, (transform t e).run.run before = (.ok e', after) →
      e'.isCompiled t.tag = true ∧
      ∀ progress, (transform t e').run.run progress = (.ok e', progress)) ∧
    (e.isCompiled t.tag = true →
      ∀ progress, (transform t e).run.run progress = (.ok e, progress)) := by
  have hlocal {e : Expr} (h : e.isCompiled t.tag = true) (progress : Progress) :
      (transform t e).run.run progress = (.ok e, progress) := by
    rw [transform_of_is_compiled t h]
    rfl
  constructor
  · intro before e' after hrun
    have hcompiled : e'.isCompiled t.tag = true :=
      (gives_transform t e before e' after trivial hrun).1
    exact ⟨hcompiled, hlocal hcompiled⟩
  · exact hlocal

/-- Two templates, one inside the other, with an element factory of the same name as the tag. -/
theorem transform_complete_nested :
    let t : Transformer := ⟨{ Environment.default with
      factory := "pug", factory_dotted := by decide +kernel }, "pug"⟩
    let inner : Expr := .call 2 (.name "pug") [.text "b x"] [] []
    let e : Expr := .call 1 (.name "pug") [.formatString [.text "p ", .field inner (-1) none]] [] []
    let plain : Expr := .call 1 (.name "pug") [.text "p", .text "q"] [] []
    (∃ e' after, (transform t e).run.run ⟨0, []⟩ = (.ok e', after) ∧ after.count = 2 ∧
      e'.isCompiled "pug" = true ∧
      (transform t e').run.run ⟨0, []⟩ = (.ok e', ⟨0, []⟩)) ∧
    plain.isCompiled "pug" = true ∧
    (transform t plain).run.run ⟨0, []⟩ = (.ok plain, ⟨0, []⟩) := by
  intro t inner e plain
  have hplain : plain.isCompiled "pug" = true := by decide +kernel
  have hcount : (match (transform t e).run.run ⟨0, []⟩ with
    | (.ok _, after) => after.count == 2
    | (.error _, _) => false) = true := by decide +kernel
  refine ⟨?_, hplain, (transform_complete t plain).2 hplain _⟩
  split at hcount
  · rename_i e' after hrun
    obtain ⟨hcompiled, hagain⟩ := (transform_complete t e).1 _ _ _ hrun
    exact ⟨e', after, hrun, beq_iff_eq.mp hcount, hcompiled, hagain _⟩
  · cases hcount

end ElementMarkup.Host
