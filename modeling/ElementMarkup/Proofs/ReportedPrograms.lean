import ElementMarkup.Proofs.HostReader
import ElementMarkup.Proofs.Lowering
import ElementMarkup.Proofs.ReportedFaults

/-!
# Faults of programs are reported

Whatever is wrong with a program or with a template in it, the fault is one of those that the
command line reports. Main statement: `ends_transform_source`. It holds for every language whose
programs are read and written as `Language.Lawful` says, and the language at hand is one
(`lawful_core`). The program that was read is well formed and stays so while templates are compiled
in it (`ends_transform`), so that each format string can be split; the interpolations of templates
are expressions, so that each template has an expression (`exists_lower_of_proper`); and a
well-formed program is written, unless the language refuses it.
-/

namespace ElementMarkup

/-- A fault of the host language: a source is not valid, or a program that cannot be written. -/
def Fault.isOfHost : Fault → Bool
  | hostSyntax _ _ | integerTooLong _ | backslashInField | strayPart _ | noCharacter => true
  | _ => false

/-- A fault of the host language is reported. -/
theorem Fault.is_reported_of_is_of_host {fault : Fault} (h : fault.isOfHost = true) :
    fault.IsReported := by
  cases fault with
  | hostSyntax | integerTooLong | backslashInField | strayPart | noCharacter => rfl
  | _ => cases h

namespace Host

open Attempt

/-! ## Languages -/

/-- There is a result, or the fault is one of the host language. -/
def Writes {α : Type} (x : Except Fault α) : Prop :=
  ∀ fault, x = .error fault → fault.isOfHost = true

/-- All format strings in a program consist of texts and fields. -/
def Module.isWellFormed (m : Module) : Bool :=
  Statement.areWellFormed m.statements

/-- What is assumed of a language. A source is read or refused, as the type of `read` says. The
format strings of a program that is read consist of texts and fields. A program of this sort is
written or refused. Nothing is assumed of which sources are read, nor of what is written. -/
structure Language.Lawful (host : Language) : Prop where
  well_formed_read {source : String} {program : Module} :
    host.read source = .ok program → program.isWellFormed = true
  write_refuses {program : Module} :
    program.isWellFormed = true → Writes (host.write program)

/-! ## Printing -/

section

variable {α β : Type}

/-- A result is no fault. -/
theorem writes_ok (a : α) : Writes (.ok a) := by
  intro fault h
  cases h

/-- A fault of the host language is the only one. -/
theorem writes_error {fault : Fault} (h : fault.isOfHost = true) :
    Writes (.error fault : Except Fault α) := by
  intro other hother
  cases hother
  exact h

/-- The faults of two steps in a row are those of each step. -/
theorem writes_bind {x : Except Fault α} {f : α → Except Fault β} (hx : Writes x)
    (hf : ∀ a, Writes (f a)) : Writes (x >>= f) := by
  intro fault h
  rcases bind_eq_error.mp h with h | ⟨a, -, h⟩
  · exact hx fault h
  · exact hf a fault h

/-- The faults of going through a list are those of its items. -/
theorem writes_mapM {f : α → Except Fault β} (h : ∀ a, Writes (f a)) (as : List α) :
    Writes (as.mapM f) := by
  induction as with
  | nil => exact writes_ok _
  | cons a as ih =>
      rw [List.mapM_cons]
      exact writes_bind (h a) fun _ => writes_bind ih fun _ => writes_ok _

end

/-- A field is written or refused. -/
theorem writes_field_start (value : List Char) (conversion : Int) :
    Writes (fieldStart value conversion) := by
  have hconversion : Writes (conversionText conversion) := by
    unfold conversionText
    split
    · exact writes_ok _
    · split
      · exact writes_ok _
      · exact writes_error rfl
  unfold fieldStart
  dsimp only
  split
  · exact writes_error rfl
  · exact writes_bind hconversion fun _ => writes_ok _

/-- A subscript is written or refused if its parts are. The items of a tuple stand bare between the
brackets, and are written as they would be in the tuple. -/
theorem writes_subscript {inField : Bool} {level : Level} {value index : Expr}
    (hvalue : Writes (exprText inField .atom value))
    (hindex : Writes (exprText inField .test index)) :
    Writes (exprText inField level (.subscript value index)) := by
  by_cases htuple : ∃ item items, index = .tuple (item :: items)
  · obtain ⟨item, items, rfl⟩ := htuple
    rw [exprText]
    refine writes_bind hvalue fun text fault h => hindex fault ?_
    rw [exprText, exprTexts]
    rcases bind_eq_error.mp h with hitem | ⟨first, hfirst, h⟩
    · rw [hitem]
      rfl
    · rcases bind_eq_error.mp h with hitems | ⟨rest, -, h⟩
      · rw [hfirst, hitems]
        rfl
      · cases h
  · rw [exprText]
    · exact writes_bind hvalue fun _ => writes_bind hindex fun _ => writes_ok _
    · exact fun item items heq => htuple ⟨item, items, heq⟩

mutual

/-- An expression is written or refused. -/
theorem writes_expr_text (inField : Bool) (level : Level) (e : Expr) :
    Writes (exprText inField level e) := by
  match e with
  | .name _ | .constant _ =>
      rw [exprText]
      exact writes_ok _
  | .member value _ | .negate value =>
      rw [exprText]
      exact writes_bind (writes_expr_text _ _ value) fun _ => writes_ok _
  | .call _ function arguments _ keywordValues =>
      rw [exprText]
      exact writes_bind (writes_expr_text _ _ function) fun _ =>
        writes_bind (writes_expr_texts _ arguments) fun _ =>
          writes_bind (writes_expr_texts _ keywordValues) fun _ => writes_ok _
  | .formatString parts =>
      rw [exprText]
      refine writes_bind (writes_part_texts parts) fun _ => ?_
      split
      · exact writes_ok _
      · exact writes_ok _
  | .field value conversion spec =>
      rw [exprText]
      exact writes_bind (writes_expr_text _ _ value) fun _ =>
        writes_bind (writes_field_start _ conversion) fun _ =>
          writes_bind (writes_spec_text spec) fun _ => writes_ok _
  | .list items | .tuple items =>
      rw [exprText]
      exact writes_bind (writes_expr_texts _ items) fun _ => writes_ok _
  | .dict keys values =>
      rw [exprText]
      exact writes_bind (writes_expr_texts _ keys) fun _ =>
        writes_bind (writes_expr_texts _ values) fun _ => writes_ok _
  | .subscript value index =>
      exact writes_subscript (writes_expr_text _ _ value)
        (writes_expr_text inField .test index)
  | .binary left op right =>
      rw [exprText]
      exact writes_bind (writes_expr_text _ _ left) fun _ =>
        writes_bind (writes_expr_text _ _ right) fun _ => writes_ok _
  | .conditional test body orElse =>
      rw [exprText]
      exact writes_bind (writes_expr_text _ _ body) fun _ =>
        writes_bind (writes_expr_text _ _ test) fun _ =>
          writes_bind (writes_expr_text _ _ orElse) fun _ => writes_ok _
  | .comprehension item target source =>
      rw [exprText]
      exact writes_bind (writes_expr_text _ _ item) fun _ =>
        writes_bind (writes_expr_text _ _ target) fun _ =>
          writes_bind (writes_expr_text _ _ source) fun _ => writes_ok _
  | .other _ _ =>
      rw [exprText]
      exact writes_error rfl

/-- Expressions are written or refused. -/
theorem writes_expr_texts (inField : Bool) (es : List Expr) :
    Writes (exprTexts inField es) := by
  match es with
  | [] =>
      rw [exprTexts]
      exact writes_ok _
  | e :: es =>
      rw [exprTexts]
      exact writes_bind (writes_expr_text _ _ e) fun _ =>
        writes_bind (writes_expr_texts _ es) fun _ => writes_ok _

/-- A part of a format string is written or refused. -/
theorem writes_part_text (part : Expr) : Writes (partText part) := by
  match part with
  | .constant value =>
      cases value with
      | text s =>
          rw [partText]
          exact writes_ok _
      | _ =>
          rw [partText]
          · exact writes_error rfl
          all_goals nofun
  | .formatString parts =>
      rw [partText]
      exact writes_bind (writes_part_texts parts) fun _ => writes_ok _
  | .field value conversion spec =>
      rw [partText]
      exact writes_bind (writes_expr_text _ _ value) fun _ =>
        writes_bind (writes_field_start _ conversion) fun _ =>
          writes_bind (writes_spec_text spec) fun _ => writes_ok _
  | .name _ | .member _ _ | .call _ _ _ _ _ | .list _ | .tuple _ | .dict _ _ | .subscript _ _
  | .binary _ _ _ | .negate _ | .conditional _ _ _ | .comprehension _ _ _ | .other _ _ =>
      rw [partText]
      · exact writes_error rfl
      all_goals nofun

/-- Parts of a format string are written or refused. -/
theorem writes_part_texts (parts : List Expr) : Writes (partTexts parts) := by
  match parts with
  | [] =>
      rw [partTexts]
      exact writes_ok _
  | part :: parts =>
      rw [partTexts]
      exact writes_bind (writes_part_text part) fun _ =>
        writes_bind (writes_part_texts parts) fun _ => writes_ok _

/-- A specification is written or refused. -/
theorem writes_spec_text (spec : Option Expr) : Writes (specText spec) := by
  match spec with
  | none =>
      rw [specText]
      exact writes_ok _
  | some spec =>
      rw [specText]
      exact writes_bind (writes_part_text spec) fun _ => writes_ok _

end

mutual

/-- A statement is written or refused. -/
theorem writes_statement_lines (leads : Bool) (depth : Nat) (s : Statement) :
    Writes (statementLines leads depth s) := by
  match s with
  | .assign targets value =>
      rw [statementLines]
      refine writes_bind (writes_mapM (fun target => ?_) targets) fun _ =>
        writes_bind (writes_expr_text _ _ value) fun _ => writes_ok _
      exact writes_bind (writes_expr_text _ _ target) fun _ => writes_ok _
  | .expression value =>
      have hline : Writes (expressionLine leads value) := by
        unfold expressionLine
        split
        · exact writes_ok _
        · exact writes_expr_text _ _ _
      rw [statementLines]
      exact writes_bind hline fun _ => writes_ok _
  | .define _ _ body =>
      rw [statementLines]
      exact writes_bind (writes_body_lines _ _ body) fun _ => writes_ok _
  | .giveBack none =>
      rw [statementLines]
      exact writes_ok _
  | .giveBack (some value) =>
      rw [statementLines]
      exact writes_bind (writes_expr_text _ _ value) fun _ => writes_ok _
  | .other _ _ _ =>
      rw [statementLines]
      exact writes_error rfl

/-- Statements are written or refused. -/
theorem writes_body_lines (leads : Bool) (depth : Nat) (statements : List Statement) :
    Writes (bodyLines leads depth statements) := by
  match statements with
  | [] =>
      rw [bodyLines]
      exact writes_ok _
  | s :: statements =>
      rw [bodyLines]
      exact writes_bind (writes_statement_lines _ _ s) fun _ =>
        writes_bind (writes_body_lines _ _ statements) fun _ => writes_ok _

end

/-- The language at hand reads and writes as it should. -/
theorem lawful_core : Language.core.Lawful where
  well_formed_read := is_well_formed_of_source
  write_refuses {program} _ :=
    writes_bind (writes_body_lines true 0 program.statements) fun _ => writes_ok _

/-! ## Splitting -/

/-- Texts and fields can be split. -/
theorem exists_split_parts (fragment : String) {parts : List Expr}
    (h : parts.all Expr.isPart = true) : ∃ template, splitParts fragment parts = .ok template := by
  fun_induction splitParts fragment parts with
  | case1 => exact ⟨_, rfl⟩
  | case2 fragment value conversion spec parts ih =>
      rw [List.all_cons, Bool.and_eq_true] at h
      obtain ⟨template, htemplate⟩ := ih h.2
      exact ⟨_, bind_eq_ok.mpr ⟨template, htemplate, rfl⟩⟩
  | case3 fragment s parts ih =>
      rw [List.all_cons, Bool.and_eq_true] at h
      exact ih h.2
  | case4 fragment value parts hne =>
      rw [List.all_cons, Bool.and_eq_true] at h
      cases value with
      | text s => exact absurd rfl (hne s)
      | _ => cases h.1
  | case5 fragment part parts hfield htext hconstant =>
      rw [List.all_cons, Bool.and_eq_true] at h
      cases part with
      | constant value => exact absurd rfl (hconstant value)
      | field value conversion spec => exact absurd rfl (hfield value conversion spec)
      | _ => cases h.1

/-- The template of a call can be split if what is inside the call is well formed. -/
theorem exists_template_call? {tag : String} {e : Expr}
    (hinside : ∀ inner ∈ e.inside, inner.isWellFormed = true) :
    ∃ template, templateCall? tag e = .ok template := by
  unfold templateCall?
  split
  · rename_i argument
    have hargument : argument.isWellFormed = true := hinside argument (by simp [Expr.inside])
    split
    · unfold splitTemplate
      split
      · exact ⟨_, rfl⟩
      · obtain ⟨template, htemplate⟩ :=
          exists_split_parts "" (Expr.is_well_formed_iff.mp hargument).1
        rw [htemplate]
        exact ⟨_, rfl⟩
      · exact ⟨_, rfl⟩
    · exact ⟨_, rfl⟩
  · exact ⟨_, rfl⟩

/-! ## Lowering -/

/-- The interpolation is a well-formed expression. -/
def Value.IsWellFormed (value : Value) : Prop :=
  ∃ e, value = .expression e ∧ e.isWellFormed = true

/-- Trees with well-formed expressions have a list of them. -/
theorem exists_all_lowered {trees : List (CallTree Value)}
    (h : ∀ tree ∈ trees, ∃ e, lower tree = .ok e ∧ e.isWellFormed = true) :
    ∃ es, AllLowered trees es ∧ ∀ e ∈ es, e.isWellFormed = true := by
  obtain ⟨es, hes⟩ := exists_forall₂_iff.mpr h
  exact ⟨es, hes.imp fun _ _ he => he.1, forall_mem_of_forall₂ hes fun _ _ he => he.2⟩

/-- Parts with well-formed expressions have a list of well-formed texts and fields. -/
theorem exists_lowered_parts {parts : List (CallTree Value)}
    (h : ∀ part ∈ parts, ∃ e, lower part = .ok e ∧ e.isWellFormed = true) :
    ∃ es, List.Forall₂ LowersPart parts es ∧
      ∀ e ∈ es, e.isWellFormed = true ∧ e.isPart = true := by
  have hpart : ∀ part ∈ parts, ∃ e, LowersPart part e ∧ e.isWellFormed = true ∧
      e.isPart = true := by
    intro part hpart
    obtain ⟨e, he, hwell⟩ := h part hpart
    by_cases hliteral : ∃ value, part = .literal value
    · obtain ⟨value, rfl⟩ := hliteral
      exact ⟨_, .text value, rfl, rfl⟩
    · refine ⟨_, .field (fun value heq => hliteral ⟨value, heq⟩) he, ?_, rfl⟩
      exact Expr.is_well_formed_iff.mpr ⟨rfl, List.forall_mem_singleton.mpr hwell⟩
  obtain ⟨es, hes⟩ := exists_forall₂_iff.mpr hpart
  exact ⟨es, hes.imp fun _ _ he => he.1, forall_mem_of_forall₂ hes fun _ _ he => he.2⟩

/-- A tree whose interpolations are well-formed expressions has a well-formed expression. -/
theorem exists_lower_of_proper {tree : CallTree Value} (h : tree.Proper Value.IsWellFormed) :
    ∃ e, lower tree = .ok e ∧ e.isWellFormed = true := by
  have hname (name : String) : (dottedName name).isWellFormed = true :=
    all_dotted_name (fun _ => rfl) (fun _ _ => rfl) name
  simp only [lower_eq_ok_iff]
  induction h with
  | @call callee _ _ _ ih =>
      simp only [← lower_eq_ok_iff] at ih
      obtain ⟨es, hes, hwell⟩ := exists_all_lowered ih
      refine ⟨_, .call hes, Expr.is_well_formed_iff.mpr ⟨rfl, ?_⟩⟩
      exact List.forall_mem_cons.mpr
        ⟨hname callee, List.forall_mem_append.mpr ⟨hwell, List.forall_mem_nil _⟩⟩
  | reference name => exact ⟨_, .reference name, hname name⟩
  | literal value => exact ⟨_, .literal value, rfl⟩
  | null => exact ⟨_, .null, rfl⟩
  | concat _ ih =>
      simp only [← lower_eq_ok_iff] at ih
      obtain ⟨es, hes, hwell⟩ := exists_lowered_parts ih
      exact ⟨_, .concat hes, Expr.is_well_formed_format_string hwell⟩
  | @props properties _ ih =>
      simp only [← lower_eq_ok_iff] at ih
      obtain ⟨es, hes, hwell⟩ := exists_all_lowered (List.forall_mem_map.mpr ih)
      refine ⟨_, .props hes, Expr.is_well_formed_iff.mpr ⟨rfl, ?_⟩⟩
      refine List.forall_mem_append.mpr ⟨?_, hwell⟩
      exact List.forall_mem_map.mpr fun _ _ => rfl
  | list _ ih =>
      simp only [← lower_eq_ok_iff] at ih
      obtain ⟨es, hes, hwell⟩ := exists_all_lowered ih
      exact ⟨_, .list hes, Expr.is_well_formed_iff.mpr ⟨rfl, hwell⟩⟩
  | interpolation hvalue =>
      obtain ⟨e, rfl, hwell⟩ := hvalue
      exact ⟨e, .interpolation rfl, hwell⟩

/-! ## Transforming -/

/-- A computation that reports events ends in the same way as a part of one that counts. -/
theorem ends_lift_logged {α : Type} {x : Logged α} {gives : α → Prop} {faults : Fault → Prop}
    (h : Ends x gives faults) : Ends (liftLogged x) gives faults where
  value p a _ hyields := by
    obtain ⟨events, hyields⟩ := yields_lift_logged hyields
    exact h.value p.events a events hyields
  fault p fault _ hfails := by
    have hresult : (x.run.run p.events).1 = .error fault := congrArg Prod.fst hfails
    exact h.fault p.events fault _ (eq_mk_of_fst_eq hresult)

/-- A computation that counts ends in the same way without the count. -/
theorem ends_count_templates {α : Type} {x : Attempt Progress α} {gives : α → Prop}
    {faults : Fault → Prop} (h : Ends x gives faults) :
    Ends (countTemplates x) (fun result => gives result.1) faults := by
  have hrun (events : List Event) : (countTemplates x).run.run events =
      let outcome := x.run.run ⟨0, events⟩
      (outcome.1.map fun a => (a, outcome.2.count), outcome.2.events) := rfl
  constructor
  · intro events result after hyields
    unfold Yields at hyields
    rw [hrun] at hyields
    cases houtcome : x.run.run ⟨0, events⟩ with
    | mk outcome p =>
        rw [houtcome] at hyields
        cases outcome with
        | ok a =>
            cases hyields
            exact h.value _ _ _ houtcome
        | error fault => cases congrArg Prod.fst hyields
  · intro events fault after hfails
    unfold Fails at hfails
    rw [hrun] at hfails
    cases houtcome : x.run.run ⟨0, events⟩ with
    | mk outcome p =>
        rw [houtcome] at hfails
        cases outcome with
        | ok a => cases congrArg Prod.fst hfails
        | error other =>
            cases hfails
            exact h.fault _ _ _ houtcome

/-- A call whose parts are well formed stands for a well-formed expression, or what is wrong with
its template is reported. -/
theorem ends_expand (t : Transformer) {e : Expr} (hparts : e.hasParts = true)
    (hinside : ∀ inner ∈ e.inside, inner.isWellFormed = true) :
    Ends (expand t e) (fun e' => e'.isWellFormed = true) Fault.IsReported := by
  obtain ⟨template, htemplate⟩ := exists_template_call? hinside
  have hfound : Ends (liftExcept (templateCall? t.tag e) : Attempt Progress _)
      (fun found => template = found) Fault.IsReported := by
    rw [htemplate]
    exact ends_pure rfl
  refine ends_bind hfound ?_
  rintro _ rfl
  cases template with
  | none => exact ends_pure (Expr.is_well_formed_iff.mpr ⟨hparts, hinside⟩)
  | some template =>
      obtain ⟨line, fragments, interpolations⟩ := template
      have hvalues : ∀ value ∈ interpolations.map Value.expression, value.IsWellFormed := by
        refine List.forall_mem_map.mpr fun inner hinner => ⟨inner, rfl, ?_⟩
        exact all_of_template_call? (fun _ _ _ => rfl) hinside htemplate inner hinner
      have hmap : interpolations.map (fun e => CallTree.interpolation (.expression e)) =
          (interpolations.map Value.expression).map .interpolation := List.map_map.symm
      refine ends_bind (ends_lift_logged (ends_report _)) fun _ _ => ?_
      have htree : Ends (t.env.compile fragments
          (interpolations.map fun e => CallTree.interpolation (.expression e)) none)
          (CallTree.Proper Value.IsWellFormed) Fault.IsReported := by
        rw [hmap]
        exact ⟨fun _ _ _ => Environment.proper_of_yields_compile hvalues,
          (Environment.ends_compile t.env _ _ _).fault⟩
      refine ends_bind (ends_lift_logged htree) fun tree hproper =>
        ends_bind (ends_modify _) fun _ _ => ?_
      obtain ⟨e, he, hwell⟩ := exists_lower_of_proper hproper
      rw [he]
      exact ends_pure hwell

mutual

/-- A well-formed expression is transformed into a well-formed one, and a part of a format string
into a part, or what is wrong with a template is reported. -/
theorem ends_transform (t : Transformer) {e : Expr} (h : e.isWellFormed = true) :
    Ends (transform t e) (fun e' => e'.isWellFormed = true ∧ (e.isPart = true → e'.isPart = true))
      Fault.IsReported := by
  have hwell {e e' : Expr} (hparts : e'.hasParts = true)
      (hinside : ∀ inner ∈ e'.inside, inner.isWellFormed = true)
      (hpart : e.isPart = true → e'.isPart = true) :
      Ends (pure e' : Attempt Progress Expr)
        (fun e' => e'.isWellFormed = true ∧ (e.isPart = true → e'.isPart = true))
        Fault.IsReported :=
    ends_pure ⟨Expr.is_well_formed_iff.mpr ⟨hparts, hinside⟩, hpart⟩
  obtain ⟨hparts, hinside⟩ := Expr.is_well_formed_iff.mp h
  match e with
  | .name _ | .constant _ => exact ends_pure ⟨rfl, id⟩
  | .member value _ | .negate value =>
      exact ends_bind (ends_transform t (hinside value List.mem_cons_self)) fun _ hvalue =>
        hwell rfl (List.forall_mem_singleton.mpr hvalue.1) nofun
  | .call line function arguments keywords keywordValues =>
      obtain ⟨hfunction, hrest⟩ := List.forall_mem_cons.mp hinside
      obtain ⟨harguments, hkeywords⟩ := List.forall_mem_append.mp hrest
      refine ends_bind (ends_transform t hfunction) fun function' hfunction' =>
        ends_bind (ends_transform_all t harguments) fun arguments' harguments' =>
          ends_bind (ends_transform_all t hkeywords) fun values' hvalues' => ?_
      have hinside' : ∀ inner ∈ (Expr.call line function' arguments' keywords values').inside,
          inner.isWellFormed = true :=
        List.forall_mem_cons.mpr
          ⟨hfunction'.1, List.forall_mem_append.mpr ⟨harguments'.1, hvalues'.1⟩⟩
      exact (ends_expand t rfl hinside').weaken fun _ hexpanded => ⟨hexpanded, nofun⟩
  | .formatString parts =>
      exact ends_bind (ends_transform_all t hinside) fun _ hitems =>
        hwell (hitems.2 hparts) hitems.1 nofun
  | .list items | .tuple items | .other _ items =>
      exact ends_bind (ends_transform_all t hinside) fun _ hitems => hwell rfl hitems.1 nofun
  | .field value _ spec =>
      obtain ⟨hvalue, hspec⟩ := List.forall_mem_cons.mp hinside
      exact ends_bind (ends_transform t hvalue) fun _ hvalue =>
        ends_bind (ends_transform_spec t hspec) fun _ hspec =>
          hwell rfl (List.forall_mem_cons.mpr ⟨hvalue.1, hspec⟩) fun _ => rfl
  | .dict keys values =>
      obtain ⟨hkeys, hvalues⟩ := List.forall_mem_append.mp hinside
      exact ends_bind (ends_transform_all t hkeys) fun _ hkeys =>
        ends_bind (ends_transform_all t hvalues) fun _ hvalues =>
          hwell rfl (List.forall_mem_append.mpr ⟨hkeys.1, hvalues.1⟩) nofun
  | .subscript first second | .binary first _ second =>
      obtain ⟨hfirst, hsecond⟩ := List.forall_mem_cons.mp hinside
      exact ends_bind (ends_transform t hfirst) fun _ hfirst =>
        ends_bind (ends_transform t (hsecond second List.mem_cons_self)) fun _ hsecond =>
          hwell rfl (by simp [Expr.inside, hfirst.1, hsecond.1]) nofun
  | .conditional first second third | .comprehension first second third =>
      obtain ⟨hfirst, hrest⟩ := List.forall_mem_cons.mp hinside
      obtain ⟨hsecond, hthird⟩ := List.forall_mem_cons.mp hrest
      exact ends_bind (ends_transform t hfirst) fun _ hfirst =>
        ends_bind (ends_transform t hsecond) fun _ hsecond =>
          ends_bind (ends_transform t (hthird third List.mem_cons_self)) fun _ hthird =>
            hwell rfl (by simp [Expr.inside, hfirst.1, hsecond.1, hthird.1]) nofun

/-- Well-formed expressions are transformed into well-formed ones, and parts into parts. -/
theorem ends_transform_all (t : Transformer) {es : List Expr}
    (h : ∀ e ∈ es, e.isWellFormed = true) :
    Ends (transformAll t es) (fun es' => (∀ e ∈ es', e.isWellFormed = true) ∧
      (es.all Expr.isPart = true → es'.all Expr.isPart = true)) Fault.IsReported := by
  match es with
  | [] => exact ends_pure ⟨List.forall_mem_nil _, id⟩
  | e :: es =>
      obtain ⟨he, hes⟩ := List.forall_mem_cons.mp h
      refine ends_bind (ends_transform t he) fun e' he' =>
        ends_bind (ends_transform_all t hes) fun es' hes' =>
          ends_pure ⟨List.forall_mem_cons.mpr ⟨he'.1, hes'.1⟩, ?_⟩
      simp only [List.all_cons, Bool.and_eq_true]
      exact fun hparts => ⟨he'.2 hparts.1, hes'.2 hparts.2⟩

/-- A well-formed specification of a field is transformed into a well-formed one. -/
theorem ends_transform_spec (t : Transformer) {spec : Option Expr}
    (h : ∀ e ∈ spec.toList, e.isWellFormed = true) :
    Ends (transformSpec t spec) (fun spec' => ∀ e ∈ spec'.toList, e.isWellFormed = true)
      Fault.IsReported := by
  match spec with
  | none => exact ends_pure (List.forall_mem_nil _)
  | some spec =>
      exact ends_bind (ends_transform t (h spec List.mem_cons_self)) fun _ hspec =>
        ends_pure (List.forall_mem_singleton.mpr hspec.1)

end

mutual

/-- A well-formed statement is transformed into a well-formed one, or what is wrong with a template
is reported. -/
theorem ends_transform_statement (t : Transformer) {s : Statement} (h : s.isWellFormed = true) :
    Ends (transformStatement t s) (fun s' => s'.isWellFormed = true) Fault.IsReported := by
  match s with
  | .assign targets value =>
      rw [Statement.isWellFormed, Bool.and_eq_true, List.all_eq_true] at h
      refine ends_bind (ends_transform_all t h.1) fun targets' htargets =>
        ends_bind (ends_transform t h.2) fun value' hvalue => ends_pure ?_
      rw [Statement.isWellFormed, Bool.and_eq_true, List.all_eq_true]
      exact ⟨htargets.1, hvalue.1⟩
  | .expression value =>
      exact ends_bind (ends_transform t h) fun _ hvalue => ends_pure hvalue.1
  | .define _ _ body =>
      exact ends_bind (ends_transform_body t h) fun _ hbody => ends_pure hbody
  | .giveBack value =>
      have hall (value : Option Expr) : (Statement.giveBack value).isWellFormed = true ↔
          ∀ e ∈ value.toList, e.isWellFormed = true := by
        cases value <;> simp [Statement.isWellFormed]
      exact ends_bind (ends_transform_spec t ((hall value).mp h)) fun value' hvalue =>
        ends_pure ((hall value').mpr hvalue)
  | .other _ parts body =>
      rw [Statement.isWellFormed, Bool.and_eq_true, List.all_eq_true] at h
      refine ends_bind (ends_transform_all t h.1) fun parts' hparts =>
        ends_bind (ends_transform_body t h.2) fun body' hbody => ends_pure ?_
      rw [Statement.isWellFormed, Bool.and_eq_true, List.all_eq_true]
      exact ⟨hparts.1, hbody⟩

/-- Well-formed statements are transformed into well-formed ones. -/
theorem ends_transform_body (t : Transformer) {statements : List Statement}
    (h : Statement.areWellFormed statements = true) :
    Ends (transformBody t statements) (fun after => Statement.areWellFormed after = true)
      Fault.IsReported := by
  match statements with
  | [] => exact ends_pure rfl
  | s :: statements =>
      rw [Statement.areWellFormed, Bool.and_eq_true] at h
      refine ends_bind (ends_transform_statement t h.1) fun s' hs =>
        ends_bind (ends_transform_body t h.2) fun statements' hstatements => ends_pure ?_
      rw [Statement.areWellFormed, Bool.and_eq_true]
      exact ⟨hs, hstatements⟩

end

/-- Whatever is wrong with a program or with a template in it, it is reported. -/
theorem ends_transform_source {host : Language} (hhost : host.Lawful) (env : Environment)
    (file source : String) :
    Ends (host.transformSource env file source) (fun _ => True) Fault.IsReported := by
  have hprogram : Ends (liftExcept ((host.read source).mapError (Fault.hostSyntax file)) :
      Logged Module) (fun m => m.isWellFormed = true) Fault.IsReported := by
    cases hsource : host.read source with
    | ok m => exact ends_pure (hhost.well_formed_read hsource)
    | error fault => exact ends_throw rfl
  refine ends_bind hprogram fun program hwell =>
    ends_bind (ends_count_templates (ends_transform_body _ hwell)) fun result hresult =>
      ends_bind (ends_report _) fun _ _ => ?_
  have hwrites : Writes (host.write ⟨result.1⟩) := hhost.write_refuses hresult
  exact ends_lift_except (fun _ _ => trivial) fun fault hfault =>
    Fault.is_reported_of_is_of_host (hwrites fault hfault)

end Host

end ElementMarkup
