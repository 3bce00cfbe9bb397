import ElementMarkup.Event

/-!
# Outcomes of attempts

`Yields x s a t` says that the attempt `x`, started in the state `s`, succeeds with the value `a`
and leaves the state `t`, and `Fails x s fault t` that it fails. Read `yields_bind` and `fails_bind`
first: an attempt made of two steps succeeds exactly if the first one does and the second one goes
on from where it stopped, and it fails where one of the two does. `Ends` collects what all values
and all faults of an attempt have in common, `Maintains` says what successes make of an invariant of
the state, `Succeeds` and `Breaks` that the outcome does not depend on the state, and `Refines` that
one attempt does what another one does and perhaps more.
-/

namespace ElementMarkup.Attempt

variable {σ α β : Type}

/-- A step that is followed by another one gives a result if both do. -/
theorem bind_eq_ok {ε : Type} {x : Except ε α} {f : α → Except ε β} {b : β} :
    x >>= f = .ok b ↔ ∃ a, x = .ok a ∧ f a = .ok b := by
  cases x with
  | ok a =>
      constructor
      · intro h
        exact ⟨a, rfl, h⟩
      · rintro ⟨_, heq, h⟩
        cases heq
        exact h
  | error e =>
      constructor
      · intro h
        cases h
      · rintro ⟨_, heq, _⟩
        cases heq

/-- Two steps in a row have a fault if the first one does, or the second one after it. -/
theorem bind_eq_error {ε : Type} {x : Except ε α} {f : α → Except ε β} {e : ε} :
    x >>= f = .error e ↔ x = .error e ∨ ∃ a, x = .ok a ∧ f a = .error e := by
  cases x with
  | ok a =>
      constructor
      · intro h
        exact .inr ⟨a, rfl, h⟩
      · rintro (h | ⟨_, heq, h⟩)
        · cases h
        · cases heq
          exact h
  | error other =>
      constructor
      · intro h
        cases h
        exact .inl rfl
      · rintro (h | ⟨_, heq, _⟩)
        · cases h
          rfl
        · cases heq

/-- An outcome consists of its result and the state after it. -/
theorem eq_mk_of_fst_eq {outcome : Except Fault α × σ} {result : Except Fault α}
    (h : outcome.1 = result) : outcome = (result, outcome.2) :=
  Prod.ext h rfl

/-- The attempt succeeds from the state `s` with the value `a` and leaves the state `t`. -/
def Yields (x : Attempt σ α) (s : σ) (a : α) (t : σ) : Prop :=
  x.run.run s = (.ok a, t)

/-- An attempt has at most one outcome from a state. -/
theorem yields_unique {x : Attempt σ α} {s t u : σ} {a b : α} (h : Yields x s a t)
    (hother : Yields x s b u) : a = b ∧ t = u := by
  have heq := h.symm.trans hother
  exact ⟨Except.ok.inj (congrArg Prod.fst heq), congrArg Prod.snd heq⟩

/-- A value succeeds with itself and leaves the state alone. -/
@[simp] theorem yields_pure {s t : σ} {a b : α} :
    Yields (pure a : Attempt σ α) s b t ↔ a = b ∧ s = t := by
  constructor
  · intro h
    exact ⟨Except.ok.inj (congrArg Prod.fst h), congrArg Prod.snd h⟩
  · rintro ⟨rfl, rfl⟩
    rfl

/-- A fault is no success. -/
@[simp] theorem not_yields_throw {s t : σ} {a : α} {fault : Fault} :
    ¬ Yields (throw fault : Attempt σ α) s a t := by
  intro h
  cases congrArg Prod.fst h

/-- Of two steps in a row the second one goes on from where the first one succeeded. -/
theorem run_bind (x : Attempt σ α) (f : α → Attempt σ β) (s : σ) :
    (x >>= f).run.run s =
      match x.run.run s with
      | (.ok a, u) => (f a).run.run u
      | (.error fault, u) => (.error fault, u) := by
  rw [ExceptT.run_bind, StateT.run_bind]
  cases x.run.run s with
  | mk result u => cases result <;> rfl

/-- Two steps in a row succeed exactly if each of them does. -/
@[simp] theorem yields_bind {x : Attempt σ α} {f : α → Attempt σ β} {s t : σ} {b : β} :
    Yields (x >>= f) s b t ↔ ∃ a u, Yields x s a u ∧ Yields (f a) u b t := by
  unfold Yields
  rw [run_bind]
  cases x.run.run s with
  | mk result u =>
      cases result with
      | ok a =>
          constructor
          · intro h
            exact ⟨a, u, rfl, h⟩
          · rintro ⟨_, _, heq, h⟩
            cases heq
            exact h
      | error fault =>
          constructor
          · intro h
            cases congrArg Prod.fst h
          · rintro ⟨_, _, heq, _⟩
            cases congrArg Prod.fst heq

/-- A result that is there already succeeds if it is no fault. -/
@[simp] theorem yields_lift_except {e : Except Fault α} {s t : σ} {a : α} :
    Yields (liftExcept e : Attempt σ α) s a t ↔ e = .ok a ∧ s = t := by
  cases e with
  | ok b =>
      refine yields_pure.trans ?_
      rw [Except.ok.injEq]
  | error fault =>
      refine iff_of_false not_yields_throw ?_
      rintro ⟨h, _⟩
      cases h

/-- Looking at the state succeeds with it. -/
@[simp] theorem yields_get {s t a : σ} : Yields (get : Attempt σ σ) s a t ↔ s = a ∧ s = t := by
  constructor
  · intro h
    exact ⟨Except.ok.inj (congrArg Prod.fst h), congrArg Prod.snd h⟩
  · rintro ⟨rfl, rfl⟩
    rfl

/-- Replacing the state leaves the new one. -/
@[simp] theorem yields_set {s t u : σ} {a : PUnit} :
    Yields (set u : Attempt σ PUnit) s a t ↔ u = t := by
  constructor
  · intro h
    exact congrArg Prod.snd h
  · rintro rfl
    rfl

/-- Changing the state leaves the changed one. -/
@[simp] theorem yields_modify {s t : σ} {f : σ → σ} {a : PUnit} :
    Yields (modify f : Attempt σ PUnit) s a t ↔ f s = t := by
  constructor
  · intro h
    exact congrArg Prod.snd h
  · rintro rfl
    rfl

/-- A report adds its event at the end. -/
@[simp] theorem yields_report {events after : List Event} {event : Event} {a : Unit} :
    Yields (report event) events a after ↔ events ++ [event] = after :=
  yields_modify

/-- The outcome is a value exactly if the attempt succeeds with it before any event. -/
theorem fst_outcome_eq_ok {x : Logged α} {a : α} :
    x.outcome.1 = .ok a ↔ ∃ events, Yields x [] a events := by
  constructor
  · intro h
    exact ⟨x.outcome.2, eq_mk_of_fst_eq h⟩
  · rintro ⟨events, h⟩
    exact congrArg Prod.fst h

/-- There is nothing to attempt for an empty list. -/
@[simp] theorem yields_mapM_nil {f : α → Attempt σ β} {s t : σ} {bs : List β} :
    Yields ([].mapM f) s bs t ↔ [] = bs ∧ s = t := by
  rw [List.mapM_nil]
  exact yields_pure

/-- The items of a list are attempted in order. -/
@[simp] theorem yields_mapM_cons {f : α → Attempt σ β} {a : α} {as : List α} {s t : σ}
    {bs : List β} :
    Yields ((a :: as).mapM f) s bs t ↔
      ∃ b rest u, Yields (f a) s b u ∧ Yields (as.mapM f) u rest t ∧ b :: rest = bs := by
  rw [List.mapM_cons]
  simp only [yields_bind, yields_pure]
  constructor
  · rintro ⟨b, u, hb, rest, v, hrest, rfl, rfl⟩
    exact ⟨b, rest, u, hb, hrest, rfl⟩
  · rintro ⟨b, rest, u, hb, hrest, rfl⟩
    exact ⟨b, u, hb, rest, t, hrest, rfl, rfl⟩

/-- A single item is attempted. -/
theorem yields_mapM_singleton {f : α → Attempt σ β} {a : α} {s t : σ} {bs : List β} :
    Yields ([a].mapM f) s bs t ↔ ∃ b, Yields (f a) s b t ∧ [b] = bs := by
  simp only [yields_mapM_cons, yields_mapM_nil]
  constructor
  · rintro ⟨b, _, _, hb, ⟨rfl, rfl⟩, hbs⟩
    exact ⟨b, hb, hbs⟩
  · rintro ⟨b, hb, hbs⟩
    exact ⟨b, [], t, hb, ⟨rfl, rfl⟩, hbs⟩

/-- Lists in a row are gone through one after the other. -/
theorem yields_mapM_append {f : α → Attempt σ β} {first second : List α} {s t u : σ}
    {bs cs : List β} (hfirst : Yields (first.mapM f) s bs t)
    (hsecond : Yields (second.mapM f) t cs u) :
    Yields ((first ++ second).mapM f) s (bs ++ cs) u := by
  rw [List.mapM_append]
  simp only [yields_bind, yields_pure]
  exact ⟨bs, t, hfirst, cs, u, hsecond, rfl, rfl⟩

/-- Going through a list is the same attempt if it is for each item. -/
theorem mapM_congr_of_mem {f g : α → Attempt σ β} {as : List α} (h : ∀ a ∈ as, f a = g a) :
    as.mapM f = as.mapM g := by
  induction as with
  | nil => rfl
  | cons a as ih =>
      rw [List.mapM_cons, List.mapM_cons, h a List.mem_cons_self,
        ih fun b hb => h b (List.mem_cons_of_mem _ hb)]

/-! ## Faults -/

/-- The attempt fails from the state `s` with the fault and leaves the state `t`. -/
def Fails (x : Attempt σ α) (s : σ) (fault : Fault) (t : σ) : Prop :=
  x.run.run s = (.error fault, t)

/-- An attempt that succeeds does not fail. -/
theorem not_fails_of_yields {x : Attempt σ α} {s t u : σ} {a : α} {fault : Fault}
    (h : Yields x s a t) : ¬ Fails x s fault u := by
  intro hfails
  cases congrArg Prod.fst (h.symm.trans hfails)

/-- An attempt succeeds or fails. -/
theorem yields_or_fails (x : Attempt σ α) (s : σ) :
    (∃ a t, Yields x s a t) ∨ ∃ fault t, Fails x s fault t := by
  unfold Yields Fails
  cases x.run.run s with
  | mk result t =>
      cases result with
      | ok a => exact .inl ⟨a, t, rfl⟩
      | error fault => exact .inr ⟨fault, t, rfl⟩

/-- A value is no fault. -/
@[simp] theorem not_fails_pure {s t : σ} {a : α} {fault : Fault} :
    ¬ Fails (pure a : Attempt σ α) s fault t :=
  not_fails_of_yields (yields_pure.mpr ⟨rfl, rfl⟩)

/-- A fault fails with itself and leaves the state alone. -/
@[simp] theorem fails_throw {s t : σ} {fault other : Fault} :
    Fails (throw fault : Attempt σ α) s other t ↔ fault = other ∧ s = t := by
  constructor
  · intro h
    exact ⟨Except.error.inj (congrArg Prod.fst h), congrArg Prod.snd h⟩
  · rintro ⟨rfl, rfl⟩
    rfl

/-- Nothing is done after a fault. -/
theorem throw_bind (fault : Fault) (f : α → Attempt σ β) :
    (throw fault : Attempt σ α) >>= f = throw fault :=
  rfl

/-- A result that is there already is passed on. -/
theorem lift_except_ok_bind (a : α) (f : α → Attempt σ β) :
    (liftExcept (Except.ok a : Except Fault α) : Attempt σ α) >>= f = f a :=
  rfl

/-- A report does not fail. -/
@[simp] theorem not_fails_report {events after : List Event} {event : Event} {fault : Fault} :
    ¬ Fails (report event) events fault after :=
  not_fails_of_yields (yields_report.mpr (rfl : events ++ [event] = _) : Yields _ _ () _)

/-- Two steps in a row fail if the first one does, or the second one where the first one
succeeded. -/
theorem fails_bind {x : Attempt σ α} {f : α → Attempt σ β} {s t : σ} {fault : Fault} :
    Fails (x >>= f) s fault t ↔
      Fails x s fault t ∨ ∃ a u, Yields x s a u ∧ Fails (f a) u fault t := by
  unfold Fails Yields
  rw [run_bind]
  cases x.run.run s with
  | mk result u =>
      cases result with
      | ok a =>
          constructor
          · intro h
            exact .inr ⟨a, u, rfl, h⟩
          · rintro (h | ⟨_, _, heq, h⟩)
            · cases congrArg Prod.fst h
            · cases heq
              exact h
      | error other =>
          constructor
          · intro h
            cases h
            exact .inl rfl
          · rintro (h | ⟨_, _, heq, _⟩)
            · cases h
              rfl
            · cases congrArg Prod.fst heq

/-- A result that is there already fails if it is a fault. -/
@[simp] theorem fails_lift_except {e : Except Fault α} {s t : σ} {fault : Fault} :
    Fails (liftExcept e : Attempt σ α) s fault t ↔ e = .error fault ∧ s = t := by
  cases e with
  | ok a =>
      refine iff_of_false not_fails_pure ?_
      rintro ⟨h, _⟩
      cases h
  | error other =>
      refine fails_throw.trans ?_
      rw [Except.error.injEq]

/-! ## All outcomes -/

/-- Every success of the attempt gives a value with the property `gives`, and every failure a fault
with the property `faults`. -/
structure Ends (x : Attempt σ α) (gives : α → Prop) (faults : Fault → Prop) : Prop where
  value : ∀ s a t, Yields x s a t → gives a
  fault : ∀ s fault t, Fails x s fault t → faults fault

variable {gives between : α → Prop} {after : β → Prop} {faults : Fault → Prop}

/-- A value is the only outcome of itself. -/
theorem ends_pure {a : α} (h : gives a) : Ends (pure a : Attempt σ α) gives faults where
  value _ _ _ hyields := (yields_pure.mp hyields).1 ▸ h
  fault _ _ _ hfails := absurd hfails not_fails_pure

/-- A fault is the only outcome of itself. -/
theorem ends_throw {fault : Fault} (h : faults fault) :
    Ends (throw fault : Attempt σ α) gives faults where
  value _ _ _ hyields := absurd hyields not_yields_throw
  fault _ _ _ hfails := (fails_throw.mp hfails).1 ▸ h

/-- A result that is there already is the only outcome. -/
theorem ends_lift_except {e : Except Fault α} (hok : ∀ a, e = .ok a → gives a)
    (herror : ∀ fault, e = .error fault → faults fault) :
    Ends (liftExcept e : Attempt σ α) gives faults where
  value _ _ _ hyields := hok _ (yields_lift_except.mp hyields).1
  fault _ _ _ hfails := herror _ (fails_lift_except.mp hfails).1

/-- The outcomes of two steps in a row are the faults of the first one and the outcomes of the
second one. -/
theorem ends_bind {x : Attempt σ α} {f : α → Attempt σ β} (hx : Ends x between faults)
    (hf : ∀ a, between a → Ends (f a) after faults) : Ends (x >>= f) after faults where
  value s b t hyields := by
    obtain ⟨a, u, hfirst, hsecond⟩ := yields_bind.mp hyields
    exact (hf a (hx.value s a u hfirst)).value u b t hsecond
  fault s fault t hfails := by
    rcases fails_bind.mp hfails with hfirst | ⟨a, u, hfirst, hsecond⟩
    · exact hx.fault s fault t hfirst
    · exact (hf a (hx.value s a u hfirst)).fault u fault t hsecond

/-- Going through a list ends as each of its items does. -/
theorem ends_mapM {f : α → Attempt σ β} {as : List α} (h : ∀ a ∈ as, Ends (f a) after faults) :
    Ends (as.mapM f) (fun bs => ∀ b ∈ bs, after b) faults := by
  induction as with
  | nil => exact ends_pure (List.forall_mem_nil _)
  | cons a as ih =>
      obtain ⟨ha, has⟩ := List.forall_mem_cons.mp h
      rw [List.mapM_cons]
      refine ends_bind ha fun b hb => ends_bind (ih has) fun bs hbs => ?_
      exact ends_pure (List.forall_mem_cons.mpr ⟨hb, hbs⟩)

/-- Less may be said of what an attempt gives. -/
theorem Ends.weaken {x : Attempt σ α} {less : α → Prop} (h : Ends x gives faults)
    (himp : ∀ a, gives a → less a) : Ends x less faults :=
  ⟨fun s a t hyields => himp a (h.value s a t hyields), h.fault⟩

/-- Looking at the state does not fail. -/
theorem ends_get : Ends (get : Attempt σ σ) (fun _ => True) faults :=
  ⟨fun _ _ _ _ => trivial, fun s _ _ hfails =>
    absurd hfails (not_fails_of_yields (yields_get.mpr ⟨rfl, rfl⟩ : Yields _ s s s))⟩

/-- Replacing the state does not fail. -/
theorem ends_set (u : σ) : Ends (set u : Attempt σ PUnit) (fun _ => True) faults :=
  ⟨fun _ _ _ _ => trivial, fun s _ _ hfails =>
    absurd hfails (not_fails_of_yields (yields_set.mpr rfl : Yields _ s ⟨⟩ u))⟩

/-- Changing the state does not fail. -/
theorem ends_modify (f : σ → σ) : Ends (modify f : Attempt σ PUnit) (fun _ => True) faults :=
  ⟨fun _ _ _ _ => trivial, fun s _ _ hfails =>
    absurd hfails (not_fails_of_yields (yields_modify.mpr rfl : Yields _ s ⟨⟩ (f s)))⟩

/-- A report does not fail. -/
theorem ends_report (event : Event) : Ends (report event) (fun _ => True) faults :=
  ends_modify _

/-! ## Invariants -/

/-- From a state with the property `inv` every success gives a value with the property `gives` and
leaves such a state again. -/
def Maintains (inv : σ → Prop) (x : Attempt σ α) (gives : α → Prop) : Prop :=
  ∀ s a t, inv s → Yields x s a t → gives a ∧ inv t

variable {inv : σ → Prop}

/-- A value leaves the state alone. -/
theorem maintains_pure {a : α} (h : gives a) : Maintains inv (pure a) gives := by
  intro s b t hs hyields
  obtain ⟨rfl, rfl⟩ := yields_pure.mp hyields
  exact ⟨h, hs⟩

/-- A fault is no success. -/
theorem maintains_throw (fault : Fault) : Maintains inv (throw fault) gives :=
  fun _ _ _ _ hyields => absurd hyields not_yields_throw

/-- A result that is there already leaves the state alone. -/
theorem maintains_lift_except {e : Except Fault α} (h : ∀ a, e = .ok a → gives a) :
    Maintains inv (liftExcept e) gives := by
  intro s a t hs hyields
  obtain ⟨he, rfl⟩ := yields_lift_except.mp hyields
  exact ⟨h a he, hs⟩

/-- Two steps in a row maintain an invariant if both of them do. -/
theorem maintains_bind {x : Attempt σ α} {f : α → Attempt σ β} (hx : Maintains inv x between)
    (hf : ∀ a, between a → Maintains inv (f a) after) : Maintains inv (x >>= f) after := by
  intro s b t hs hyields
  obtain ⟨a, u, hfirst, hsecond⟩ := yields_bind.mp hyields
  obtain ⟨ha, hu⟩ := hx s a u hs hfirst
  exact hf a ha u b t hu hsecond

/-! ## Outcomes that the state does not decide -/

/-- The attempt succeeds from every state. -/
def Succeeds (x : Attempt σ α) : Prop :=
  ∀ s, ∃ a t, Yields x s a t

/-- The attempt fails with the fault from every state. -/
def Breaks (fault : Fault) (x : Attempt σ α) : Prop :=
  ∀ s, ∃ t, Fails x s fault t

/-- A value succeeds. -/
theorem succeeds_pure (a : α) : Succeeds (pure a : Attempt σ α) :=
  fun s => ⟨a, s, rfl⟩

/-- A result that is there already and is no fault succeeds. -/
theorem succeeds_lift_except {e : Except Fault α} {a : α} (h : e = .ok a) :
    Succeeds (liftExcept e : Attempt σ α) :=
  fun s => ⟨a, s, yields_lift_except.mpr ⟨h, rfl⟩⟩

/-- Two steps in a row succeed if both of them do. -/
theorem succeeds_bind {x : Attempt σ α} {f : α → Attempt σ β} (hx : Succeeds x)
    (hf : ∀ a, Succeeds (f a)) : Succeeds (x >>= f) := by
  intro s
  obtain ⟨a, u, hfirst⟩ := hx s
  obtain ⟨b, t, hsecond⟩ := hf a u
  exact ⟨b, t, yields_bind.mpr ⟨a, u, hfirst, hsecond⟩⟩

/-- Two steps in a row fail if the first one does. -/
theorem breaks_bind {fault : Fault} {x : Attempt σ α} {f : α → Attempt σ β}
    (hx : Breaks fault x) : Breaks fault (x >>= f) := by
  intro s
  obtain ⟨t, hfails⟩ := hx s
  exact ⟨t, fails_bind.mpr (.inl hfails)⟩

/-- Two steps in a row fail if the second one does. -/
theorem breaks_bind_of_succeeds {fault : Fault} {x : Attempt σ α} {f : α → Attempt σ β}
    (hx : Succeeds x) (hf : ∀ a, Breaks fault (f a)) : Breaks fault (x >>= f) := by
  intro s
  obtain ⟨a, u, hfirst⟩ := hx s
  obtain ⟨t, hsecond⟩ := hf a u
  exact ⟨t, fails_bind.mpr (.inr ⟨a, u, hfirst, hsecond⟩)⟩

/-- Going through a list succeeds if each item does. -/
theorem succeeds_mapM {f : α → Attempt σ β} {as : List α} (h : ∀ a ∈ as, Succeeds (f a)) :
    Succeeds (as.mapM f) := by
  induction as with
  | nil => exact succeeds_pure []
  | cons a as ih =>
      obtain ⟨ha, has⟩ := List.forall_mem_cons.mp h
      rw [List.mapM_cons]
      exact succeeds_bind ha fun _ => succeeds_bind (ih has) fun _ => succeeds_pure _

/-- Going through a list fails if an item does and the others succeed or fail in the same way. -/
theorem breaks_mapM {fault : Fault} {f : α → Attempt σ β} {as : List α}
    (hall : ∀ a ∈ as, Succeeds (f a) ∨ Breaks fault (f a)) (hone : ∃ a ∈ as, Breaks fault (f a)) :
    Breaks fault (as.mapM f) := by
  induction as with
  | nil =>
      obtain ⟨a, ha, -⟩ := hone
      cases ha
  | cons a as ih =>
      obtain ⟨ha, has⟩ := List.forall_mem_cons.mp hall
      rw [List.mapM_cons]
      by_cases hbreaks : Breaks fault (f a)
      · exact breaks_bind hbreaks
      · -- The item that fails is a later one.
        have hlater : ∃ b ∈ as, Breaks fault (f b) := by
          obtain ⟨b, hb, hbreaks'⟩ := hone
          rcases List.mem_cons.mp hb with rfl | hb
          · exact absurd hbreaks' hbreaks
          · exact ⟨b, hb, hbreaks'⟩
        exact breaks_bind_of_succeeds (ha.resolve_right hbreaks) fun _ =>
          breaks_bind (ih has hlater)

/-! ## Refinement -/

/-- Where the first attempt succeeds the second one does in the same way. -/
def Refines (x y : Attempt σ α) : Prop :=
  ∀ s a t, Yields x s a t → Yields y s a t

/-- An attempt refines itself. -/
theorem refines_refl (x : Attempt σ α) : Refines x x :=
  fun _ _ _ h => h

/-- A fault is refined by anything. -/
theorem refines_throw (fault : Fault) (x : Attempt σ α) : Refines (throw fault) x :=
  fun _ _ _ h => absurd h not_yields_throw

/-- Two steps in a row are refined step by step. -/
theorem refines_bind {x y : Attempt σ α} {f g : α → Attempt σ β} (hxy : Refines x y)
    (hfg : ∀ a, Refines (f a) (g a)) : Refines (x >>= f) (y >>= g) := by
  intro s b t h
  obtain ⟨a, u, hfirst, hsecond⟩ := yields_bind.mp h
  exact yields_bind.mpr ⟨a, u, hxy s a u hfirst, hfg a u b t hsecond⟩

end ElementMarkup.Attempt
