import ElementMarkup.Loader

/-!
# Combined loaders

A choice asks its loaders in order, and these may be choices again. What it comes to is the row of
the loaders that are no choices, read from left to right: a template comes from the first of them
that has it, and only if none has it is it not found. `leaves` is this row, and `own?` says what one
of them has. Main statement: `fetch_leaves`, for loaders that read no files. The names that such a
loader lists are those of its tables in increasing order, so that each of them can be fetched.
-/

namespace ElementMarkup

/-! ## Sorted names -/

/-- Names in order, where the same name may stand several times in a row. -/
def IsSorted (names : List String) : Prop :=
  names.Pairwise fun a b => ¬ b < a

/-- A merged row of names is sorted. -/
theorem is_sorted_merge_sort (names : List String) :
    IsSorted (names.mergeSort fun a b => !(b < a)) := by
  refine (List.pairwise_mergeSort ?_ ?_ names).imp fun h => ?_
  · intro a b c hab hbc
    simp only [Bool.not_eq_true', decide_eq_false_iff_not] at hab hbc ⊢
    exact String.le_trans hab hbc
  · intro a b
    simp only [Bool.or_eq_true, Bool.not_eq_true', decide_eq_false_iff_not]
    exact String.le_total a b
  · simpa using h

/-- What is left of a name and those behind it, without repetitions, behind others that have been
passed. -/
theorem mem_erase_reps_loop {name a : String} {names passed : List String} :
    name ∈ List.eraseRepsBy.loop (· == ·) a names passed ↔
      name ∈ passed ∨ name = a ∨ name ∈ names := by
  induction names generalizing a passed with
  | nil => simp [List.eraseRepsBy.loop, or_comm]
  | cons b names ih =>
      rw [List.eraseRepsBy.loop]
      split
      · rename_i heq
        rw [ih, List.mem_cons, eq_of_beq heq, or_self_left]
      · rw [ih, List.mem_cons, List.mem_cons, or_assoc, or_left_comm]

/-- Names in order without repetitions increase, if those that have been passed do. -/
theorem pairwise_erase_reps_loop {a : String} {names passed : List String}
    (hsorted : IsSorted (a :: names)) (hpassed : (a :: passed).Pairwise fun b c => c < b) :
    (List.eraseRepsBy.loop (· == ·) a names passed).Pairwise (· < ·) := by
  induction names generalizing a passed with
  | nil =>
      rw [List.eraseRepsBy.loop, List.pairwise_reverse]
      exact hpassed
  | cons b names ih =>
      obtain ⟨hfirst, hrest⟩ := List.pairwise_cons.mp hsorted
      rw [List.eraseRepsBy.loop]
      split
      · exact ih (List.pairwise_cons.mpr ⟨fun c hc => hfirst c (List.mem_cons_of_mem b hc),
          (List.pairwise_cons.mp hrest).2⟩) hpassed
      · rename_i hne
        have hlt : a < b := by
          refine Std.lt_of_le_of_ne (hfirst b List.mem_cons_self) ?_
          simpa using hne
        refine ih hrest (List.pairwise_cons.mpr ⟨?_, hpassed⟩)
        intro c hc
        rcases List.mem_cons.mp hc with rfl | hc
        · exact hlt
        · exact String.lt_trans ((List.pairwise_cons.mp hpassed).1 c hc) hlt

/-- The sorted names are the names. -/
theorem mem_sort_names {name : String} {names : List String} :
    name ∈ sortNames names ↔ name ∈ names := by
  rw [sortNames, ← @List.mem_mergeSort _ (fun a b => !(b < a)) name names]
  cases names.mergeSort fun a b => !(b < a) with
  | nil => rfl
  | cons a rest =>
      show name ∈ List.eraseRepsBy.loop (· == ·) a rest [] ↔ _
      rw [mem_erase_reps_loop, List.mem_cons]
      simp

/-- Sorted names increase. -/
theorem pairwise_sort_names (names : List String) : (sortNames names).Pairwise (· < ·) := by
  have hsorted := is_sorted_merge_sort names
  rw [sortNames]
  cases h : names.mergeSort fun a b => !(b < a) with
  | nil => exact List.Pairwise.nil
  | cons a rest =>
      rw [h] at hsorted
      exact pairwise_erase_reps_loop hsorted (List.pairwise_singleton _ a)

namespace Loader

variable {files : FileTree} {name : String}

/-! ## The row of loaders -/

mutual

/-- The loaders that a loader consists of, from left to right, once its choices are opened. -/
def leaves : Loader → List Loader
  | choice loaders => leavesOf loaders
  | loader => [loader]

/-- The loaders that several loaders consist of. -/
def leavesOf : List Loader → List Loader
  | [] => []
  | loader :: loaders => leaves loader ++ leavesOf loaders

end

/-- What a loader that is no choice has under a name, without a look at files. -/
def own? (name : String) : Loader → Option TemplateSource
  | table templates => (templates.get? name).map fun text => ⟨text, none⟩
  | function _ serve => serve name
  | _ => none

/-- The names that a loader lists which is no choice, without a look at files. -/
def ownNames : Loader → List String
  | table templates => templates.keys
  | _ => []

/-- The loader looks into directories. -/
def readsFiles : Loader → Bool
  | directories _ _ _ => true
  | _ => false

/-- None of the loaders that a loader consists of looks into directories. -/
def InMemory (loader : Loader) : Prop :=
  ∀ leaf ∈ loader.leaves, leaf.readsFiles = false

/-- The outcome for a template that is there or not. -/
def Serves (found : Option TemplateSource) : Except Fault TemplateSource → Prop
  | .ok source => found = some source
  | .error (.template (.notFound _)) => found = none
  | .error _ => False

/-- The outcome is a template or that it is missing. -/
theorem Serves.eq_or {found : Option TemplateSource} {outcome : Except Fault TemplateSource}
    (h : Serves found outcome) :
    (∃ source, found = some source ∧ outcome = .ok source) ∨
      found = none ∧ ∃ missing, outcome = .error (.template (.notFound missing)) := by
  unfold Serves at h
  split at h
  · exact .inl ⟨_, h, rfl⟩
  · exact .inr ⟨h, _, rfl⟩
  · cases h

/-- The outcome is a template exactly if this is the one that is there. -/
theorem Serves.eq_ok_iff {found : Option TemplateSource} {outcome : Except Fault TemplateSource}
    (h : Serves found outcome) {source : TemplateSource} :
    outcome = .ok source ↔ found = some source := by
  obtain ⟨_, rfl, rfl⟩ | ⟨rfl, _, rfl⟩ := h.eq_or <;> simp

/-- The outcome is that the template is missing exactly if it is not there. -/
theorem Serves.exists_missing_iff {found : Option TemplateSource}
    {outcome : Except Fault TemplateSource} (h : Serves found outcome) :
    (∃ missing, outcome = .error (.template (.notFound missing))) ↔ found = none := by
  obtain ⟨_, rfl, rfl⟩ | ⟨rfl, _, rfl⟩ := h.eq_or <;> simp

mutual

/-- A template comes from the first loader of the row that has it. -/
theorem serves_fetch {loader : Loader} (h : loader.InMemory) :
    Serves (loader.leaves.findSome? (own? name)) (fetch files name loader) := by
  match loader with
  | table templates =>
      show Serves ([table templates].findSome? (own? name)) _
      rw [fetch, List.findSome?_singleton, own?]
      cases templates.get? name <;> rfl
  | directories paths extensions encoding => cases h _ List.mem_cons_self
  | function description serve =>
      show Serves ([function description serve].findSome? (own? name)) _
      rw [fetch, List.findSome?_singleton, own?]
      cases serve name <;> rfl
  | unlisted => rfl
  | choice loaders =>
      rw [fetch, leaves, fetch_first_eq h]
      cases (leavesOf loaders).findSome? (own? name) <;> rfl

/-- Several loaders give the template of the first loader of the row that has it. -/
theorem fetch_first_eq {loaders : List Loader}
    (h : ∀ leaf ∈ leavesOf loaders, leaf.readsFiles = false) :
    fetchFirst files name loaders = .ok ((leavesOf loaders).findSome? (own? name)) := by
  match loaders with
  | [] => rfl
  | loader :: loaders =>
      obtain ⟨hfirst, hrest⟩ := List.forall_mem_append.mp h
      have hserves := @serves_fetch loader hfirst
      rw [fetchFirst, leavesOf, List.findSome?_append, fetch_first_eq hrest]
      split
      · rename_i source hfetch
        rw [hfetch] at hserves
        rw [hserves]
        rfl
      · rename_i hfetch
        rw [hfetch] at hserves
        rw [hserves, Option.none_or]
      · rename_i fault hother hfetch
        rw [hfetch] at hserves
        obtain ⟨_, _, hok⟩ | ⟨_, missing, hmissing⟩ := hserves.eq_or
        · cases hok
        · cases hmissing
          exact absurd rfl (hother missing)

end

/-! ## The names that are listed -/

mutual

/-- The names of a loader are those of the loaders in the row. -/
theorem mem_names_iff {loader : Loader} (h : loader.InMemory) :
    name ∈ names files loader ↔ ∃ leaf ∈ loader.leaves, name ∈ leaf.ownNames := by
  match loader with
  | table templates =>
      show _ ↔ ∃ leaf ∈ [table templates], name ∈ leaf.ownNames
      rw [names, mem_sort_names]
      simp [ownNames]
  | directories paths extensions encoding => cases h _ List.mem_cons_self
  | function description serve =>
      show name ∈ [] ↔ ∃ leaf ∈ [function description serve], name ∈ leaf.ownNames
      simp [ownNames]
  | unlisted =>
      show name ∈ [] ↔ ∃ leaf ∈ [unlisted], name ∈ leaf.ownNames
      simp [ownNames]
  | choice loaders =>
      rw [names, mem_sort_names, mem_all_names_iff h]
      rfl

/-- The names of several loaders are those of the loaders in the row. -/
theorem mem_all_names_iff {loaders : List Loader}
    (h : ∀ leaf ∈ leavesOf loaders, leaf.readsFiles = false) :
    name ∈ allNames files loaders ↔ ∃ leaf ∈ leavesOf loaders, name ∈ leaf.ownNames := by
  match loaders with
  | [] => simp [allNames, leavesOf]
  | loader :: loaders =>
      obtain ⟨hfirst, hrest⟩ := List.forall_mem_append.mp h
      rw [allNames, leavesOf, List.mem_append, mem_names_iff hfirst, mem_all_names_iff hrest]
      simp only [List.mem_append, or_and_right, exists_or]

end

/-- The names of a loader increase. -/
theorem pairwise_names (loader : Loader) : (names files loader).Pairwise (· < ·) := by
  cases loader with
  | table | directories | choice =>
      rw [names]
      exact pairwise_sort_names _
  | function | unlisted => exact List.Pairwise.nil

/-- Only tables list names themselves. -/
theorem exists_table_of_mem {leaf : Loader} (h : name ∈ leaf.ownNames) :
    ∃ templates, leaf = table templates := by
  cases leaf with
  | table templates => exact ⟨templates, rfl⟩
  | _ => cases h

/-- A loader has the templates whose names it lists itself. -/
theorem is_some_own?_of_mem {leaf : Loader} (h : name ∈ leaf.ownNames) :
    (own? name leaf).isSome = true := by
  obtain ⟨templates, rfl⟩ := exists_table_of_mem h
  obtain ⟨entry, hentry, rfl⟩ := List.mem_map.mp h
  rw [own?, Option.isSome_map, Entries.get?, List.lookup_isSome_iff]
  exact ⟨entry, hentry, beq_self_eq_true _⟩

/-- A loader that can be asked for its names. Every choice can, whatever it consists of. -/
def lists : Loader → Bool
  | function _ _ => false
  | unlisted => false
  | _ => true

/-- A loader in memory, with choices at any depth, serves exactly what the loaders that it consists
of have. A template comes from the first of them, from left to right, that has it, and it is not
found exactly if none of them has it. The names that are listed increase, they are exactly those of
the tables, and each of them can be fetched. -/
theorem fetch_leaves (files : FileTree) (loader : Loader) (h : loader.InMemory) :
    (∀ name source, fetch files name loader = .ok source ↔
      loader.leaves.findSome? (own? name) = some source) ∧
    (∀ name, (∃ missing, fetch files name loader = .error (.template (.notFound missing))) ↔
      ∀ leaf ∈ loader.leaves, own? name leaf = none) ∧
    (loader.lists = true → loader.listing files = .ok (loader.names files)) ∧
    (loader.names files).Pairwise (· < ·) ∧
    (∀ name, name ∈ loader.names files ↔
      ∃ templates, table templates ∈ loader.leaves ∧ name ∈ templates.keys) ∧
    ∀ name ∈ loader.names files, ∃ source, fetch files name loader = .ok source := by
  have hserves (name : String) := @serves_fetch files name loader h
  have hlisting (hlists : loader.lists = true) :
      loader.listing files = .ok (loader.names files) := by
    cases loader with
    | function | unlisted => cases hlists
    | table | directories | choice => rfl
  refine ⟨fun name source => ?_, fun name => ?_, hlisting, pairwise_names loader, fun name => ?_,
    fun name hname => ?_⟩
  · rw [(hserves name).eq_ok_iff]
  · rw [(hserves name).exists_missing_iff, List.findSome?_eq_none_iff]
  · rw [mem_names_iff h]
    constructor
    · rintro ⟨leaf, hleaf, hname⟩
      obtain ⟨templates, rfl⟩ := exists_table_of_mem hname
      exact ⟨templates, hleaf, hname⟩
    · rintro ⟨templates, hleaf, hname⟩
      exact ⟨table templates, hleaf, hname⟩
  · obtain ⟨leaf, hleaf, hown⟩ := (mem_names_iff h).mp hname
    obtain ⟨source, hsource⟩ := Option.isSome_iff_exists.mp
      (List.findSome?_isSome_iff.mpr ⟨leaf, hleaf, is_some_own?_of_mem hown⟩)
    exact ⟨source, (hserves name).eq_ok_iff.mpr hsource⟩

/-- Choices inside a choice, one of them empty, with a template that is in two tables, one that
comes from a function, and a loader that has nothing. -/
theorem fetch_leaves_shadowed :
    let loader : Loader := .choice [.choice [], .unlisted, .table [("b.pug", "b")],
      .function "db" fun name => if name = "c.pug" then some ⟨"c", some "db"⟩ else none,
      .choice [.table [("b.pug", "x"), ("a.pug", "a")]]]
    loader.InMemory ∧ fetch .empty "b.pug" loader = .ok ⟨"b", none⟩ ∧
    fetch .empty "c.pug" loader = .ok ⟨"c", some "db"⟩ ∧
    (∃ missing, fetch .empty "d.pug" loader = .error (.template (.notFound missing))) ∧
    ∃ names, loader.listing .empty = .ok names ∧ names.Pairwise (· < ·) ∧
      "a.pug" ∈ names ∧ "c.pug" ∉ names := by
  intro loader
  have hmemory : loader.InMemory := by
    simp [InMemory, loader, leaves, leavesOf, readsFiles]
  obtain ⟨hsource, hmissing, hlisting, hpairwise, hmem, -⟩ := fetch_leaves .empty loader hmemory
  refine ⟨hmemory, (hsource _ _).mpr rfl, (hsource _ _).mpr rfl, (hmissing _).mpr ?_,
    loader.names .empty, hlisting rfl, hpairwise, (hmem _).mpr ?_, mt (hmem _).mp ?_⟩
  · simp [loader, leaves, leavesOf, own?, Entries.get?]
  · exact ⟨[("b.pug", "x"), ("a.pug", "a")], by simp [loader, leaves, leavesOf],
      by simp [Entries.keys]⟩
  · simp [loader, leaves, leavesOf, Entries.keys]

end Loader

end ElementMarkup
