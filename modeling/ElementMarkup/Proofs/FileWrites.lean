import ElementMarkup.FileTree

/-!
# Writing files

A file that is written can be read back at the same path, and everything else in the tree stays as
it is. Main statement: `read_of_write`. A directory need not have an entry of its own, so that a new
entry could bring directories with it. It never does: a path is followed through directories only,
and those above the place that it leads to are there already (`supported_of_walk`).
-/

namespace ElementMarkup.FileTree

variable {tree : FileTree} {place : List String}

/-- The working directory or an entry is at the place or below it. -/
def Holds (tree : FileTree) (place : List String) : Prop :=
  place <+: tree.home ∨ ∃ e ∈ tree.entries, place <+: e.1

/-- An entry of its own stands at its place. -/
theorem entry?_of_lookup_eq_some {entry : FileEntry}
    (h : tree.entries.lookup place = some entry) : tree.entry? place = some entry := by
  unfold entry?
  rw [h]

/-- A place that holds something is a directory. -/
theorem entry?_of_holds (hlookup : tree.entries.lookup place = none) (h : tree.Holds place) :
    tree.entry? place = some .directory := by
  unfold entry?
  rw [hlookup]
  refine if_pos ?_
  rw [Bool.or_eq_true, List.any_eq_true]
  rcases h with hhome | ⟨e, he, habove⟩
  · exact .inl (List.isPrefixOf_iff_prefix.mpr hhome)
  · exact .inr ⟨e, he, List.isPrefixOf_iff_prefix.mpr habove⟩

/-- Nothing is at a place that holds nothing. -/
theorem entry?_of_not_holds (hlookup : tree.entries.lookup place = none)
    (h : ¬ tree.Holds place) : tree.entry? place = none := by
  unfold entry?
  rw [hlookup]
  refine if_neg fun hcondition => h ?_
  rw [Bool.or_eq_true, List.any_eq_true] at hcondition
  rcases hcondition with hhome | ⟨e, he, habove⟩
  · exact .inl (List.isPrefixOf_iff_prefix.mp hhome)
  · exact .inr ⟨e, he, List.isPrefixOf_iff_prefix.mp habove⟩

/-- Something stands at every place above the given one. -/
def Supported (tree : FileTree) (place : List String) : Prop :=
  ∀ above, above <+: place → above ≠ place → tree.entry? above ≠ none

/-- The places above the working directory are directories, unless they are entries. -/
theorem supported_home (tree : FileTree) : tree.Supported tree.home := by
  intro above habove _
  cases hentry : tree.entries.lookup above with
  | some entry =>
      rw [entry?_of_lookup_eq_some hentry]
      nofun
  | none =>
      rw [entry?_of_holds hentry (.inl habove)]
      nofun

/-- Nothing is above the root. -/
theorem supported_root (tree : FileTree) : tree.Supported [] :=
  fun _ habove hne => absurd (List.prefix_nil.mp habove) hne

/-- The parent of a supported place is supported. -/
theorem Supported.drop_last (h : tree.Supported place) : tree.Supported place.dropLast := by
  intro above habove hne
  refine h above (habove.trans (List.dropLast_prefix place)) ?_
  rintro rfl
  exact hne (habove.eq_of_length_le (List.dropLast_prefix above).length_le)

/-- A place right below one that is supported and where something stands is supported. -/
theorem Supported.concat (h : tree.Supported place) (hplace : tree.entry? place ≠ none)
    (part : String) : tree.Supported (place ++ [part]) := by
  intro above habove hne
  have hprefix : above <+: place := (List.prefix_concat_iff.mp habove).resolve_left hne
  by_cases heq : above = place
  · rw [heq]
    exact hplace
  · exact h above hprefix heq

/-- From a supported place parts lead to a supported place. -/
theorem supported_of_walk {start parts : List String} (hstart : tree.Supported start)
    (h : tree.walk start parts = .ok place) : tree.Supported place := by
  induction parts generalizing start with
  | nil =>
      cases h
      exact hstart
  | cons part parts ih =>
      rw [walk] at h
      split at h
      · rename_i hentry
        split at h
        · exact ih hstart.drop_last h
        · exact ih (hstart.concat (by rw [hentry]; nofun) part) h
      · cases h
      · cases h

/-- A path leads to a supported place. -/
theorem supported_of_locate {path : Path} (h : tree.locate path = .ok place) :
    tree.Supported place := by
  refine supported_of_walk ?_ h
  split
  · exact supported_root tree
  · exact supported_home tree

/-! ## A new entry -/

/-- The new entry stands at its place. -/
theorem entry?_insert_self (tree : FileTree) (place : List String) (entry : FileEntry) :
    FileTree.entry? (tree.insert place entry) place = some entry := by
  unfold entry? insert
  rw [List.lookup_cons_self]

/-- What is looked up elsewhere is not touched by a new entry. -/
theorem lookup_insert_of_ne (tree : FileTree) (entry : FileEntry) {other : List String}
    (hne : other ≠ place) :
    (tree.insert place entry).entries.lookup other = tree.entries.lookup other := by
  have hfilter (entries : List (List String × FileEntry)) :
      (entries.filter fun e => e.1 ≠ place).lookup other = entries.lookup other := by
    induction entries with
    | nil => rfl
    | cons e entries ih =>
        obtain ⟨key, value⟩ := e
        by_cases hkey : key = place
        · have hother : (other == key) = false := beq_eq_false_iff_ne.mpr (hkey ▸ hne)
          rw [List.filter_cons_of_neg (by simpa using hkey), ih, List.lookup_cons, hother]
        · rw [List.filter_cons_of_pos (by simpa using hkey), List.lookup_cons, List.lookup_cons,
            ih]
  have hother : (other == place) = false := beq_eq_false_iff_ne.mpr hne
  rw [insert, List.lookup_cons, hother]
  exact hfilter tree.entries

/-- With a new entry just the places above it can come to hold something. -/
theorem holds_insert_iff (tree : FileTree) (entry : FileEntry) {other : List String} :
    (tree.insert place entry).Holds other ↔ other <+: place ∨ tree.Holds other := by
  have hmem {e : List String × FileEntry} : e ∈ (tree.insert place entry).entries ↔
      e = (place, entry) ∨ e ∈ tree.entries ∧ e.1 ≠ place := by
    rw [insert, List.mem_cons, List.mem_filter, decide_eq_true_iff]
  constructor
  · rintro (hhome | ⟨e, he, habove⟩)
    · exact .inr (.inl hhome)
    · rcases hmem.mp he with rfl | ⟨he, -⟩
      · exact .inl habove
      · exact .inr (.inr ⟨e, he, habove⟩)
  · rintro (habove | hhome | ⟨e, he, habove⟩)
    · exact .inr ⟨_, hmem.mpr (.inl rfl), habove⟩
    · exact .inl hhome
    · by_cases hplace : e.1 = place
      · exact .inr ⟨_, hmem.mpr (.inl rfl), hplace ▸ habove⟩
      · exact .inr ⟨e, hmem.mpr (.inr ⟨he, hplace⟩), habove⟩

/-- At any other place nothing changes with a new entry at a supported place. -/
theorem entry?_insert_of_ne (hplace : tree.Supported place) (entry : FileEntry)
    {other : List String} (hne : other ≠ place) :
    FileTree.entry? (tree.insert place entry) other = tree.entry? other := by
  have hlookup := lookup_insert_of_ne tree entry hne
  cases hentry : tree.entries.lookup other with
  | some found =>
      rw [hentry] at hlookup
      rw [entry?_of_lookup_eq_some hlookup, entry?_of_lookup_eq_some hentry]
  | none =>
      rw [hentry] at hlookup
      by_cases hholds : tree.Holds other
      · rw [entry?_of_holds hentry hholds,
          entry?_of_holds hlookup ((holds_insert_iff tree entry).mpr (.inr hholds))]
      · have hnone := entry?_of_not_holds hentry hholds
        -- Something would stand there already if it were above the new entry.
        have hnot : ¬ other <+: place := fun habove => hplace other habove hne hnone
        rw [hnone, entry?_of_not_holds hlookup]
        rw [holds_insert_iff]
        exact not_or.mpr ⟨hnot, hholds⟩

/-- Parts lead through directories only, and so to the same place if just another one changes. -/
theorem walk_of_agrees {after : FileTree} {start parts target : List String}
    (hplace : tree.entry? place ≠ some .directory)
    (hagrees : ∀ other, other ≠ place → after.entry? other = tree.entry? other)
    (h : tree.walk start parts = .ok target) : after.walk start parts = .ok target := by
  induction parts generalizing start with
  | nil => exact h
  | cons part parts ih =>
      rw [walk] at h ⊢
      split at h
      · rename_i hentry
        have hne : start ≠ place := by
          rintro rfl
          exact hplace hentry
        rw [hagrees start hne, hentry]
        split at h
        · rename_i hpart
          rw [if_pos hpart]
          exact ih h
        · rename_i hpart
          rw [if_neg hpart]
          exact ih h
      · cases h
      · cases h

/-! ## Writing -/

/-- A file can be written at a path that leads to a place where there is no directory. -/
theorem exists_of_write {after : FileTree} {path : Path} {content : List UInt8}
    (h : tree.write path content = .ok after) :
    path.hasNull = false ∧ ∃ place, tree.locate path = .ok place ∧
      tree.entry? place ≠ some .directory ∧ tree.insert place (.file content) = after := by
  unfold write at h
  cases hnull : path.hasNull with
  | true =>
      rw [hnull] at h
      cases h
  | false =>
      rw [hnull] at h
      cases hlocate : tree.locate path with
      | error obstacle =>
          rw [hlocate] at h
          cases h
      | ok place =>
          rw [hlocate] at h
          refine ⟨rfl, place, rfl, ?_⟩
          cases hentry : tree.entry? place with
          | none =>
              dsimp only at h
              rw [hentry] at h
              exact ⟨nofun, Except.ok.inj h⟩
          | some entry =>
              dsimp only at h
              rw [hentry] at h
              cases entry with
              | file content => exact ⟨nofun, Except.ok.inj h⟩
              | directory => cases h

/-- The file that is written is read back, and nothing else changes. -/
theorem read_of_write {after : FileTree} {path : Path} {content : List UInt8}
    (h : tree.write path content = .ok after) :
    after.read path = .ok content ∧
      ∀ other, tree.locate path ≠ .ok other → after.entry? other = tree.entry? other := by
  obtain ⟨hnull, place, hlocate, hfile, rfl⟩ := exists_of_write h
  have hagrees (other : List String) (hne : other ≠ place) :
      FileTree.entry? (tree.insert place (.file content)) other = tree.entry? other :=
    entry?_insert_of_ne (supported_of_locate hlocate) _ hne
  have hplace : (tree.insert place (.file content)).locate path = .ok place :=
    walk_of_agrees hfile hagrees hlocate
  constructor
  · unfold read
    rw [hnull, hplace]
    dsimp only
    rw [entry?_insert_self]
    rfl
  · intro other hother
    refine hagrees other ?_
    rintro rfl
    exact hother hlocate

end ElementMarkup.FileTree
