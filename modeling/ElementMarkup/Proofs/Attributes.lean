import ElementMarkup.Markup.Attributes
import Mathlib.Data.List.Basic
import Mathlib.Data.List.Induction

/-!
# Merged attributes

The merged attributes of a tag have a key for each property, in the order in which the properties
are first set (`keys_merge`), and the value of a key is that of its attributes combined from left
to right (`get?_merge`). Attributes that set different properties have one entry each, in the order
in which they are given (`merge_of_nodup`).
-/

namespace ElementMarkup

/-- One more item counts as a first occurrence if it has not occurred. -/
theorem erase_dups_concat {α : Type} [DecidableEq α] (items : List α) (item : α) :
    (items ++ [item]).eraseDups =
      if item ∈ items then items.eraseDups else items.eraseDups ++ [item] := by
  rw [List.eraseDups_append]
  split
  · rename_i hmem
    have hnone : [item].removeAll items = [] := by simp [List.removeAll, hmem]
    rw [hnone, List.eraseDups_nil, List.append_nil]
  · rename_i hnot
    have hone : [item].removeAll items = [item] := by simp [List.removeAll, hnot]
    rw [hone]
    rfl

namespace Entries

variable {α : Type}

/-- A key that is not among the entries has no value. -/
theorem get?_of_not_mem {entries : Entries α} {key : String} (h : key ∉ entries.keys) :
    entries.get? key = none := by
  rw [get?, List.lookup_eq_none_iff]
  intro entry hmem
  rw [bne_iff_ne]
  rintro rfl
  exact h (List.mem_map_of_mem hmem)

/-- A new key is put at the end. -/
theorem put_of_not_mem {entries : Entries α} {key : String} (h : key ∉ entries.keys) (value : α) :
    entries.put key value = entries ++ [(key, value)] := by
  induction entries with
  | nil => rfl
  | cons entry entries ih =>
      obtain ⟨k, v⟩ := entry
      rw [keys, List.map_cons, List.mem_cons, not_or] at h
      rw [put, if_neg fun hk => h.1 hk.symm, ih h.2]
      rfl

/-- The first entry is found under its key. -/
theorem get?_cons (k : String) (v : α) (entries : Entries α) (key : String) :
    get? ((k, v) :: entries) key = if key = k then some v else entries.get? key := by
  rw [get?, List.lookup_cons]
  by_cases h : key = k
  · simp [h]
  · rw [beq_false_of_ne h, if_neg h]
    rfl

/-- Putting in a value changes the value of its key only. -/
theorem get?_put (entries : Entries α) (key : String) (value : α) (other : String) :
    (entries.put key value).get? other =
      if other = key then some value else entries.get? other := by
  induction entries with
  | nil => exact get?_cons key value [] other
  | cons entry entries ih =>
      obtain ⟨k, v⟩ := entry
      rw [put, get?_cons]
      by_cases hk : k = key
      · rw [if_pos hk, get?_cons, hk]
        split <;> rfl
      · rw [if_neg hk, get?_cons, ih]
        by_cases hother : other = k
        · rw [if_pos hother, if_neg (hother ▸ hk), if_pos hother]
        · rw [if_neg hother, if_neg hother]

/-- Putting in a value makes no other entry. -/
theorem mem_put {entries : Entries α} {key : String} {value : α} {entry : String × α}
    (h : entry ∈ entries.put key value) : entry = (key, value) ∨ entry ∈ entries := by
  induction entries with
  | nil => exact .inl (List.mem_singleton.mp h)
  | cons first entries ih =>
      obtain ⟨k, v⟩ := first
      rw [put] at h
      split at h
      · rename_i hk
        rcases List.mem_cons.mp h with rfl | hmem
        · exact .inl (by rw [hk])
        · exact .inr (List.mem_cons_of_mem _ hmem)
      · rcases List.mem_cons.mp h with rfl | hmem
        · exact .inr List.mem_cons_self
        · exact (ih hmem).imp_right (List.mem_cons_of_mem _)

/-- A value that is found is that of an entry. -/
theorem mem_of_get? {entries : Entries α} {key : String} {value : α}
    (h : entries.get? key = some value) : (key, value) ∈ entries := by
  induction entries with
  | nil => cases h
  | cons first entries ih =>
      obtain ⟨k, v⟩ := first
      rw [get?_cons] at h
      split at h
      · rename_i hk
        rw [hk, Option.some.inj h]
        exact List.mem_cons_self
      · exact List.mem_cons_of_mem _ (ih h)

/-- Putting in a value adds its key at the end, unless it is there. -/
theorem keys_put (entries : Entries α) (key : String) (value : α) :
    (entries.put key value).keys =
      if key ∈ entries.keys then entries.keys else entries.keys ++ [key] := by
  induction entries with
  | nil => rfl
  | cons entry entries ih =>
      obtain ⟨k, v⟩ := entry
      rw [keys, keys] at ih
      rw [keys, keys, put]
      by_cases hk : k = key
      · simp [hk]
      · have hkey : ¬ key = k := fun h => hk h.symm
        simp only [hk, if_false, List.map_cons, ih, List.mem_cons, hkey, false_or]
        split <;> rfl

/-- Putting in a value keeps the keys different. -/
theorem nodup_keys_put {entries : Entries α} (h : entries.keys.Nodup) (key : String) (value : α) :
    (entries.put key value).keys.Nodup := by
  rw [keys_put]
  by_cases hkey : key ∈ entries.keys
  · rw [if_pos hkey]
    exact h
  · rw [if_neg hkey]
    refine List.nodup_append.mpr ⟨h, by simp, ?_⟩
    intro k hk other hother heq
    rw [List.mem_singleton] at hother
    subst heq hother
    exact hkey hk

/-- The values of entries with different keys are those that are found under their keys. -/
theorem map_eq_map_keys {β : Type} {entries : Entries α} (h : entries.keys.Nodup) (other : β)
    (f : α → β) :
    entries.map (fun entry => f entry.2) =
      entries.keys.map fun key => (entries.get? key).elim other f := by
  induction entries with
  | nil => rfl
  | cons entry entries ih =>
      obtain ⟨k, v⟩ := entry
      rw [keys, List.map_cons, List.nodup_cons] at h
      rw [keys, List.map_cons, List.map_cons, List.map_cons, get?_cons, if_pos rfl, ih h.2, keys]
      refine congrArg (f v :: ·) (List.map_congr_left fun key hkey => ?_)
      rw [get?_cons, if_neg]
      rintro rfl
      exact h.1 hkey

end Entries

namespace Attribute

/-- The entry of an attribute that stands alone. -/
def entry (propertyNames : Entries String) (a : Attribute) : String × Scalar :=
  (propertyName propertyNames a.name, a.value)

/-- Attributes that set different properties, all of them new, are put at the end. -/
theorem foldl_merge_one_of_nodup (propertyNames : Entries String) (as : List Attribute)
    (merged : Entries Scalar)
    (h : (merged.keys ++ as.map fun a => propertyName propertyNames a.name).Nodup) :
    as.foldl (mergeOne propertyNames) merged = merged ++ as.map (entry propertyNames) := by
  induction as generalizing merged with
  | nil => exact (List.append_nil merged).symm
  | cons a as ih =>
      rw [List.map_cons] at h
      have hnew : propertyName propertyNames a.name ∉ merged.keys := by
        intro hmem
        exact (List.nodup_append.mp h).2.2 _ hmem _ List.mem_cons_self rfl
      have hone : mergeOne propertyNames merged a = merged ++ [entry propertyNames a] := by
        rw [mergeOne, Entries.get?_of_not_mem hnew]
        exact Entries.put_of_not_mem hnew a.value
      have hkeys : (merged ++ [entry propertyNames a]).map (·.1) =
          merged.keys ++ [propertyName propertyNames a.name] := by
        rw [List.map_append]
        rfl
      rw [List.foldl_cons, hone, ih, List.append_assoc]
      · rfl
      · rw [Entries.keys, hkeys, List.append_assoc]
        exact h

/-- Attributes that set different properties are merged into one entry each. -/
theorem merge_of_nodup {propertyNames : Entries String} {as : List Attribute}
    (h : (as.map fun a => propertyName propertyNames a.name).Nodup) :
    merge propertyNames as = as.map (entry propertyNames) :=
  foldl_merge_one_of_nodup propertyNames as [] h

/-- The value of a property: the values of the attributes that set it, combined from left to
right. -/
def combined (propertyNames : Entries String) (as : List Attribute) (key : String) :
    Option Scalar :=
  (as.filter fun a => propertyName propertyNames a.name = key).foldl
    (fun previous a => some (combine previous a.value)) none

/-- One more attribute is combined last, if it sets the property. -/
theorem combined_concat (propertyNames : Entries String) (as : List Attribute) (a : Attribute)
    (key : String) :
    combined propertyNames (as ++ [a]) key =
      if key = propertyName propertyNames a.name then
        some (combine (combined propertyNames as key) a.value)
      else combined propertyNames as key := by
  rw [combined, List.filter_append, List.foldl_append, ← combined]
  split
  · rename_i h
    rw [List.filter_cons_of_pos (by simp [h])]
    rfl
  · rename_i h
    rw [List.filter_cons_of_neg (by simpa using fun heq => h heq.symm)]
    rfl

/-- One more attribute is merged last. -/
theorem merge_concat (propertyNames : Entries String) (as : List Attribute) (a : Attribute) :
    merge propertyNames (as ++ [a]) = mergeOne propertyNames (merge propertyNames as) a := by
  rw [merge, List.foldl_append]
  rfl

/-- The properties stand in the order in which they are first set. -/
theorem keys_merge (propertyNames : Entries String) (as : List Attribute) :
    (merge propertyNames as).keys =
      (as.map fun a => propertyName propertyNames a.name).eraseDups := by
  -- Merging folds from the left, so that the induction is on the last attribute.
  induction as using List.reverseRecOn with
  | nil => rfl
  | append_singleton as a ih =>
      rw [merge_concat, mergeOne, Entries.keys_put, ih, List.map_append, List.map_singleton,
        erase_dups_concat]
      simp only [List.mem_eraseDups]

/-- The value of a property is that of its attributes combined. -/
theorem get?_merge (propertyNames : Entries String) (as : List Attribute) (key : String) :
    (merge propertyNames as).get? key = combined propertyNames as key := by
  induction as using List.reverseRecOn with
  | nil => rfl
  | append_singleton as a ih =>
      rw [merge_concat, mergeOne, Entries.get?_put, ih, combined_concat]
      split
      · rename_i h
        rw [← h, ih]
      · rfl

/-- Each property has one entry. -/
theorem nodup_keys_merge (propertyNames : Entries String) (as : List Attribute) :
    (merge propertyNames as).keys.Nodup := by
  induction as using List.reverseRecOn with
  | nil => exact List.nodup_nil
  | append_singleton as a ih =>
      rw [merge_concat]
      exact Entries.nodup_keys_put ih _ _

/-- Going through the merged attributes is going through the properties in the order in which they
are first set. -/
theorem map_merge {β : Type} (propertyNames : Entries String) (as : List Attribute) (other : β)
    (f : Scalar → β) :
    (merge propertyNames as).map (fun entry => f entry.2) =
      (as.map fun a => propertyName propertyNames a.name).eraseDups.map fun key =>
        (combined propertyNames as key).elim other f := by
  rw [Entries.map_eq_map_keys (nodup_keys_merge propertyNames as) other, keys_merge]
  simp only [get?_merge]

/-- What is listed for each of the merged attributes, in the order of the properties. -/
theorem flat_map_merge {β : Type} (propertyNames : Entries String) (as : List Attribute)
    (f : Scalar → List β) :
    (merge propertyNames as).flatMap (fun entry => f entry.2) =
      (as.map fun a => propertyName propertyNames a.name).eraseDups.flatMap fun key =>
        (combined propertyNames as key).elim [] f := by
  rw [List.flatMap_def, map_merge propertyNames as [] f, ← List.flatMap_def]

end Attribute

end ElementMarkup
