import ElementMarkup.Cursor

/-!
# What has been taken

A cursor is determined by its items and by the numbers of those that have been taken. Its head
follows from them, since it always stands at the first item that is left (`Settled.eq`), so that
taking what comes next is taking the first number that is left (`Settled.next_of_cons`). Every
operation is told in these terms: `free?_after_taking` says which items are left, and
`take_after_taking` and `take_of_is_none` what taking one does.
-/

namespace ElementMarkup.Cursor

variable {α : Type}

/-! ## The head -/

/-- The head stands at the first item that is left, or behind all items. -/
def Settled (c : Cursor α) : Prop :=
  ∀ slot, c.slots[c.head]? = some slot → slot.taken = false

/-- The head of a settled cursor follows from what has been taken. -/
theorem Settled.eq {c d : Cursor α} (hc : c.Settled) (hd : d.Settled) (h : c.slots = d.slots) :
    c = d := by
  have hle {c d : Cursor α} (hd : d.Settled) (h : c.slots = d.slots) : c.head ≤ d.head := by
    refine Nat.le_of_not_lt fun hlt => ?_
    obtain ⟨slot, hslot, htaken⟩ := c.below d.head hlt
    rw [h] at hslot
    rw [hd slot hslot] at htaken
    cases htaken
  have hhead : c.head = d.head := Nat.le_antisymm (hle hd h) (hle hc h.symm)
  cases c
  cases d
  cases h
  cases hhead
  rfl

/-- Moving the head over what has been taken settles a cursor. -/
theorem settled_advance (c : Cursor α) : c.advance.Settled :=
  fun _ h => Slot.taken_first_free h

/-- The head of a settled cursor stays where it is. -/
theorem Settled.advance_eq {c : Cursor α} (h : c.Settled) : c.advance = c :=
  c.settled_advance.eq h rfl

/-- A cursor without items is as at the start. -/
theorem eq_of_list_nil {c : Cursor α} (h : c.size = 0) : c = ofList [] := by
  have hslots : c.slots = [] := List.length_eq_zero_iff.mp h
  have hsettled (c : Cursor α) (hslots : c.slots = []) : c.Settled := by
    intro slot hslot
    rw [hslots] at hslot
    cases hslot
  exact (hsettled c hslots).eq (hsettled _ rfl) hslots

/-- A place before the head is not free. -/
theorem free?_of_lt_head {c : Cursor α} {j : Nat} (hj : j < c.head) : c.free? j = none := by
  obtain ⟨slot, hslot, htaken⟩ := c.below j hj
  simp only [free?, hslot, htaken, if_true]

/-- The first number that is left is the head, unless the head stands behind all items. -/
theorem Settled.head?_unconsumed {c : Cursor α} (h : c.Settled) :
    c.unconsumed.head? = if c.head < c.size then some c.head else none := by
  rw [unconsumed, List.head?_filter]
  by_cases hlt : c.head < c.size
  · rw [if_pos hlt, List.find?_range_eq_some]
    refine ⟨?_, List.mem_range.mpr hlt, ?_⟩
    · have hslot := List.getElem?_eq_getElem hlt
      simp only [free?, hslot, h _ hslot]
      rfl
    · intro j hj
      rw [free?_of_lt_head hj]
      rfl
  · rw [if_neg hlt, List.find?_range_eq_none]
    intro j hj
    rw [free?_of_lt_head (by omega)]
    rfl

/-- What comes next is what is taken under the first number that is left. -/
theorem Settled.next_of_cons {c : Cursor α} (h : c.Settled) {i : Nat} {more : List Nat}
    (hleft : c.unconsumed = i :: more) : c.next = c.take i := by
  have hhead := h.head?_unconsumed
  rw [hleft, List.head?_cons] at hhead
  by_cases hlt : c.head < c.size
  · rw [if_pos hlt] at hhead
    cases hhead
    have hslot := List.getElem?_eq_getElem hlt
    have hfree : c.free? c.head = some c.slots[c.head].item := by
      simp only [free?, hslot, h _ hslot]
      rfl
    simp only [next, h.advance_eq, hslot, take, hfree]
  · rw [if_neg hlt] at hhead
    cases hhead

/-- Nothing comes next if no number is left. -/
theorem Settled.next_of_nil {c : Cursor α} (h : c.Settled) (hleft : c.unconsumed = []) :
    c.next = (none, c) := by
  have hhead := h.head?_unconsumed
  rw [hleft, List.head?_nil] at hhead
  by_cases hlt : c.head < c.size
  · rw [if_pos hlt] at hhead
    cases hhead
  · have hslot : c.slots[c.head]? = none := List.getElem?_eq_none (Nat.not_lt.mp hlt)
    simp only [next, h.advance_eq, hslot]

/-! ## Items that have been taken -/

/-- The cursor over items of which those with the given numbers have been taken. -/
def afterTaking (items : List α) (taken : List Nat) : Cursor α :=
  advance ⟨items.mapIdx fun i item => ⟨item, decide (i ∈ taken)⟩, 0, Slot.taken_below_zero _⟩

variable (items : List α) (taken : List Nat)

/-- The slots of items some of which have been taken. -/
theorem slots_after_taking :
    (afterTaking items taken).slots = items.mapIdx fun i item => ⟨item, decide (i ∈ taken)⟩ :=
  rfl

/-- The head stands at the first item that has not been taken. -/
theorem settled_after_taking : (afterTaking items taken).Settled :=
  settled_advance _

/-- At first nothing has been taken. -/
theorem of_list_eq_after_taking (items : List α) : ofList items = afterTaking items [] := by
  have hsettled : (ofList items).Settled := by
    intro slot hslot
    rw [ofList, List.getElem?_map] at hslot
    obtain ⟨item, _, rfl⟩ := Option.map_eq_some_iff.mp hslot
    rfl
  refine hsettled.eq (settled_after_taking items []) ?_
  rw [ofList, slots_after_taking]
  refine List.ext_getElem? fun i => ?_
  rw [List.getElem?_map, List.getElem?_mapIdx]
  rfl

/-- Taking does not change how many items there are. -/
@[simp] theorem size_after_taking : (afterTaking items taken).size = items.length := by
  rw [size, slots_after_taking, List.length_mapIdx]

/-- What is left are the items that have not been taken. -/
theorem free?_after_taking (i : Nat) :
    (afterTaking items taken).free? i = if i ∈ taken then none else items[i]? := by
  rw [free?, slots_after_taking, List.getElem?_mapIdx]
  cases items[i]? with
  | none => simp
  | some item => simp

/-- Marking an item makes it one of those that have been taken. -/
theorem advance_mark_after_taking (i : Nat) :
    ((afterTaking items taken).mark i).advance = afterTaking items (taken ++ [i]) := by
  refine (settled_advance _).eq (settled_after_taking items (taken ++ [i])) ?_
  show Slot.mark (afterTaking items taken).slots i = _
  rw [slots_after_taking, slots_after_taking, Slot.mark]
  refine List.ext_getElem? fun j => ?_
  rw [List.getElem?_modify, List.getElem?_mapIdx, List.getElem?_mapIdx]
  cases items[j]? with
  | none => rfl
  | some item =>
      by_cases hij : i = j
      · simp [hij]
      · have hji : ¬ j = i := fun h => hij h.symm
        simp [hij, hji]

/-- An item that is left can be taken. -/
theorem take_after_taking {i : Nat} {item : α}
    (h : (afterTaking items taken).free? i = some item) :
    (afterTaking items taken).take i = (some item, afterTaking items (taken ++ [i])) := by
  rw [← advance_mark_after_taking]
  simp only [take, h]

/-- Where no item is left nothing is taken. -/
theorem take_of_is_none {c : Cursor α} {i : Nat} (h : c.free? i = none) :
    c.take i = (none, c) := by
  simp only [take, h]

/-- Taking an item does not change how many items there are. -/
theorem size_take (c : Cursor α) (i : Int) : (c.take i).2.size = c.size := by
  unfold take
  split
  · split
    · show (Slot.mark c.slots _).length = c.slots.length
      rw [Slot.mark, List.length_modify]
    · rfl
  · rfl

/-- The numbers that are left are those that have not been taken. -/
theorem unconsumed_after_taking :
    (afterTaking items taken).unconsumed =
      (List.range items.length).filter fun i => decide (i ∉ taken) := by
  rw [unconsumed, size_after_taking]
  refine List.filter_congr fun i hi => ?_
  rw [free?_after_taking]
  have hlt : i < items.length := List.mem_range.mp hi
  by_cases hmem : i ∈ taken
  · simp [hmem]
  · simp [hmem, hlt]

/-- The number of items that have been taken. -/
theorem consumed_after_taking :
    (afterTaking items taken).consumed =
      (List.range items.length).countP fun i => decide (i ∈ taken) := by
  have hnumbers : items.zipIdx.map Prod.snd = List.range items.length := by
    rw [List.zipIdx_map_snd, List.range_eq_range']
  rw [consumed, slots_after_taking, List.mapIdx_eq_zipIdx_map, List.countP_map, ← hnumbers,
    List.countP_map]
  rfl

/-! ## Numbers that are left -/

variable {c : Cursor α} {i : Nat}

/-- A number is left exactly if its item is free. -/
theorem mem_unconsumed : i ∈ c.unconsumed ↔ (c.free? i).isSome = true := by
  rw [unconsumed, List.mem_filter, and_iff_right_iff_imp, List.mem_range]
  intro hfree
  refine Nat.lt_of_not_le fun hle => ?_
  rw [free?, List.getElem?_eq_none hle] at hfree
  cases hfree

/-- The item whose number is not left is not free. -/
theorem free?_of_not_mem_unconsumed (h : i ∉ c.unconsumed) : c.free? i = none := by
  rw [mem_unconsumed, Option.not_isSome_iff_eq_none] at h
  exact h

/-- Of an item that is taken nothing is left, and the others are as they were. -/
theorem free?_advance_mark (c : Cursor α) (i j : Nat) :
    (c.mark i).advance.free? j = if i = j then none else c.free? j := by
  have hslots : (c.mark i).advance.slots = Slot.mark c.slots i := rfl
  unfold free?
  rw [hslots, Slot.mark, List.getElem?_modify]
  by_cases hij : i = j
  · cases c.slots[j]? <;> simp [hij]
  · cases c.slots[j]? <;> simp [hij]

/-- When an item is taken its number is no longer left. -/
theorem unconsumed_advance_mark (c : Cursor α) (i : Nat) :
    (c.mark i).advance.unconsumed = c.unconsumed.erase i := by
  have hsize : (c.mark i).advance.size = c.size := List.length_modify _ _ _
  have hnodup : c.unconsumed.Nodup := List.nodup_range.filter _
  rw [hnodup.erase_eq_filter, unconsumed, unconsumed, hsize, List.filter_filter]
  refine List.filter_congr fun j _ => ?_
  rw [free?_advance_mark]
  by_cases hij : i = j
  · simp [hij]
  · simp [hij, Ne.symm hij]

end ElementMarkup.Cursor
