/-!
# Cursors

The interpolations of a template can be taken, each at most once: the first that is left, or the
one with a given number. What has been taken is never handed out again.
-/

namespace ElementMarkup

/-- An item and whether it has been taken. -/
structure Slot (α : Type) where
  item : α
  taken : Bool
  deriving DecidableEq, Repr

namespace Slot

variable {α : Type}

/-- Every item before the given place has been taken. -/
def TakenBelow (slots : List (Slot α)) (place : Nat) : Prop :=
  ∀ i < place, ∃ slot, slots[i]? = some slot ∧ slot.taken = true

/-- There is nothing before the first place. -/
theorem taken_below_zero (slots : List (Slot α)) : TakenBelow slots 0 :=
  fun _ h => absurd h (Nat.not_lt_zero _)

/-- The slots with the item at a place taken. -/
def mark (slots : List (Slot α)) (i : Nat) : List (Slot α) :=
  slots.modify i fun slot => { slot with taken := true }

/-- What has been taken stays so when an item is marked. -/
theorem TakenBelow.mark {slots : List (Slot α)} {place : Nat} (h : TakenBelow slots place)
    (i : Nat) : TakenBelow (mark slots i) place := by
  intro j hj
  obtain ⟨slot, hslot, htaken⟩ := h j hj
  rw [Slot.mark, List.getElem?_modify, hslot]
  by_cases hij : i = j
  · exact ⟨{ slot with taken := true }, by simp [hij], rfl⟩
  · exact ⟨slot, by simp [hij], htaken⟩

/-- The first place from the given one on where an item is left, or the place behind all items. -/
def firstFree (slots : List (Slot α)) (place : Nat) : Nat :=
  place + (slots.drop place).findIdx (!·.taken)

/-- The items up to the first one that is left have been taken. -/
theorem TakenBelow.first_free {slots : List (Slot α)} {place : Nat} (h : TakenBelow slots place) :
    TakenBelow slots (firstFree slots place) := by
  intro j hj
  by_cases hbefore : j < place
  · exact h j hbefore
  · have hskipped : j - place < (slots.drop place).findIdx (!·.taken) := by
      rw [Slot.firstFree] at hj
      omega
    have hbound : j - place < (slots.drop place).length :=
      Nat.lt_of_lt_of_le hskipped List.findIdx_le_length
    have htaken := List.not_of_lt_findIdx hskipped
    refine ⟨(slots.drop place)[j - place], ?_, by simpa using htaken⟩
    rw [← List.getElem?_eq_getElem hbound, List.getElem?_drop,
      show place + (j - place) = j by omega]

/-- The first item that is left has not been taken. -/
theorem taken_first_free {slots : List (Slot α)} {place : Nat} {slot : Slot α}
    (h : slots[firstFree slots place]? = some slot) : slot.taken = false := by
  rw [firstFree, ← List.getElem?_drop] at h
  obtain ⟨hbound, rfl⟩ := List.getElem?_eq_some_iff.mp h
  have hfound := @List.findIdx_getElem _ (!·.taken) (slots.drop place) hbound
  simpa using hfound

end Slot

/-- Items that can be taken once each. Every item before the head has been taken. -/
structure Cursor (α : Type) where
  slots : List (Slot α)
  head : Nat
  below : Slot.TakenBelow slots head
  deriving DecidableEq, Repr

namespace Cursor

variable {α : Type}

/-- A cursor over items none of which has been taken. -/
def ofList (items : List α) : Cursor α :=
  ⟨items.map (⟨·, false⟩), 0, Slot.taken_below_zero _⟩

/-- The number of items, taken or not. -/
def size (c : Cursor α) : Nat :=
  c.slots.length

/-- The item at a place, if it has not been taken. -/
def free? (c : Cursor α) (i : Nat) : Option α :=
  match c.slots[i]? with
  | some slot => if slot.taken then none else some slot.item
  | none => none

/-- There is an item with the given number and it has not been taken. -/
def isAvailable (c : Cursor α) : Int → Bool
  | .ofNat i => (c.free? i).isSome
  | .negSucc _ => false

/-- The cursor with the item at a place taken. -/
def mark (c : Cursor α) (i : Nat) : Cursor α :=
  ⟨Slot.mark c.slots i, c.head, c.below.mark i⟩

/-- The cursor with its head moved over the items that have been taken. -/
def advance (c : Cursor α) : Cursor α :=
  ⟨c.slots, Slot.firstFree c.slots c.head, c.below.first_free⟩

/-- Takes the item with the given number, if it is available. -/
def take (c : Cursor α) : Int → Option α × Cursor α
  | .ofNat i =>
    match c.free? i with
    | some item => (some item, (c.mark i).advance)
    | none => (none, c)
  | .negSucc _ => (none, c)

/-- The numbers of the items that have not been taken, in increasing order. -/
def unconsumed (c : Cursor α) : List Nat :=
  (List.range c.size).filter fun i => (c.free? i).isSome

/-- Takes the first item that is left, which is the one at the head. -/
def next (c : Cursor α) : Option α × Cursor α :=
  let c := c.advance
  match c.slots[c.head]? with
  | some slot => (some slot.item, (c.mark c.head).advance)
  | none => (none, c)

/-- How many items have been taken. -/
def consumed (c : Cursor α) : Nat :=
  c.slots.countP (·.taken)

/-- How many items are left. -/
def remaining (c : Cursor α) : Nat :=
  c.size - c.consumed

/-- No item is left. -/
def isExhausted (c : Cursor α) : Bool :=
  c.remaining == 0

end Cursor

end ElementMarkup
