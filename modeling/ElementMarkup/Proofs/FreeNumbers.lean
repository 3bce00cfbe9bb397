import ElementMarkup.Proofs.Cursor
import Mathlib.Data.Finset.Sort

/-!
# Free numbers

Seen from outside a cursor is the set of the numbers that are free, at first those of all items.
`answerFree` says how such a set answers the requests that a cursor takes, and `answer_after_taking`
that a cursor answers one request in the same way, with its items in the place of their numbers.
Main statement: `run_of_list`, for requests in any number and order. In particular no number is ever
handed out twice.
-/

namespace ElementMarkup.Cursor

variable {α σ : Type}

/-! ## Requests and answers -/

/-- What can be asked of a cursor. -/
inductive Request where
  | next
  | take (i : Int)
  | isAvailable (i : Int)
  | unconsumed
  deriving DecidableEq, Repr

/-- What is answered to a request. -/
inductive Answer (α : Type) where
  | handsOut (item : Option α)
  | isFree (answer : Bool)
  | lists (numbers : List Nat)
  deriving DecidableEq, Repr

/-- The item that an answer hands out, if it hands out one. -/
def Answer.items : Answer α → List α
  | handsOut item => item.toList
  | isFree _ => []
  | lists _ => []

/-- The items that answers hand out, in order. -/
def handedOut (answers : List (Answer α)) : List α :=
  answers.flatMap Answer.items

/-- The answer that hands out the item with a number instead of the number. -/
def Answer.withItems (items : List α) : Answer Nat → Answer α
  | handsOut number => handsOut (number.bind (items[·]?))
  | isFree answer => isFree answer
  | lists numbers => lists numbers

/-- The answer of a cursor, and the cursor after it. -/
def answer (c : Cursor α) : Request → Answer α × Cursor α
  | .next => (.handsOut c.next.1, c.next.2)
  | .take i => (.handsOut (c.take i).1, (c.take i).2)
  | .isAvailable i => (.isFree (c.isAvailable i), c)
  | .unconsumed => (.lists c.unconsumed, c)

/-- The answer of a set of free numbers, and the set after it. The smallest number comes next, and a
number that is handed out is no longer free. -/
def answerFree (free : Finset Nat) : Request → Answer Nat × Finset Nat
  | .next =>
    if h : free.Nonempty then (.handsOut (some (free.min' h)), free.erase (free.min' h))
    else (.handsOut none, free)
  | .take i =>
    if 0 ≤ i ∧ i.toNat ∈ free then (.handsOut (some i.toNat), free.erase i.toNat)
    else (.handsOut none, free)
  | .isAvailable i => (.isFree (0 ≤ i ∧ i.toNat ∈ free), free)
  | .unconsumed => (.lists (free.sort (· ≤ ·)), free)

/-- The answers to requests in a row, each of them given in the state after the one before. -/
def run (answer : σ → Request → Answer α × σ) : σ → List Request → List (Answer α) × σ
  | s, [] => ([], s)
  | s, request :: requests =>
    let first := answer s request
    let more := run answer first.2 requests
    (first.1 :: more.1, more.2)

/-! ## Sets of free numbers -/

/-- The numbers below a bound that have not been taken. -/
def freeNumbers (bound : Nat) (taken : List Nat) : Finset Nat :=
  (Finset.range bound).filter (· ∉ taken)

/-- A number is free if it is below the bound and has not been taken. -/
theorem mem_free_numbers {bound i : Nat} {taken : List Nat} :
    i ∈ freeNumbers bound taken ↔ i < bound ∧ i ∉ taken := by
  rw [freeNumbers, Finset.mem_filter, Finset.mem_range]

/-- At first all numbers are free. -/
theorem free_numbers_nil (bound : Nat) : freeNumbers bound [] = Finset.range bound := by
  ext i
  rw [mem_free_numbers, Finset.mem_range]
  simp

/-- Only a free number is handed out. -/
theorem mem_of_mem_answer_free {free : Finset Nat} {request : Request} {i : Nat}
    (h : i ∈ (answerFree free request).1.items) : i ∈ free := by
  cases request with
  | next =>
      rw [answerFree] at h
      by_cases hfree : free.Nonempty
      · rw [dif_pos hfree] at h
        rw [List.mem_singleton.mp h]
        exact free.min'_mem hfree
      · rw [dif_neg hfree] at h
        cases h
  | take j =>
      rw [answerFree] at h
      by_cases hfree : 0 ≤ j ∧ j.toNat ∈ free
      · rw [if_pos hfree] at h
        rw [List.mem_singleton.mp h]
        exact hfree.2
      · rw [if_neg hfree] at h
        cases h
  | isAvailable j => cases h
  | unconsumed => cases h

/-- What is handed out is no longer free, and all else stays free. -/
theorem mem_answer_free (free : Finset Nat) (request : Request) (i : Nat) :
    i ∈ (answerFree free request).2 ↔ i ∈ free ∧ i ∉ (answerFree free request).1.items := by
  have herase (j : Nat) : i ∈ free.erase j ↔ i ∈ free ∧ i ∉ [j] := by
    rw [Finset.mem_erase, List.mem_singleton, and_comm]
  have hsame : i ∈ free ↔ i ∈ free ∧ i ∉ ([] : List Nat) := by
    simp
  cases request with
  | next =>
      rw [answerFree]
      by_cases hfree : free.Nonempty
      · rw [dif_pos hfree]
        exact herase _
      · rw [dif_neg hfree]
        exact hsame
  | take j =>
      rw [answerFree]
      by_cases hfree : 0 ≤ j ∧ j.toNat ∈ free
      · rw [if_pos hfree]
        exact herase _
      · rw [if_neg hfree]
        exact hsame
  | isAvailable j => exact hsame
  | unconsumed => exact hsame

/-- An answer hands out at most one item. -/
theorem Answer.nodup_items (answer : Answer α) : answer.items.Nodup := by
  cases answer with
  | handsOut item => cases item <;> simp [items]
  | isFree => exact List.nodup_nil
  | lists => exact List.nodup_nil

/-- The numbers that are handed out in a row were free, and each of them is handed out once. -/
theorem handed_out_run (requests : List Request) (free : Finset Nat) :
    (handedOut (run answerFree free requests).1).Nodup ∧
      ∀ i ∈ handedOut (run answerFree free requests).1, i ∈ free := by
  induction requests generalizing free with
  | nil => exact ⟨List.nodup_nil, fun _ h => absurd h List.not_mem_nil⟩
  | cons request requests ih =>
      obtain ⟨hnodup, hmem⟩ := ih (answerFree free request).2
      show ((answerFree free request).1.items ++
          handedOut (run answerFree (answerFree free request).2 requests).1).Nodup ∧
        ∀ i ∈ (answerFree free request).1.items ++
          handedOut (run answerFree (answerFree free request).2 requests).1, i ∈ free
      refine ⟨List.nodup_append.mpr ⟨Answer.nodup_items _, hnodup, ?_⟩, ?_⟩
      · -- What comes later was still free after the first answer.
        intro i hi j hj heq
        subst heq
        exact ((mem_answer_free free request i).mp (hmem i hj)).2 hi
      · intro i hi
        rcases List.mem_append.mp hi with hfirst | hmore
        · exact mem_of_mem_answer_free hfirst
        · exact ((mem_answer_free free request i).mp (hmem i hmore)).1

/-! ## One request -/

variable (items : List α) (taken : List Nat)

/-- The numbers that are left are the free ones in increasing order. -/
theorem unconsumed_eq_sort :
    (afterTaking items taken).unconsumed =
      (freeNumbers items.length taken).sort (· ≤ ·) := by
  have hsorted := (List.pairwise_le_range (n := items.length)).filter
    fun i => decide (i ∉ taken)
  have hnodup := (List.nodup_range (n := items.length)).filter fun i => decide (i ∉ taken)
  have hset : freeNumbers items.length taken =
      ((List.range items.length).filter fun i => decide (i ∉ taken)).toFinset := by
    ext i
    rw [mem_free_numbers, List.mem_toFinset, List.mem_filter, List.mem_range, decide_eq_true_iff]
  rw [unconsumed_after_taking, hset]
  exact ((List.toFinset_sort (· ≤ ·) hnodup).mpr hsorted).symm

/-- An item can be taken if its number is free. -/
theorem free?_eq_some_of_mem {i : Nat} (h : i ∈ freeNumbers items.length taken) :
    ∃ item, items[i]? = some item ∧ (afterTaking items taken).free? i = some item := by
  obtain ⟨hlt, hnot⟩ := mem_free_numbers.mp h
  refine ⟨items[i], List.getElem?_eq_getElem hlt, ?_⟩
  rw [free?_after_taking, if_neg hnot, List.getElem?_eq_getElem hlt]

/-- No item can be taken if its number is not free. -/
theorem free?_eq_none_of_not_mem {i : Nat} (h : i ∉ freeNumbers items.length taken) :
    (afterTaking items taken).free? i = none := by
  rw [free?_after_taking]
  by_cases htaken : i ∈ taken
  · rw [if_pos htaken]
  · rw [if_neg htaken]
    refine List.getElem?_eq_none (Nat.le_of_not_lt fun hlt => ?_)
    exact h (mem_free_numbers.mpr ⟨hlt, htaken⟩)

/-- A free number is handed out and taken. -/
theorem take_of_mem {i : Nat} (h : i ∈ freeNumbers items.length taken) :
    (afterTaking items taken).take i = (items[i]?, afterTaking items (taken ++ [i])) := by
  obtain ⟨item, hitem, hfree⟩ := free?_eq_some_of_mem items taken h
  rw [hitem]
  exact take_after_taking items taken hfree

/-- An item is available if its number is free. -/
theorem is_available_after_taking (i : Int) :
    (afterTaking items taken).isAvailable i =
      decide (0 ≤ i ∧ i.toNat ∈ freeNumbers items.length taken) := by
  cases i with
  | ofNat i =>
      show ((afterTaking items taken).free? i).isSome = _
      by_cases hfree : i ∈ freeNumbers items.length taken
      · obtain ⟨item, _, hitem⟩ := free?_eq_some_of_mem items taken hfree
        rw [hitem, decide_eq_true ⟨Int.natCast_nonneg i, hfree⟩]
        rfl
      · rw [free?_eq_none_of_not_mem items taken hfree, decide_eq_false fun h => hfree h.2]
        rfl
  | negSucc i =>
      rw [decide_eq_false fun h => (Int.negSucc_not_nonneg i).mp h.1]
      rfl

/-- The smallest free number is the first one that is left. -/
theorem unconsumed_eq_cons (h : (freeNumbers items.length taken).Nonempty) :
    ∃ more, (afterTaking items taken).unconsumed =
      (freeNumbers items.length taken).min' h :: more := by
  have hlist := unconsumed_eq_sort items taken
  have hsorted := (freeNumbers items.length taken).pairwise_sort (· ≤ ·)
  have hmem (i : Nat) := Finset.mem_sort (s := freeNumbers items.length taken) (· ≤ ·) (a := i)
  rw [← hlist] at hsorted
  simp only [← hlist] at hmem
  cases hleft : (afterTaking items taken).unconsumed with
  | nil =>
      obtain ⟨i, hi⟩ := h
      have hnone := (hmem i).mpr hi
      rw [hleft] at hnone
      cases hnone
  | cons i more =>
      rw [hleft] at hsorted hmem
      have hmin : (freeNumbers items.length taken).min' h = i := by
        rw [Finset.min'_eq_iff]
        refine ⟨(hmem i).mp List.mem_cons_self, ?_⟩
        intro j hj
        rcases List.mem_cons.mp ((hmem j).mpr hj) with heq | hmore
        · exact heq.ge
        · exact (List.pairwise_cons.mp hsorted).1 j hmore
      exact ⟨more, by rw [hmin]⟩

/-- A cursor gives the same answer as the set of its free numbers, and what it hands out is taken
from then on. -/
theorem answer_after_taking (request : Request) :
    (afterTaking items taken).answer request =
      ((answerFree (freeNumbers items.length taken) request).1.withItems items,
        afterTaking items
          (taken ++ (answerFree (freeNumbers items.length taken) request).1.items)) := by
  have hsame : afterTaking items taken = afterTaking items (taken ++ []) := by
    rw [List.append_nil]
  cases request with
  | next =>
      rw [answerFree]
      by_cases hfree : (freeNumbers items.length taken).Nonempty
      · obtain ⟨more, hleft⟩ := unconsumed_eq_cons items taken hfree
        rw [dif_pos hfree, answer, (settled_after_taking items taken).next_of_cons hleft,
          take_of_mem items taken (Finset.min'_mem _ hfree)]
        rfl
      · have hleft : (afterTaking items taken).unconsumed = [] := by
          rw [unconsumed_eq_sort, Finset.not_nonempty_iff_eq_empty.mp hfree, Finset.sort_empty]
        rw [dif_neg hfree, answer, (settled_after_taking items taken).next_of_nil hleft]
        exact congrArg _ hsame
  | take i =>
      rw [answerFree]
      cases i with
      | ofNat i =>
          by_cases hfree : i ∈ freeNumbers items.length taken
          · rw [if_pos ⟨Int.natCast_nonneg i, hfree⟩]
            show (Answer.handsOut ((afterTaking items taken).take i).1,
              ((afterTaking items taken).take i).2) = _
            rw [take_of_mem items taken hfree]
            rfl
          · rw [if_neg fun h => hfree h.2]
            show (Answer.handsOut ((afterTaking items taken).take i).1,
              ((afterTaking items taken).take i).2) = _
            rw [take_of_is_none (free?_eq_none_of_not_mem items taken hfree)]
            exact congrArg _ hsame
      | negSucc i =>
          rw [if_neg fun h => (Int.negSucc_not_nonneg i).mp h.1]
          exact congrArg _ hsame
  | isAvailable i =>
      rw [answer, is_available_after_taking]
      exact congrArg _ hsame
  | unconsumed =>
      show (Answer.lists (afterTaking items taken).unconsumed, afterTaking items taken) = _
      rw [unconsumed_eq_sort]
      exact congrArg _ hsame

/-- The set after a request is that of the numbers that have not been taken by then. -/
theorem answer_free_free_numbers (bound : Nat) (request : Request) :
    (answerFree (freeNumbers bound taken) request).2 =
      freeNumbers bound
        (taken ++ (answerFree (freeNumbers bound taken) request).1.items) := by
  ext i
  rw [mem_answer_free, mem_free_numbers, mem_free_numbers, List.mem_append, not_or, and_assoc]

/-! ## Requests in a row -/

/-- A cursor answers requests in a row as the set of its free numbers does. -/
theorem run_after_taking (requests : List Request) :
    run answer (afterTaking items taken) requests =
        ((run answerFree (freeNumbers items.length taken) requests).1.map
            (Answer.withItems items),
          afterTaking items
            (taken ++ handedOut
              (run answerFree (freeNumbers items.length taken) requests).1)) ∧
      (run answerFree (freeNumbers items.length taken) requests).2 =
        freeNumbers items.length
          (taken ++ handedOut
            (run answerFree (freeNumbers items.length taken) requests).1) := by
  induction requests generalizing taken with
  | nil =>
      show (([] : List (Answer α)), afterTaking items taken) =
          ([], afterTaking items (taken ++ [])) ∧
        freeNumbers items.length taken = freeNumbers items.length (taken ++ [])
      rw [List.append_nil]
      exact ⟨rfl, rfl⟩
  | cons request requests ih =>
      have hanswer := answer_after_taking items taken request
      have hfree := answer_free_free_numbers taken items.length request
      generalize hfirst : answerFree (freeNumbers items.length taken) request = first
        at hanswer hfree
      obtain ⟨hrun, hafter⟩ := ih (taken ++ first.1.items)
      rw [← hfree] at hrun hafter
      have hset : run answerFree (freeNumbers items.length taken) (request :: requests) =
          (first.1 :: (run answerFree first.2 requests).1,
            (run answerFree first.2 requests).2) := by
        rw [run, hfirst]
      have hhanded : taken ++ handedOut (first.1 :: (run answerFree first.2 requests).1) =
          taken ++ first.1.items ++ handedOut (run answerFree first.2 requests).1 := by
        rw [List.append_assoc]
        rfl
      rw [hset, hhanded, run, hanswer, hrun]
      exact ⟨rfl, hafter⟩

/-- Every item has been taken or is left. -/
theorem consumed_add_length_unconsumed :
    (afterTaking items taken).consumed + (afterTaking items taken).unconsumed.length =
      items.length := by
  have hcount := List.length_eq_countP_add_countP (fun i => decide (i ∈ taken))
    (l := List.range items.length)
  simp only [List.length_range, decide_eq_true_iff] at hcount
  rw [consumed_after_taking, unconsumed_after_taking, ← List.countP_eq_length_filter]
  exact hcount.symm

/-- As many items are left as numbers are free. -/
theorem remaining_after_taking :
    (afterTaking items taken).remaining = (freeNumbers items.length taken).card := by
  have hcount := consumed_add_length_unconsumed items taken
  rw [unconsumed_eq_sort, Finset.length_sort] at hcount
  rw [remaining, size_after_taking]
  omega

/-- A cursor behaves as a set of free numbers. Let requests be put to a cursor over some items, and
to the set of the numbers of all items. The answers are the same, with the item in the place of its
number, the numbers that are left are those that are free, in increasing order, the items that have
been taken and those that remain are all items, and the cursor is exhausted exactly if no number is
free. No number is handed out twice, and those that are free are those that were not handed out. -/
theorem run_of_list (items : List α) (requests : List Request) :
    let cursor := run answer (ofList items) requests
    let free := run answerFree (Finset.range items.length) requests
    cursor.1 = free.1.map (Answer.withItems items) ∧
      cursor.2.unconsumed = free.2.sort (· ≤ ·) ∧
      cursor.2.size = items.length ∧
      cursor.2.consumed + cursor.2.remaining = cursor.2.size ∧
      cursor.2.remaining = free.2.card ∧
      (cursor.2.isExhausted = true ↔ free.2 = ∅) ∧
      (handedOut free.1).Nodup ∧
      (∀ i ∈ handedOut free.1, i < items.length) ∧
      ∀ i, i ∈ free.2 ↔ i < items.length ∧ i ∉ handedOut free.1 := by
  intro cursor free
  obtain ⟨hcursor, hfree⟩ := run_after_taking items [] requests
  obtain ⟨hnodup, hmem⟩ := handed_out_run requests (Finset.range items.length)
  rw [free_numbers_nil, List.nil_append] at hcursor hfree
  rw [← of_list_eq_after_taking] at hcursor
  have hfree : free.2 = freeNumbers items.length (handedOut free.1) := hfree
  have hanswers : cursor.1 = free.1.map (Answer.withItems items) := congrArg Prod.fst hcursor
  have hstate : cursor.2 = afterTaking items (handedOut free.1) := congrArg Prod.snd hcursor
  have hremaining := remaining_after_taking items (handedOut free.1)
  have hcount := consumed_add_length_unconsumed items (handedOut free.1)
  rw [unconsumed_eq_sort, Finset.length_sort, ← hremaining] at hcount
  rw [hstate, hfree, size_after_taking]
  refine ⟨hanswers, unconsumed_eq_sort _ _, rfl, hcount, hremaining, ?_, hnodup, ?_, ?_⟩
  · rw [isExhausted, beq_iff_eq, hremaining, Finset.card_eq_zero]
  · intro i hi
    exact Finset.mem_range.mp (hmem i hi)
  · intro i
    exact mem_free_numbers

-- The head is left behind by the second item and passes over it later.
example : (run answer (ofList "abc".toList)
    [.take 1, .next, .take 1, .take (-1), .next, .next, .unconsumed]).1 =
      [.handsOut (some 'b'), .handsOut (some 'a'), .handsOut none, .handsOut none,
        .handsOut (some 'c'), .handsOut none, .lists []] := by
  decide

end ElementMarkup.Cursor
