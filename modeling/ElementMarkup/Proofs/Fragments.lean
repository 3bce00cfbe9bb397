import ElementMarkup.Fragments
import ElementMarkup.Proofs.Placeholder
import Mathlib.Data.List.Infix

/-!
# Fragments and the marks between them

The fragments of a template are joined with the marks of its interpolations between them. A fragment
may end with the slash that a mark starts with, and it may go on like a mark whose first slash is
the last one of the mark before it. As long as no fragment holds a slash and a tilde in a row, the
text is still cut at the marks that were put in and nowhere else. Main statement: `split_join`.
-/

namespace ElementMarkup.Fragments

open Placeholder

/-- A fragment with others after it is followed by the mark with its number. -/
theorem join_from_cons_cons (index count : Nat) (first next : String) (more : List String) :
    joinFrom index (index + (count + 1)) (first :: next :: more) =
      first.toList ++ (token index ++ joinFrom (index + 1) (index + 1 + count) (next :: more)) := by
  have hcount : index + (count + 1) = index + 1 + count := by omega
  rw [joinFrom, if_pos (by omega), hcount, List.append_assoc]

/-- The last fragment is followed by nothing. -/
theorem join_from_singleton (index : Nat) (last : String) :
    joinFrom index index [last] = last.toList := by
  rw [joinFrom, if_neg (Nat.lt_irrefl index), joinFrom, List.append_nil, List.append_nil]

/-- The fragments after the first one, each with the digits of the mark in front of it. -/
def marked (index : Nat) (more : List String) : List (List Char × List Char) :=
  (more.zipIdx index).map fun (fragment, i) => (Nat.toDigits 10 i, fragment.toList)

/-- The joined fragments are cut at the marks between them. -/
theorem split_join_from (index : Nat) (first : String) (more : List String)
    (h : ∀ fragment ∈ first :: more, ¬ ['/', '~'] <:+: fragment.toList) :
    split (joinFrom index (index + more.length) (first :: more)) =
      ⟨first.toList, marked index more⟩ := by
  obtain ⟨hfirst, hmore⟩ := List.forall_mem_cons.mp h
  induction more generalizing index first with
  | nil =>
      show split (joinFrom index index [first]) = _
      have hend : split [] = ⟨[], []⟩ := by rw [split]
      have hnil : ([] : List Char).head? ≠ some '~' := by simp
      have hcut := split_append hfirst hnil
      rw [List.append_nil, hend, List.append_nil] at hcut
      rw [join_from_singleton, hcut]
      rfl
  | cons next more ih =>
      obtain ⟨hnext, hrest⟩ := List.forall_mem_cons.mp hmore
      -- A mark starts with a slash, so that it completes nothing that the fragment begins.
      have hslash (rest : List Char) : (token index ++ rest).head? ≠ some '~' := by
        show some '/' ≠ some '~'
        decide
      rw [List.length_cons, join_from_cons_cons, split_append hfirst (hslash _), split_token,
        ih (index + 1) next hmore hnext hrest, List.append_nil]
      rfl

/-- The marks of the joined fragments are found where they were put in: behind the fragments up to
the one with the same number, and the marks between these. -/
theorem marks_from_marked (index start : Nat) (first : String) (more : List String) :
    marksFrom start first.toList (marked index more) =
      (List.range more.length).map fun i =>
        let place := start + (joinFrom index (index + i) ((first :: more).take (i + 1))).length
        (place, place + (token (index + i : Nat)).length, Nat.toDigits 10 (index + i)) := by
  have htoken (n : Nat) : (token n).length = (Nat.toDigits 10 n).length + 4 := by
    show ('/' :: '~' :: (Nat.toDigits 10 n ++ ['~', '/'])).length = _
    simp
  induction more generalizing index start first with
  | nil => rfl
  | cons next more ih =>
      have hmarked : marked index (next :: more) =
          (Nat.toDigits 10 index, next.toList) :: marked (index + 1) more := rfl
      rw [hmarked, marksFrom, ih, List.length_cons, List.range_succ_eq_map, List.map_cons,
        List.map_map]
      refine List.cons_eq_cons.mpr ⟨?_, List.map_congr_left fun i _ => ?_⟩
      · simp only [List.take_succ_cons, List.take_zero, Nat.add_zero, join_from_singleton, htoken,
          Nat.add_assoc]
      · have hindex : index + 1 + i = index + (i + 1) := by omega
        simp only [Function.comp_apply, List.take_succ_cons, join_from_cons_cons,
          List.length_append, htoken, hindex, Nat.succ_eq_add_one, Nat.add_assoc]

/-- Joined fragments can be told apart again. If no fragment holds a slash and a tilde in a row,
then the text with a mark between each two of them is cut into the fragments and the numbers from
zero on, and the marks in it are those that were put in, each of them at its place. -/
theorem split_join (first : String) (more : List String)
    (h : ∀ fragment ∈ first :: more, ¬ ['/', '~'] <:+: fragment.toList) :
    split (join (first :: more) more.length) =
      ⟨first.toList,
        more.zipIdx.map fun (fragment, i) => (Nat.toDigits 10 i, fragment.toList)⟩ ∧
    find (join (first :: more) more.length) =
      (List.range more.length).map fun i =>
        let start := (join ((first :: more).take (i + 1)) i).length
        (start, start + (token i).length, Nat.toDigits 10 i) := by
  have hsplit := split_join_from 0 first more h
  rw [Nat.zero_add] at hsplit
  refine ⟨hsplit, ?_⟩
  rw [find, join, hsplit, marks_from_marked]
  simp only [Nat.zero_add]
  rfl

/-- Fragments that go on like a mark, or end as one starts, next to the marks of their own. -/
theorem split_join_touching :
    split "a//~0~/~5~//~1~//".toList =
      ⟨['a', '/'], [(['0'], "~5~/".toList), (['1'], ['/'])]⟩ ∧
    find "a//~0~/~5~//~1~//".toList = [(2, 7, ['0']), (11, 16, ['1'])] :=
  split_join "a/" ["~5~/", "/"] (by decide)

end ElementMarkup.Fragments
