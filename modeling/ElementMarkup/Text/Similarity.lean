/-!
# Similar names

A name that is not known is answered with the known name most like it. The likeness of two texts
counts the characters of their longest common block and, recursively, of the blocks to its left
and to its right.
-/

namespace ElementMarkup.Text

/-- The length of the longest common start of two texts. -/
def commonStart : List Char → List Char → Nat
  | a :: as, b :: bs => if a = b then commonStart as bs + 1 else 0
  | _, _ => 0

/-- A block of characters that two texts share: where it starts in each, and its length. -/
structure SharedBlock where
  left : Nat
  right : Nat
  size : Nat
  deriving DecidableEq, Repr

/-- The shared blocks that start at position `left` of the first text, one for each position of
the second, in order. -/
def blocksAt (left : Nat) (as bs : List Char) : List SharedBlock :=
  (List.range bs.length).map fun right => ⟨left, right, commonStart as (bs.drop right)⟩

/-- The first of the longest blocks. -/
def longest (blocks : List SharedBlock) : SharedBlock :=
  blocks.foldl (fun best block => if best.size < block.size then block else best) ⟨0, 0, 0⟩

/-- The longest shared block, the earliest in the first text and then in the second. -/
def longestShared (as bs : List Char) : SharedBlock :=
  longest ((List.range as.length).flatMap fun left => blocksAt left (as.drop left) bs)

/-- The number of characters that two texts share, block by block. The blocks are sought for at
most `steps` levels of recursion; the length of the first text is enough. -/
def sharedCountWithin : Nat → List Char → List Char → Nat
  | 0, _, _ => 0
  | steps + 1, as, bs =>
    let block := longestShared as bs
    if block.size = 0 then 0
    else
      sharedCountWithin steps (as.take block.left) (bs.take block.right) + block.size +
        sharedCountWithin steps (as.drop (block.left + block.size))
          (bs.drop (block.right + block.size))

/-- The number of characters that two texts share, block by block. -/
def sharedCount (as bs : List Char) : Nat :=
  sharedCountWithin as.length as bs

/-- How much two texts are alike: twice the shared characters and the characters of both. Two empty
texts are wholly alike. -/
def likeness (as bs : List Char) : Nat × Nat :=
  if as.isEmpty && bs.isEmpty then (1, 1) else (2 * sharedCount as bs, as.length + bs.length)

/-- The likeness is at least three fifths. -/
def isClose (likeness : Nat × Nat) : Bool :=
  3 * likeness.2 ≤ 5 * likeness.1

/-- The known name most like the given one, if it is close. Of equally close names the greatest in
the order of strings wins. -/
def closestName? (name : String) (known : List String) : Option String :=
  let scored := known.map fun candidate => (likeness candidate.toList name.toList, candidate)
  let close := scored.filter fun entry => isClose entry.1
  let better (a b : (Nat × Nat) × String) : Bool :=
    let left := a.1.1 * b.1.2
    let right := b.1.1 * a.1.2
    left < right || (left == right && a.2 < b.2)
  let best := close.foldl
    (fun best entry =>
      match best with
      | none => some entry
      | some current => if better current entry then some entry else best)
    none
  best.map (·.2)

end ElementMarkup.Text
