import ElementMarkup.Compiler
import ElementMarkup.Proofs.Attempt

/-!
# How deep nodes nest

Without overrides a compilation goes down the tree and nowhere else, so how much room it has does
not matter as long as the levels of the tree fit into it (`compile_within_eq_of_height_le`).
-/

namespace ElementMarkup

namespace Markup

/-- The nodes right inside a node. -/
def inside : Markup → List Markup
  | block _ nodes => nodes
  | namedBlock _ _ nodes => nodes
  | tag _ _ _ _ children => children
  | included _ _ tree => [tree]
  | extended _ _ tree => [tree]
  | text _ _ => []
  | foreign _ _ => []

mutual

/-- How many levels of nodes stand below a node. -/
def height : Markup → Nat
  | block _ nodes => heightOf nodes
  | namedBlock _ _ nodes => heightOf nodes
  | tag _ _ _ _ children => heightOf children
  | included _ _ tree => height tree + 1
  | extended _ _ tree => height tree + 1
  | text _ _ => 0
  | foreign _ _ => 0

/-- How many levels of nodes a list of nodes has. -/
def heightOf : List Markup → Nat
  | [] => 0
  | node :: nodes => max (height node + 1) (heightOf nodes)

end

/-- The levels of a node of a list are among those of the list. -/
theorem height_lt_height_of {node : Markup} {nodes : List Markup} (h : node ∈ nodes) :
    node.height < heightOf nodes := by
  induction nodes with
  | nil => cases h
  | cons first nodes ih =>
      rw [heightOf]
      rcases List.mem_cons.mp h with rfl | hmem
      · omega
      · have hlt := ih hmem
        omega

/-- A node inside another one has fewer levels below it. -/
theorem height_lt_of_mem_inside {node inner : Markup} (h : inner ∈ node.inside) :
    inner.height < node.height := by
  cases node with
  | block _ nodes => exact height_lt_height_of h
  | namedBlock _ _ nodes => exact height_lt_height_of h
  | tag _ _ _ _ children => exact height_lt_height_of h
  | included _ _ tree =>
      obtain rfl := List.mem_singleton.mp h
      exact Nat.lt_succ_self _
  | extended _ _ tree =>
      obtain rfl := List.mem_singleton.mp h
      exact Nat.lt_succ_self _
  | text _ _ => cases h
  | foreign _ _ => cases h

end Markup

namespace Compiler

variable {ι : Type}

/-- Without overrides a node is compiled alike if the nodes inside it are. -/
theorem compile_step_congr (options : Options)
    {f g : Markup → Attempt (Workspace ι) (CallTree ι)} {node : Markup}
    (h : ∀ inner ∈ node.inside, f inner = g inner) :
    compileStep options (fun _ => none) f node = compileStep options (fun _ => none) g node := by
  have hinside : node.inside.mapM f = node.inside.mapM g :=
    Attempt.mapM_congr_of_mem h
  cases node with
  | block _ nodes => simp only [compileStep, show nodes.mapM f = nodes.mapM g from hinside]
  | namedBlock _ _ nodes => simp only [compileStep, show nodes.mapM f = nodes.mapM g from hinside]
  | tag _ _ _ _ children =>
      simp only [compileStep, show children.mapM f = children.mapM g from hinside]
  | included _ _ tree => exact h tree (List.mem_singleton_self tree)
  | extended _ _ tree => simp only [compileStep, h tree (List.mem_singleton_self tree)]
  | text _ _ => rfl
  | foreign _ _ => rfl

/-- Without overrides the room does not matter as long as the levels of the node fit into it. -/
theorem compile_within_eq_of_height_le (options : Options) {node : Markup} {room other : Nat}
    (hroom : node.height ≤ room) (hother : node.height ≤ other) :
    (compileWithin options (fun _ => none) room node : Attempt (Workspace ι) (CallTree ι)) =
      compileWithin options (fun _ => none) other node := by
  induction room generalizing node other with
  | zero =>
      -- Without levels below it the node has no nodes inside it.
      have hnone (inner : Markup) (hinner : inner ∈ node.inside) : False :=
        Nat.not_lt_zero _ (Nat.lt_of_lt_of_le (Markup.height_lt_of_mem_inside hinner) hroom)
      cases other with
      | zero => rfl
      | succ other => exact compile_step_congr options fun inner h => (hnone inner h).elim
  | succ room ih =>
      cases other with
      | zero =>
          refine compile_step_congr options fun inner h => ?_
          have hlt := Markup.height_lt_of_mem_inside h
          omega
      | succ other =>
          refine compile_step_congr options fun inner h => ih ?_ ?_
          · exact Nat.lt_succ_iff.mp (Nat.lt_of_lt_of_le (Markup.height_lt_of_mem_inside h) hroom)
          · exact Nat.lt_succ_iff.mp (Nat.lt_of_lt_of_le (Markup.height_lt_of_mem_inside h) hother)

end Compiler

end ElementMarkup
