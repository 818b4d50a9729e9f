import Mathlib.Data.List.Basic
import Mathlib.Data.List.ReduceOption
import SyntaxForest.Node.Walk
import SyntaxForest.Proofs.Descendants

/-!
# Visits

The walk with a stack shows the nodes below those on the stack in the order of the recursive walk.
A walk that enters every node lists the tree with parents before children.
-/

namespace SyntaxForest.Node

/-- The nodes that a walk shows to a visitor that enters all of them, in the order of the visits. -/
def visited (n : Node) : List Node :=
  (n.walk (Visitor.record fun _ => true) #[]).toList

/-- A node with everything below it, parents before children. A shared node is listed each time it
is reached. -/
def preorder (n : Node) : List Node :=
  n :: n.children.attach.flatMap fun ⟨c, _⟩ => c.preorder
termination_by n
decreasing_by exact sizeOf_lt_of_mem_children ‹_›

lemma preorder_eq (n : Node) : n.preorder = n :: n.children.flatMap preorder := by
  rw [preorder]
  simp

lemma mem_preorder {n m : Node} : m ∈ n.preorder ↔ n.Reaches m := by
  induction n using Node.induction with
  | step n ih =>
    rw [preorder_eq, reaches_iff, List.mem_cons, List.mem_flatMap]
    apply or_congr_right
    constructor
    · rintro ⟨c, hc, hm⟩
      exact ⟨c, hc, (ih c hc).mp hm⟩
    · rintro ⟨c, hc, hm⟩
      exact ⟨c, hc, (ih c hc).mpr hm⟩

/-- A stack of nodes is worked off as one recursive walk after another. -/
theorem walkStack_eq_foldl {σ : Type} (visit : Visitor σ) (stack : List Node) (state : σ) :
    walkStack visit stack state = stack.foldl (fun state n => traverse visit n state) state := by
  fun_induction walkStack visit stack state with
  | case1 state => rfl
  | case2 n rest state enter next hvisit ih =>
    rw [dite_eq_ite] at ih
    rw [ih, List.foldl_cons, traverse_eq, hvisit]
    cases enter with
    | true => rw [if_pos rfl, if_pos rfl, List.foldl_append]
    | false => rw [if_neg Bool.false_ne_true, if_neg Bool.false_ne_true]

theorem walk_eq_traverse {σ : Type} (visit : Visitor σ) (n : Node) (state : σ) :
    n.walk visit state = n.traverse visit state := by
  rw [walk, walkStack_eq_foldl]
  rfl

/-- Walks from several nodes are walks one after another from those that are present. -/
theorem walkAll_eq_foldl {σ : Type} (visit : Visitor σ) (nodes : List (Option Node)) (state : σ) :
    walkAll visit nodes state =
      nodes.reduceOption.foldl (fun state n => n.traverse visit state) state := by
  induction nodes generalizing state with
  | nil => rfl
  | cons slot rest ih =>
    cases slot with
    | none => exact ih state
    | some n =>
      rw [List.reduceOption_cons_of_some, List.foldl_cons, ← walk_eq_traverse]
      exact ih (n.walk visit state)

/-- A recursive walk that enters every node goes through the nodes in preorder. -/
lemma traverse_of_enters {σ : Type} {visit : Visitor σ}
    (h : ∀ n state, (visit n state).1 = true) (n : Node) (state : σ) :
    traverse visit n state = n.preorder.foldl (fun state m => (visit m state).2) state := by
  induction n using Node.induction generalizing state with
  | step n ih =>
    rw [traverse_eq, if_pos (h n state), preorder_eq, List.foldl_cons, List.foldl_flatMap]
    exact List.foldl_ext _ _ _ fun state c hc => ih c hc state

theorem walk_of_enters {σ : Type} {visit : Visitor σ}
    (h : ∀ n state, (visit n state).1 = true) (n : Node) (state : σ) :
    n.walk visit state = n.preorder.foldl (fun state m => (visit m state).2) state := by
  rw [walk_eq_traverse, traverse_of_enters h]

theorem visited_eq_preorder (n : Node) : n.visited = n.preorder := by
  rw [visited, walk_of_enters fun _ _ => rfl]
  simp [Visitor.record]

lemma mem_visited {n m : Node} : m ∈ n.visited ↔ n.Reaches m := by
  rw [visited_eq_preorder, mem_preorder]

end SyntaxForest.Node
