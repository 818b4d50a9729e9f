import SyntaxForest.Node.Children

/-!
# Walks

A walk shows the nodes of a tree to a visitor, parents before children and siblings in the order of
the text. The visitor carries a state and decides after each node whether its children are entered.
The walk keeps the nodes still to be seen on a stack, so that its depth does not grow with the
tree; `traverse` is the same walk by recursion on the tree.
-/

namespace SyntaxForest

/-- What is done with a node in a state: whether its children are entered, and the new state. -/
abbrev Visitor (σ : Type) := Node → σ → Bool × σ

namespace Node

variable {σ : Type}

/-- Shows the nodes on a stack and below them to a visitor. -/
def walkStack (visit : Visitor σ) : List Node → σ → σ
  | [], state => state
  | n :: rest, state =>
    let (enter, state) := visit n state
    walkStack visit (if enter then n.children ++ rest else rest) state
termination_by stack => total (stack.map size)
decreasing_by
  have := size_eq n
  split <;> simp <;> omega

def walk (visit : Visitor σ) (n : Node) (state : σ) : σ :=
  walkStack visit [n] state

/-- Walks from one node after another; absent ones are passed over. -/
def walkAll (visit : Visitor σ) (nodes : List (Option Node)) (state : σ) : σ :=
  nodes.foldl (fun state n => n.elim state fun n => walk visit n state) state

/-- Shows a node, and then one child after another if they are entered, to a visitor. -/
def traverse (visit : Visitor σ) (n : Node) (state : σ) : σ :=
  let (enter, state) := visit n state
  if enter then n.children.attach.foldl (fun state ⟨c, _⟩ => traverse visit c state) state
  else state
termination_by n
decreasing_by exact sizeOf_lt_of_mem_children ‹_›

theorem traverse_eq (visit : Visitor σ) (n : Node) (state : σ) :
    traverse visit n state =
      if (visit n state).1 then
        n.children.foldl (fun state c => traverse visit c state) (visit n state).2
      else (visit n state).2 := by
  rw [traverse]
  simp

end Node

/-- The visitor that records the nodes it is shown and enters those that pass a test. -/
def Visitor.record (enter : Node → Bool) : Visitor (Array Node) :=
  fun n seen => (enter n, seen.push n)

end SyntaxForest
