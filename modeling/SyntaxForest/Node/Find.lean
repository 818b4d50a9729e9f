import SyntaxForest.LineIndex
import SyntaxForest.Node.Children

/-!
# Finding nodes by place

The search for the node at an offset goes down from a node to the first child whose span holds the
offset, as long as there is one. Spans hold both of their ends.
-/

namespace SyntaxForest.Node

/-- Goes down to a node none of whose children holds the offset. -/
def descend (offset : Int) (n : Node) : Node :=
  match _ : n.children.find? fun c => c.span.Contains offset with
  | some c => descend offset c
  | none => n
termination_by n
decreasing_by exact sizeOf_lt_of_mem_children (List.mem_of_find?_eq_some ‹_›)

/-- The node at an offset, at or below the given node. -/
def find? (n : Node) (offset : Int) : Option Node :=
  if n.span.Contains offset then some (n.descend offset) else none

/-- The node at a position, at or below the given node. -/
def findAt? (n : Node) (index : LineIndex) (p : Position) : Option Node := do
  n.find? (← index.offsetOf? p)

end SyntaxForest.Node
