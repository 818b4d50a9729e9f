import SyntaxForest.Node

/-!
# Descriptions of nodes

Short texts that tell the kind and the span of a node.
-/

namespace SyntaxForest.Node

def render (n : Node) : String :=
  n.kind.title ++ "@" ++ n.span.render

def className (n : Node) : String :=
  n.kind.title ++ "Node"

/-- The class of a node and its span, as an expression that names both. -/
def debugRender (n : Node) : String :=
  n.className ++ "(range=" ++ n.span.render ++ ")"

end SyntaxForest.Node
