import SyntaxForest.Forest

/-!
# Runs

A run builds a forest from the empty one by a sequence of constructions, each of which takes its
children from the nodes that have been built before. Failed constructions belong to a run, too.
-/

namespace SyntaxForest

structure Request where
  hint : Hint
  shape : Shape Node

namespace Forest

/-- The forest after a construction, successful or not. -/
def perform (f : Forest) (request : Request) : Forest :=
  (f.construct request.hint request.shape).2

/-- The children of a construction are nodes of the forest. -/
def Accepts (f : Forest) (request : Request) : Prop :=
  ∀ c ∈ request.shape.children, f.node? c.id = some c

/-- One forest comes out of another one by a sequence of constructions. -/
inductive Run : Forest → List Request → Forest → Prop where
  | done (f : Forest) : Run f [] f
  | step {f g : Forest} {request : Request} {rest : List Request} :
      f.Accepts request → Run (f.perform request) rest g → Run f (request :: rest) g

end Forest

end SyntaxForest
