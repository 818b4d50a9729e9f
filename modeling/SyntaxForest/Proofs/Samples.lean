import SyntaxForest.Node

/-!
# Sample nodes

What the examples beside the theorems are put together from: names and string literals without
flags at a given place, a list that has a child twice, and a statement without parts.
-/

namespace SyntaxForest

def nameAt (id start : Nat) (value : String) : NameNode :=
  ⟨⟨id, ⟨start, value.length⟩, .given⟩, .ofValue value start⟩

def stringAt (id start : Nat) (escaped : String) : StringNode :=
  ⟨⟨id, ⟨start, escaped.length + 2⟩, .given⟩,
    .ofEscaped escaped ⟨false, false, false, false, false, false⟩ start 0⟩

/-- The name that the forests of the examples begin with. -/
def firstName : Node :=
  .ofName (nameAt 0 0 "a")

/-- A list that has the first name twice. -/
def pairList : Node :=
  .mk ⟨1, ⟨0, 1⟩, .fitted⟩ (.list [firstName, firstName])

def bareReturn : Node :=
  .mk ⟨1, ⟨0, 0⟩, .fitted⟩ (.returnStatement none)

end SyntaxForest
