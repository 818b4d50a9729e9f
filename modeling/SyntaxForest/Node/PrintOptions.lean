import SyntaxForest.Labelled

/-!
# Options of printing

The choices that the text of an expression depends on besides the expression itself.
-/

namespace SyntaxForest

/-- The choices that a printed text depends on. -/
inductive PrintFlag where
  | forwardDeclarations
deriving DecidableEq, Repr

namespace PrintFlag

def label : PrintFlag → String
  | forwardDeclarations => "FORWARD_DECLARATIONS"

instance : Labelled PrintFlag where
  all := [.forwardDeclarations]
  label := label

end PrintFlag

/-- What is printed for string literals that stand for a type yet to be declared: the literals, or
the type. -/
structure PrintOptions where
  forward : Bool
deriving DecidableEq, Repr

end SyntaxForest
