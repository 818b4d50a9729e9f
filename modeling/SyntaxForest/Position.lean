/-!
# Positions

A line and a column, both counted from zero. A position of a caller may be negative; it then
stands for no place in any text.
-/

namespace SyntaxForest

structure Position where
  line : Int
  column : Int
deriving DecidableEq, Repr

namespace Position

/-- The text of a position counts lines and columns from one. -/
def render (p : Position) : String :=
  toString (p.line + 1) ++ ":" ++ toString (p.column + 1)

/-- The order of reading: by line, then by column. -/
def Precedes (p q : Position) : Prop :=
  p.line < q.line ∨ (p.line = q.line ∧ p.column < q.column)

instance (p q : Position) : Decidable (p.Precedes q) :=
  inferInstanceAs (Decidable (_ ∨ _))

end Position

end SyntaxForest
