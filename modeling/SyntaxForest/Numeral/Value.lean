import SyntaxForest.Numeral.Layout

/-!
# Values of numeric literals

A literal denotes an integer of any size, a double-precision number, or a complex number with two
such parts.
-/

namespace SyntaxForest

inductive NumberValue where
  | integer (value : Int)
  | real (value : Binary64)
  | complex (re im : Binary64)
deriving DecidableEq, Repr

namespace NumberValue

/-- The text of a value. The real part of a complex number is left out if it is a zero without a
minus sign; otherwise both parts stand in parentheses. -/
def text : NumberValue → String
  | integer value => toString value
  | real value => NumberLayout.alone.render value
  | complex re im =>
    if re.isZero ∧ !re.isNegative then NumberLayout.part.render im ++ "j"
    else
      "(" ++ NumberLayout.part.render re ++ NumberLayout.part.renderSigned im ++ "j)"

/-- The real and imaginary amounts of a value, unless one is not a number. -/
def amounts? : NumberValue → Option (Binary64.Amount × Binary64.Amount)
  | integer value => some (.finite value, .finite 0)
  | real value => value.amount?.map (·, .finite 0)
  | complex re im =>
    match re.amount?, im.amount? with
    | some x, some y => some (x, y)
    | _, _ => none

/-- Equality of what two values amount to, across the three forms. A value with a part that is not
a number equals nothing, itself included. -/
def agrees (a b : NumberValue) : Bool :=
  match a.amounts?, b.amounts? with
  | some x, some y => x == y
  | _, _ => false

end NumberValue

end SyntaxForest
