import SyntaxForest.Labelled

/-!
# Operators

The operators of expressions and the symbols that they are written with. The operator of an
augmented assignment is one of its own, whose symbol ends in the equals sign.
-/

namespace SyntaxForest

inductive Operator where
  | add | subtract | multiply | divide | floorDivide | mod | power | matrixMultiply
  | bitwiseAnd | bitwiseOr | bitwiseXor | bitwiseInvert | leftShift | rightShift
  | equals | notEquals | lessThan | lessThanOrEqual | greaterThan | greaterThanOrEqual
  | assign | addEqual | subtractEqual | multiplyEqual | divideEqual | floorDivideEqual | modEqual
  | powerEqual | matrixMultiplyEqual | bitwiseAndEqual | bitwiseOrEqual | bitwiseXorEqual
  | leftShiftEqual | rightShiftEqual
  | conjunction | disjunction | negation | identity | nonIdentity | membership | nonMembership
deriving DecidableEq, Repr

namespace Operator

def label : Operator → String
  | add => "ADD"
  | subtract => "SUBTRACT"
  | multiply => "MULTIPLY"
  | divide => "DIVIDE"
  | floorDivide => "FLOOR_DIVIDE"
  | mod => "MOD"
  | power => "POWER"
  | matrixMultiply => "MATRIX_MULTIPLY"
  | bitwiseAnd => "BITWISE_AND"
  | bitwiseOr => "BITWISE_OR"
  | bitwiseXor => "BITWISE_XOR"
  | bitwiseInvert => "BITWISE_INVERT"
  | leftShift => "LEFT_SHIFT"
  | rightShift => "RIGHT_SHIFT"
  | equals => "EQUALS"
  | notEquals => "NOT_EQUALS"
  | lessThan => "LESS_THAN"
  | lessThanOrEqual => "LESS_THAN_OR_EQUAL"
  | greaterThan => "GREATER_THAN"
  | greaterThanOrEqual => "GREATER_THAN_OR_EQUAL"
  | assign => "ASSIGN"
  | addEqual => "ADD_EQUAL"
  | subtractEqual => "SUBTRACT_EQUAL"
  | multiplyEqual => "MULTIPLY_EQUAL"
  | divideEqual => "DIVIDE_EQUAL"
  | floorDivideEqual => "FLOOR_DIVIDE_EQUAL"
  | modEqual => "MOD_EQUAL"
  | powerEqual => "POWER_EQUAL"
  | matrixMultiplyEqual => "MATRIX_MULTIPLY_EQUAL"
  | bitwiseAndEqual => "BITWISE_AND_EQUAL"
  | bitwiseOrEqual => "BITWISE_OR_EQUAL"
  | bitwiseXorEqual => "BITWISE_XOR_EQUAL"
  | leftShiftEqual => "LEFT_SHIFT_EQUAL"
  | rightShiftEqual => "RIGHT_SHIFT_EQUAL"
  | conjunction => "AND"
  | disjunction => "OR"
  | negation => "NOT"
  | identity => "IS"
  | nonIdentity => "IS_NOT"
  | membership => "IN"
  | nonMembership => "NOT_IN"

instance : Labelled Operator where
  all :=
    [.add, .subtract, .multiply, .divide, .floorDivide, .mod, .power, .matrixMultiply,
      .bitwiseAnd, .bitwiseOr, .bitwiseXor, .bitwiseInvert, .leftShift, .rightShift, .equals,
      .notEquals, .lessThan, .lessThanOrEqual, .greaterThan, .greaterThanOrEqual, .assign,
      .addEqual, .subtractEqual, .multiplyEqual, .divideEqual, .floorDivideEqual, .modEqual,
      .powerEqual, .matrixMultiplyEqual, .bitwiseAndEqual, .bitwiseOrEqual, .bitwiseXorEqual,
      .leftShiftEqual, .rightShiftEqual, .conjunction, .disjunction, .negation, .identity,
      .nonIdentity, .membership, .nonMembership]
  label := label

/-- The text of an operator between or before its operands. -/
def symbol : Operator → String
  | add => "+"
  | subtract => "-"
  | multiply => "*"
  | divide => "/"
  | floorDivide => "//"
  | mod => "%"
  | power => "**"
  | matrixMultiply => "@"
  | bitwiseAnd => "&"
  | bitwiseOr => "|"
  | bitwiseXor => "^"
  | bitwiseInvert => "~"
  | leftShift => "<<"
  | rightShift => ">>"
  | equals => "=="
  | notEquals => "!="
  | lessThan => "<"
  | lessThanOrEqual => "<="
  | greaterThan => ">"
  | greaterThanOrEqual => ">="
  | assign => "="
  | addEqual => "+="
  | subtractEqual => "-="
  | multiplyEqual => "*="
  | divideEqual => "/="
  | floorDivideEqual => "//="
  | modEqual => "%="
  | powerEqual => "**="
  | matrixMultiplyEqual => "@="
  | bitwiseAndEqual => "&="
  | bitwiseOrEqual => "|="
  | bitwiseXorEqual => "^="
  | leftShiftEqual => "<<="
  | rightShiftEqual => ">>="
  | conjunction => "and"
  | disjunction => "or"
  | negation => "not"
  | identity => "is"
  | nonIdentity => "is not"
  | membership => "in"
  | nonMembership => "not in"

/-- The text of an operator that may be unknown. -/
def text : Option Operator → String
  | some operator => operator.symbol
  | none => "unknown"

end Operator

end SyntaxForest
