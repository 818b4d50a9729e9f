import SyntaxForest.Node

/-!
# Prescribed texts

The texts that the format of printed expressions prescribes for what has no parts: numbers, string
literals, constants, operators and stars. They are written down here as in the table of the format,
apart from the printer, which comes by its texts in its own way.
-/

namespace SyntaxForest.Prescribed

/-- The text that the language has for a number. The two parts of a complex number stand in
parentheses, unless the real part is a zero without a minus sign and is left out. -/
def number : NumberValue → String
  | .integer value =>
    (if value < 0 then "-" else "") ++ String.ofList (Nat.toDigits 10 value.natAbs)
  | .real value => NumberLayout.alone.render value
  | .complex (.finite false 0 _) im => NumberLayout.part.render im ++ "j"
  | .complex re im =>
    "(" ++ NumberLayout.part.render re ++ NumberLayout.part.renderSigned im ++ "j)"

/-- The letters in front of a string literal. -/
def letters (flags : StringFlags) : String :=
  (if flags.raw then "r" else "") ++ (if flags.unicode then "u" else "") ++
    (if flags.bytes then "b" else "") ++ (if flags.format then "f" else "")

/-- The quotes on either side of a string literal. -/
def quotes (flags : StringFlags) : String :=
  match flags.triplicate, flags.singleQuote with
  | true, true => "'''"
  | true, false => "\"\"\""
  | false, true => "'"
  | false, false => "\""

def literal (t : StringToken) : String :=
  letters t.flags ++ quotes t.flags ++ t.escaped ++ quotes t.flags

def constant : Keyword → String
  | .trueWord => "True"
  | .falseWord => "False"
  | .debugWord => "__debug__"
  | .noneWord => "None"
  | _ => "<Expression>"

def symbols : List (Operator × String) :=
  [(.add, "+"), (.addEqual, "+="), (.assign, "="), (.bitwiseAnd, "&"), (.bitwiseAndEqual, "&="),
    (.bitwiseInvert, "~"), (.bitwiseOr, "|"), (.bitwiseOrEqual, "|="), (.bitwiseXor, "^"),
    (.bitwiseXorEqual, "^="), (.divide, "/"), (.divideEqual, "/="), (.equals, "=="),
    (.floorDivide, "//"), (.floorDivideEqual, "//="), (.greaterThan, ">"),
    (.greaterThanOrEqual, ">="), (.leftShift, "<<"), (.leftShiftEqual, "<<="), (.lessThan, "<"),
    (.lessThanOrEqual, "<="), (.matrixMultiply, "@"), (.matrixMultiplyEqual, "@="), (.mod, "%"),
    (.modEqual, "%="), (.multiply, "*"), (.multiplyEqual, "*="), (.notEquals, "!="),
    (.power, "**"), (.powerEqual, "**="), (.rightShift, ">>"), (.rightShiftEqual, ">>="),
    (.subtract, "-"), (.subtractEqual, "-="), (.conjunction, "and"), (.disjunction, "or"),
    (.negation, "not"), (.identity, "is"), (.nonIdentity, "is not"), (.membership, "in"),
    (.nonMembership, "not in")]

/-- The symbol of an operator. An operator that is not in the table is unknown. -/
def operator (operator : Option Operator) : String :=
  (operator.bind fun op => symbols.lookup op).getD "unknown"

def argumentStars : ArgumentCategory → String
  | .simple => ""
  | .unpackedList => "*"
  | .unpackedDictionary => "**"

def parameterStars : ParameterCategory → String
  | .simple => ""
  | .varArgList => "*"
  | .varArgDictionary => "**"

end SyntaxForest.Prescribed
