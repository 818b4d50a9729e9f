import SyntaxForest.Numeral.Shortest

/-!
# Layout of numbers

How the digits of a number are laid out: where positional notation ends, how an exponent is
written, and what a whole number ends in.
-/

namespace SyntaxForest

structure NumberLayout where
  leastPositional : Int
  greatestPositional : Int
  exponentWidth : Nat
  wholeEnding : List Char

namespace NumberLayout

/-- A number on its own always shows a fraction when it is written positionally. -/
def alone : NumberLayout := ⟨-4, 15, 2, ['.', '0']⟩

/-- A part of a complex number shows a fraction only if it has one. -/
def part : NumberLayout := ⟨-4, 15, 2, []⟩

def zeros (n : Nat) : List Char :=
  List.replicate n '0'

/-- An exponent with its sign and at least the digits that the layout asks for. -/
def exponentText (layout : NumberLayout) (exponent : Int) : List Char :=
  let digits := Nat.toDigits 10 exponent.natAbs
  'e' :: (if exponent < 0 then '-' else '+') ::
    (zeros (layout.exponentWidth - digits.length) ++ digits)

/-- Digits with the point after the first of them. -/
def scientific (layout : NumberLayout) : List Char → Int → List Char
  | [], exponent => layout.exponentText exponent
  | [digit], exponent => digit :: layout.exponentText exponent
  | digit :: rest, exponent => digit :: '.' :: (rest ++ layout.exponentText exponent)

/-- Digits with the point in its place, filled up with zeros. -/
def positional (layout : NumberLayout) (digits : List Char) (exponent : Int) : List Char :=
  if exponent < 0 then '0' :: '.' :: (zeros (-exponent - 1).toNat ++ digits)
  else
    let whole := exponent.toNat + 1
    if digits.length ≤ whole then digits ++ zeros (whole - digits.length) ++ layout.wholeEnding
    else digits.take whole ++ '.' :: digits.drop whole

/-- A decimal in the notation that its exponent asks for. -/
def decimal (layout : NumberLayout) (d : Binary64.Decimal) : List Char :=
  if layout.leastPositional ≤ d.exponent ∧ d.exponent ≤ layout.greatestPositional then
    layout.positional d.digits d.exponent
  else layout.scientific d.digits d.exponent

def magnitude (layout : NumberLayout) : Binary64 → List Char
  | .finite _ significand exponent =>
    if significand = 0 then layout.positional ['0'] 0
    else layout.decimal (Binary64.shortest significand exponent)
  | .infinite _ => "inf".toList
  | .notANumber => "nan".toList

def render (layout : NumberLayout) (x : Binary64) : String :=
  String.ofList ((if x.isNegative then ['-'] else []) ++ layout.magnitude x)

/-- The text of a number that follows another one: it always shows a sign. -/
def renderSigned (layout : NumberLayout) (x : Binary64) : String :=
  String.ofList ((if x.isNegative then '-' else '+') :: layout.magnitude x)

end NumberLayout

end SyntaxForest
