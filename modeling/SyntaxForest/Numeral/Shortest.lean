import SyntaxForest.Numeral.Binary64

/-!
# Shortest decimals

The decimal with the fewest digits among those that read back as a given number. On the grid of
decimals of one width, only the two neighbours of the number can be the nearest that read back,
so it suffices to try these for one digit, two digits, and so on; seventeen digits are always
enough.
-/

namespace SyntaxForest.Binary64

/-- The rationals that are read as one number lie between two bounds, which themselves belong to
them or not. -/
structure ReadingInterval where
  low : Rat
  high : Rat
  closed : Bool

/-- The rationals that round to `significand * 2 ^ exponent`. Below a power of two the numbers lie
twice as dense. A tie goes to the even significand, so the bounds belong to it. -/
def readingInterval (significand : Nat) (exponent : Int) : ReadingInterval :=
  let quarter : Rat := 2 ^ (exponent - 2)
  let below : Rat := if significand = hiddenBit ∧ leastExponent < exponent then 1 else 2
  ⟨(4 * significand - below) * quarter, (4 * significand + 2) * quarter, significand % 2 = 0⟩

def ReadingInterval.Contains (i : ReadingInterval) (r : Rat) : Prop :=
  if i.closed then i.low ≤ r ∧ r ≤ i.high else i.low < r ∧ r < i.high

instance (i : ReadingInterval) (r : Rat) : Decidable (i.Contains r) := by
  unfold ReadingInterval.Contains
  infer_instance

/-- The decimal exponent of a positive rational: `10 ^ e ≤ r < 10 ^ (e + 1)`. -/
def decimalExponent (r : Rat) : Int :=
  if 1 ≤ r then decimalWidth r.floor.toNat - 1
  else -(decimalWidth ((1 / r).ceil.toNat - 1) : Int)

/-- The multiple of `10 ^ place` that reads back as `r`, if there is one: of two the nearer, and
of two that are equally near the even one. -/
def onGrid? (interval : ReadingInterval) (r : Rat) (place : Int) : Option Nat :=
  let unit : Rat := 10 ^ place
  let below := (r / unit).floor.toNat
  let lower := if interval.Contains (below * unit) then some below else none
  let upper := if interval.Contains ((below + 1) * unit) then some (below + 1) else none
  match lower, upper with
  | some _, some _ => some (roundToEven (r / unit)).toNat
  | some n, none => some n
  | none, other => other

/-- A decimal `d.ddd * 10 ^ exponent`, given by its digits. -/
structure Decimal where
  digits : List Char
  exponent : Int
deriving DecidableEq, Repr

/-- A multiple of a power of ten by its digits, without the zeros at its end. -/
def Decimal.ofMultiple (n : Nat) (place : Int) : Decimal :=
  let digits := Nat.toDigits 10 n
  ⟨(digits.reverse.dropWhile (· = '0')).reverse, place + digits.length - 1⟩

/-- The digits that suffice for every number. -/
def enoughDigits : Nat := 17

/-- The shortest decimal that reads back as a positive number. -/
def shortest (significand : Nat) (exponent : Int) : Decimal :=
  let r : Rat := significand * 2 ^ exponent
  let interval := readingInterval significand exponent
  let lead := decimalExponent r
  let attempt (width : Nat) : Option Decimal :=
    let place := lead - width
    (onGrid? interval r place).map (Decimal.ofMultiple · place)
  ((List.range enoughDigits).findSome? attempt).getD
    (.ofMultiple (r / 10 ^ (lead - enoughDigits)).floor.toNat (lead - enoughDigits))

end SyntaxForest.Binary64
