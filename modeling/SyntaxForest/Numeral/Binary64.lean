/-!
# Double-precision numbers

The numbers of the binary64 format: a sign and a multiple of a power of two, or one of the values
that are not finite. Exact rationals connect them with their decimal texts.
-/

namespace SyntaxForest

/-- A finite number has a significand below `2 ^ 53` and an exponent of at least `-1074`; the
significand is at least `2 ^ 52` unless the exponent is the least one. -/
inductive Binary64 where
  | finite (negative : Bool) (significand : Nat) (exponent : Int)
  | infinite (negative : Bool)
  | notANumber
deriving DecidableEq, Repr

namespace Binary64

/-- The least significand of 53 bits. -/
def hiddenBit : Nat := 1 <<< 52

/-- The exponent of zero and of the numbers next to it. -/
def leastExponent : Int := -1074

/-- The exponent of the largest finite numbers. -/
def greatestExponent : Int := 971

/-- A whole number next to a rational: the nearer one, and the even one of two that are equally
near. -/
def roundToEven (r : Rat) : Int :=
  let below := r.floor
  let rest := r - below
  if rest < 1 / 2 ∨ (rest = 1 / 2 ∧ below % 2 = 0) then below else below + 1

/-- The exponent at which a positive rational has a significand of 53 bits, unless it is too
small. -/
def exponentOf (r : Rat) : Int :=
  let estimate : Int := (Nat.log2 r.num.natAbs : Int) - Nat.log2 r.den - 52
  let exponent := if r / 2 ^ estimate < hiddenBit then estimate - 1 else estimate
  max exponent leastExponent

/-- The number nearest to a rational that is not negative, with ties to the even significand. -/
def ofMagnitude (negative : Bool) (r : Rat) : Binary64 :=
  if r = 0 then finite negative 0 leastExponent
  else
    let exponent := exponentOf r
    let significand := (roundToEven (r / 2 ^ exponent)).toNat
    let (significand, exponent) :=
      if significand = 2 * hiddenBit then (hiddenBit, exponent + 1) else (significand, exponent)
    if exponent ≤ greatestExponent then finite negative significand exponent
    else infinite negative

/-- How many decimal digits a number has; zero has none. -/
def decimalWidth (n : Nat) : Nat :=
  if n = 0 then 0 else (Nat.toDigits 10 n).length

/-- The number nearest to `digits * 10 ^ exponent`. Decimals far outside the range of the format
are decided by their width, before any power is computed. -/
def ofDecimal (negative : Bool) (digits : Nat) (exponent : Int) : Binary64 :=
  let magnitude : Int := decimalWidth digits + exponent
  if digits = 0 ∨ magnitude < -330 then finite negative 0 leastExponent
  else if 310 < magnitude then infinite negative
  else ofMagnitude negative (digits * 10 ^ exponent)

/-- The sign of a number; a value that is not a number has none. -/
def isNegative : Binary64 → Bool
  | finite negative _ _ => negative
  | infinite negative => negative
  | notANumber => false

def isZero : Binary64 → Bool
  | finite _ significand _ => significand == 0
  | _ => false

/-- What a number amounts to. The two zeros amount to the same. -/
inductive Amount where
  | finite (value : Rat)
  | infinite (negative : Bool)
deriving DecidableEq

def amount? : Binary64 → Option Amount
  | finite negative significand exponent =>
    some (.finite ((if negative then -1 else 1) * significand * 2 ^ exponent))
  | infinite negative => some (.infinite negative)
  | notANumber => none

end Binary64

end SyntaxForest
