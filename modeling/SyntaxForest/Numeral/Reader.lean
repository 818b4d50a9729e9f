import SyntaxForest.Numeral.Binary64

/-!
# Reading decimal texts

A decimal text is an optional sign, digits with an optional point, and an optional exponent, or
one of the words for the values that are not finite. It is read as the nearest number.
-/

namespace SyntaxForest.Binary64

def ofDigits (digits : List Char) : Nat :=
  digits.foldl (fun n d => 10 * n + (d.toNat - '0'.toNat)) 0

/-- An optional sign in front of a text: whether it is a minus, and what follows. -/
def readSign : List Char → Bool × List Char
  | '-' :: rest => (true, rest)
  | '+' :: rest => (false, rest)
  | rest => (false, rest)

/-- The exponent that ends a text; nothing is zero. -/
def readExponent? : List Char → Option Int
  | [] => some 0
  | mark :: rest =>
    let (negative, digits) := readSign rest
    if mark.toLower ≠ 'e' ∨ digits = [] ∨ !digits.all Char.isDigit then none
    else some (if negative then -(ofDigits digits : Int) else ofDigits digits)

/-- The digits after a point, if there is one, and what follows them. -/
def readFraction : List Char → List Char × List Char
  | '.' :: rest => (rest.takeWhile Char.isDigit, rest.dropWhile Char.isDigit)
  | rest => ([], rest)

def readMagnitude? (negative : Bool) (cs : List Char) : Option Binary64 :=
  let whole := cs.takeWhile Char.isDigit
  let (fraction, rest) := readFraction (cs.dropWhile Char.isDigit)
  if whole = [] ∧ fraction = [] then none
  else
    (readExponent? rest).map fun exponent =>
      ofDecimal negative (ofDigits (whole ++ fraction)) (exponent - fraction.length)

def ofText? (s : String) : Option Binary64 :=
  let (negative, rest) := readSign s.toList
  match String.ofList (rest.map Char.toLower) with
  | "inf" | "infinity" => some (infinite negative)
  | "nan" => some notANumber
  | _ => readMagnitude? negative rest

end SyntaxForest.Binary64
