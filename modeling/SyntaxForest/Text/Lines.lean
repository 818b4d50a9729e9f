/-!
# Lines of a text

A line ends with a line feed, a carriage return, or both in this order, and holds its terminator.
What follows the last terminator is a line too, even if it is empty.
-/

namespace SyntaxForest.Text

/-- Puts a character in front of the first line. -/
def pushFront (c : Char) : List (List Char) → List (List Char)
  | [] => [[c]]
  | line :: rest => (c :: line) :: rest

/-- The lines of a text with their terminators. -/
def lines : List Char → List (List Char)
  | [] => [[]]
  | '\r' :: '\n' :: rest => ['\r', '\n'] :: lines rest
  | c :: rest => if c = '\n' ∨ c = '\r' then [c] :: lines rest else pushFront c (lines rest)

end SyntaxForest.Text
