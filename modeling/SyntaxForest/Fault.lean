import SyntaxForest.Diagnostic

/-!
# Causes of malformed spans and line indices

Spans and line indices are refused for three causes. Each cause has one diagnostic.
-/

namespace SyntaxForest

inductive Fault where
  | negativeStart (start : Int)
  | negativeLength (start length : Int)
  | unorderedLines (previousStop start : Int)
deriving DecidableEq, Repr

namespace Fault

/-- The fault of a span that is refused: the start is looked at before the length. -/
def ofRange (start length : Int) : Fault :=
  if start < 0 then negativeStart start else negativeLength start length

/-- The offset that a fault is reported at. -/
def offset : Fault → Int
  | negativeStart start => start
  | negativeLength start _ => start
  | unorderedLines _ start => start

def code : Fault → String
  | negativeStart _ => "R001"
  | negativeLength _ _ => "R002"
  | unorderedLines _ _ => "R003"

def message : Fault → String
  | negativeStart start => "Range start must not be negative, got " ++ toString start
  | negativeLength _ length => "Range length must not be negative, got " ++ toString length
  | unorderedLines previousStop start =>
    "Line starting at " ++ toString start ++ " begins before the previous line ends at " ++
      toString previousStop

def help : Fault → String
  | negativeStart _ =>
    "Offsets are measured from the beginning of the file and start at zero."
  | negativeLength _ _ => "A range covers the text from its start up to start + length."
  | unorderedLines _ _ => "Line ranges must be sorted and must not overlap."

def suggestions? : Fault → Option (List String)
  | unorderedLines _ _ => some ["Build the line index with build_line_ranges()"]
  | _ => none

def diagnostic (fault : Fault) : Diagnostic :=
  .error fault.message fault.offset (some fault.code) (some fault.help) fault.suggestions?

end Fault

end SyntaxForest
