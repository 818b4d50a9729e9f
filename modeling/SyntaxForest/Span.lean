import SyntaxForest.Fault

/-!
# Spans of text

A span covers the text from its start up to, not including, its stop. Both are offsets in code
points from the beginning of the text. Start and length are natural numbers, so that a span is
valid by construction; `Span.ofInts` checks the integers of a caller.
-/

namespace SyntaxForest

structure Span where
  start : Nat
  length : Nat
deriving DecidableEq, Repr, Inhabited

namespace Span

def stop (s : Span) : Nat :=
  s.start + s.length

/-- The span with the given start and length; the start is checked first. -/
def ofInts : Int → Int → Except Fault Span
  | .ofNat start, .ofNat length => .ok ⟨start, length⟩
  | start, length => .error (Fault.ofRange start length)

/-- An offset lies within a span also at its two ends. -/
def Contains (s : Span) (offset : Int) : Prop :=
  s.start ≤ offset ∧ offset ≤ s.stop

instance (s : Span) (offset : Int) : Decidable (s.Contains offset) :=
  inferInstanceAs (Decidable (_ ∧ _))

/-- The smallest span that covers both spans. -/
def extend (s t : Span) : Span :=
  ⟨min s.start t.start, max s.stop t.stop - min s.start t.start⟩

/-- The smallest span that covers all spans of a list, if there are any. -/
def cover? : List Span → Option Span
  | [] => none
  | s :: rest => some (rest.foldl extend s)

/-- One span ends before or where the other starts. -/
def Precedes (s t : Span) : Prop :=
  s.stop ≤ t.start

instance (s t : Span) : Decidable (s.Precedes t) :=
  inferInstanceAs (Decidable (_ ≤ _))

/-- The half-open interval that a span denotes. -/
def render (s : Span) : String :=
  "[" ++ toString s.start ++ ", " ++ toString s.stop ++ ")"

end Span

end SyntaxForest
