import SyntaxForest.Position
import SyntaxForest.Span
import SyntaxForest.Text.Lines

/-!
# Line indices

The spans of the lines of a text, in order. A line index is built from a text, or from spans that
a caller gives, which may leave gaps but must not overlap.
-/

namespace SyntaxForest

structure LineIndex where
  spans : Array Span
  ordered : spans.toList.Pairwise Span.Precedes

/-- The cause for which a line is not found by its number. -/
inductive LookupFault where
  | outOfRange
deriving DecidableEq, Repr

def LookupFault.message : LookupFault → String
  | outOfRange => "list index out of range"

namespace LineIndex

/-- The first two neighbours of which the second starts before the first ends. -/
def firstOverlap? : List Span → Option (Span × Span)
  | s :: t :: rest => if s.Precedes t then firstOverlap? (t :: rest) else some (s, t)
  | _ => none

theorem pairwise_precedes_of_firstOverlap?_eq_none {spans : List Span}
    (h : firstOverlap? spans = none) : spans.Pairwise Span.Precedes := by
  induction spans with
  | nil => simp
  | cons s rest ih =>
    cases rest with
    | nil => simp
    | cons t rest =>
      by_cases hst : s.Precedes t
      · have hrest := ih (by simpa [firstOverlap?, hst] using h)
        refine List.pairwise_cons.2 ⟨fun u hu => ?_, hrest⟩
        rcases List.mem_cons.1 hu with rfl | hu
        · exact hst
        · have htu := (List.pairwise_cons.1 hrest).1 u hu
          simp only [Span.Precedes, Span.stop] at hst htu ⊢
          omega
      · simp [firstOverlap?, hst] at h

/-- The index of the given spans. The first two neighbours that overlap are reported. -/
def ofSpans (spans : List Span) : Except Fault LineIndex :=
  match h : firstOverlap? spans with
  | some (s, t) => .error (.unorderedLines s.stop t.start)
  | none => .ok ⟨spans.toArray, by simpa using pairwise_precedes_of_firstOverlap?_eq_none h⟩

/-- The index of the spans with the given starts and lengths. Each span is checked before the
order of any two is. -/
def ofInts (ranges : List (Int × Int)) : Except Fault LineIndex := do
  ofSpans (← ranges.mapM fun (start, length) => Span.ofInts start length)

/-- Spans of the given lengths, one after another. -/
def spansFrom : Nat → List Nat → List Span
  | _, [] => []
  | start, length :: rest => ⟨start, length⟩ :: spansFrom (start + length) rest

theorem le_start_of_mem_spansFrom {start : Nat} {lengths : List Nat} {s : Span}
    (h : s ∈ spansFrom start lengths) : start ≤ s.start := by
  induction lengths generalizing start with
  | nil => simp [spansFrom] at h
  | cons length rest ih =>
    rcases List.mem_cons.1 h with rfl | h
    · exact Nat.le_refl _
    · exact Nat.le_trans (Nat.le_add_right _ _) (ih h)

theorem pairwise_precedes_spansFrom (start : Nat) (lengths : List Nat) :
    (spansFrom start lengths).Pairwise Span.Precedes := by
  induction lengths generalizing start with
  | nil => simp [spansFrom]
  | cons length rest ih =>
    exact List.pairwise_cons.2 ⟨fun _ h => le_start_of_mem_spansFrom h, ih _⟩

def ofText (text : String) : LineIndex :=
  let lengths := (Text.lines text.toList).map List.length
  ⟨(spansFrom 0 lengths).toArray, by simpa using pairwise_precedes_spansFrom 0 lengths⟩

def size (index : LineIndex) : Nat :=
  index.spans.size

def start (index : LineIndex) : Nat :=
  match index.spans[0]? with
  | some s => s.start
  | none => 0

def stop (index : LineIndex) : Nat :=
  match index.spans.back? with
  | some s => s.stop
  | none => 0

/-- The span of a line. A negative number counts from the end. -/
def get (index : LineIndex) (line : Int) : Except LookupFault Span :=
  let line := if line < 0 then line + index.size else line
  match line with
  | .ofNat i => index.spans[i]?.elim (.error .outOfRange) .ok
  | .negSucc _ => .error .outOfRange

/-- Binary search for the first span from `low` on that starts behind the offset. -/
def firstBehind (spans : Array Span) (offset : Int) (low high : Nat) (h : high ≤ spans.size) :
    Nat :=
  if hlt : low < high then
    let middle := (low + high) / 2
    if offset < spans[middle].start then firstBehind spans offset low middle (by omega)
    else firstBehind spans offset (middle + 1) high h
  else low
termination_by high - low

/-- The last line that starts at or before the offset. -/
def lineAt? (index : LineIndex) (offset : Int) : Option Nat :=
  match firstBehind index.spans offset 0 index.spans.size (Nat.le_refl _) with
  | 0 => none
  | line + 1 => some line

/-- Whether an offset belongs to a line with the given span. Only the last line holds its end. -/
def Holds (index : LineIndex) (line : Nat) (s : Span) (offset : Int) : Prop :=
  (s.start ≤ offset ∧ offset < s.stop) ∨ (line + 1 = index.size ∧ offset = s.stop)

instance (index : LineIndex) (line : Nat) (s : Span) (offset : Int) :
    Decidable (index.Holds line s offset) :=
  inferInstanceAs (Decidable (_ ∨ _))

/-- A way to fetch the span of a line by its number. -/
abbrev Fetch := Int → Except LookupFault Span

/-- The line that an offset belongs to, with its span. -/
def lineHoldingVia (fetch : Fetch) (index : LineIndex) (offset : Int) :
    Except LookupFault (Option (Nat × Span)) :=
  match index.lineAt? offset with
  | none => .ok none
  | some line => do
    let s ← fetch line
    return if index.Holds line s offset then some (line, s) else none

/-- The offset of a position. A column at the end of a line belongs to the next line, and past
the last line there is only the end of the text. -/
def offsetVia (fetch : Fetch) (index : LineIndex) (p : Position) :
    Except LookupFault (Option Nat) :=
  if p.line < 0 ∨ p.column < 0 ∨ (index.size : Int) ≤ p.line then .ok none
  else do
    let s ← fetch p.line
    return if s.length < p.column ∨ (p.column = s.length ∧ p.line + 1 ≠ index.size) then none
      else some (s.start + p.column.toNat)

def positionVia (fetch : Fetch) (index : LineIndex) (offset : Int) :
    Except LookupFault (Option Position) :=
  if offset < index.start ∨ index.stop < offset then .ok none
  else do
    let held ← lineHoldingVia fetch index offset
    return held.map fun (line, s) => ⟨line, offset - s.start⟩

/-- The line that an offset belongs to, with its span, as the index itself fetches it. -/
def lineHolding? (index : LineIndex) (offset : Int) : Option (Nat × Span) :=
  (lineHoldingVia index.get index offset).toOption.join

def offsetOf? (index : LineIndex) (p : Position) : Option Nat :=
  (offsetVia index.get index p).toOption.join

def positionOf? (index : LineIndex) (offset : Int) : Option Position :=
  (positionVia index.get index offset).toOption.join

end LineIndex

end SyntaxForest
