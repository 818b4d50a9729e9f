import SyntaxForest.Node.Children

/-!
# Forests

A forest holds the nodes constructed so far, numbered in the order of their construction, and a
link from each node to its parent. A construction links the children to the new node; a later one
may link them anew, so that the parent of a node is the last that adopted it. A construction that
fails takes a number, too, and may fail before or after it has adopted its children.
-/

namespace SyntaxForest

/-- What the maker of a node knows of its place. -/
structure Hint where
  start : Option Int
  length : Option Int
deriving DecidableEq, Repr

/-- How the span of a node is to be found: it is given, it begins at a start that is not yet
checked, or it is fitted to the children. -/
inductive Extent where
  | fixed (span : Span)
  | stretched (start : Int)
  | fitted
deriving DecidableEq, Repr

namespace Hint

/-- The extent that a hint asks for. A start with a length has to be a span; a length alone is of
no use. -/
def extent : Hint → Except Fault Extent
  | ⟨some start, some length⟩ => (Span.ofInts start length).map .fixed
  | ⟨some start, none⟩ => .ok (.stretched start)
  | ⟨none, _⟩ => .ok .fitted

end Hint

/-- The span of a node with the given children spans, and how it was found. -/
def Extent.settle (children : List Span) : Extent → Except Fault (Span × Placement)
  | fixed span => .ok (span, .given)
  | stretched start => do
    let base ← Span.ofInts start 0
    return ((Span.cover? children).elim base base.extend, .stretched base.start)
  | fitted => .ok ((Span.cover? children).getD ⟨0, 0⟩, .fitted)

/-- The hint that a construction goes by. A token brings its own place, and the ellipsis is three
dots wide. -/
def Shape.hint {α : Type} (hint : Hint) : Shape α → Hint
  | name token => ⟨token.start, token.length⟩
  | number token => ⟨token.start, token.length⟩
  | string token => ⟨token.start, token.length⟩
  | constant token => ⟨token.start, token.length⟩
  | ellipsis => ⟨hint.start.getD 0, hint.length.getD 3⟩
  | _ => hint

inductive Outcome where
  | built (node : Node)
  | failed (kind : Kind)

namespace Outcome

def kind : Outcome → Kind
  | built node => node.kind
  | failed kind => kind

def node? : Outcome → Option Node
  | built node => some node
  | failed _ => none

end Outcome

structure Cell where
  outcome : Outcome
  parent : Option Nat

structure Forest where
  cells : Array Cell

namespace Forest

def empty : Forest := ⟨#[]⟩

/-- The number of constructions so far. -/
def size (f : Forest) : Nat :=
  f.cells.size

/-- The node with the given number, if its construction succeeded. -/
def node? (f : Forest) (id : Nat) : Option Node :=
  f.cells[id]?.bind (·.outcome.node?)

/-- The kind of a node. A node whose construction failed has one, too. -/
def kind? (f : Forest) (id : Nat) : Option Kind :=
  f.cells[id]?.map (·.outcome.kind)

def parent? (f : Forest) (id : Nat) : Option Nat :=
  f.cells[id]?.bind (·.parent)

def setParent (f : Forest) (parent id : Nat) : Forest :=
  ⟨f.cells.modify id fun cell => { cell with parent := some parent }⟩

def adopt (f : Forest) (parent : Nat) (children : List Node) : Forest :=
  children.foldl (fun f c => f.setParent parent c.id) f

def push (f : Forest) (outcome : Outcome) : Forest :=
  ⟨f.cells.push ⟨outcome, none⟩⟩

/-- Constructs a node. The children are adopted as soon as the hint asks for an extent, even if it
then turns out that there is no span of this extent. -/
def construct (f : Forest) (hint : Hint) (shape : Shape Node) : Except Fault Node × Forest :=
  match (shape.hint hint).extent with
  | .error fault => (.error fault, f.push (.failed shape.kind))
  | .ok extent =>
    let f' := f.adopt f.size shape.children
    match extent.settle (shape.children.map Node.span) with
    | .error fault => (.error fault, f'.push (.failed shape.kind))
    | .ok (span, placement) =>
      let n := Node.mk ⟨f.size, span, placement⟩ shape
      (.ok n, f'.push (.built n))

end Forest

end SyntaxForest
