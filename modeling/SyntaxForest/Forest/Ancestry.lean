import SyntaxForest.Forest

/-!
# Ancestors and scopes

Queries that climb from a node along the links to its parents: how deep a node lies, whether it
lies within another one, and which class, module or function encloses it. A node whose construction
failed is climbed through like any other.
-/

namespace SyntaxForest.Forest

/-- The first `limit` nodes above a node, nearest first. -/
def climb (f : Forest) : Nat → Nat → List Nat
  | 0, _ => []
  | limit + 1, id =>
    match f.parent? id with
    | some parent => parent :: climb f limit parent
    | none => []

/-- The nodes above a node, nearest first. There are no more of them than nodes in the forest. -/
def ancestors (f : Forest) (id : Nat) : List Nat :=
  f.climb f.size id

/-- The number of nodes from a node up to its root, both included. -/
def depth (f : Forest) (id : Nat) : Nat :=
  (f.ancestors id).length + 1

/-- A node lies within its ancestors, not within itself. -/
def Within (f : Forest) (id container : Nat) : Prop :=
  container ∈ f.ancestors id

instance (f : Forest) (id container : Nat) : Decidable (f.Within id container) :=
  inferInstanceAs (Decidable (_ ∈ _))

/-- What a search for a scope makes of a kind that it comes by. -/
inductive Verdict where
  | accept
  | stop
  | pass
deriving DecidableEq, Repr

/-- The first accepted node of a list, unless one before it stops the search. -/
def firstAccepted? (f : Forest) (verdict : Kind → Verdict) : List Nat → Option Nat
  | [] => none
  | id :: rest =>
    match (f.kind? id).elim .pass verdict with
    | .accept => some id
    | .stop => none
    | .pass => firstAccepted? f verdict rest

/-- Functions end a search that is to stay within one. -/
def functionVerdict (stopAtFunction : Bool) : Verdict :=
  if stopAtFunction then .stop else .pass

/-- The nearest class around a node. The search ends at a module. -/
def enclosingClass? (f : Forest) (id : Nat) (stopAtFunction : Bool) : Option Nat :=
  f.firstAccepted? (fun
    | .classDef => .accept
    | .module => .stop
    | .functionDef => functionVerdict stopAtFunction
    | _ => .pass) (f.ancestors id)

def enclosingScope? (f : Forest) (id : Nat) (stopAtFunction : Bool) : Option Nat :=
  f.firstAccepted? (fun
    | .classDef | .module => .accept
    | .functionDef => functionVerdict stopAtFunction
    | _ => .pass) (f.ancestors id)

/-- The nearest function around a node. A class in between ends the search. -/
def enclosingFunction? (f : Forest) (id : Nat) : Option Nat :=
  f.firstAccepted? (fun
    | .functionDef => .accept
    | .classDef => .stop
    | _ => .pass) (f.ancestors id)

end SyntaxForest.Forest
