import SyntaxForest.Node

/-!
# Children of nodes

The slots of a node hold its children in the order of the text. Every child is smaller than its
parent; on this rest the induction over trees and all recursion that goes down a tree.
-/

namespace SyntaxForest

namespace Shape

/-- The slots of a layer in the order of the text. An optional slot may be empty. -/
def slots : Shape Node → List (Option Node)
  | error child => [child]
  | module statements => statements.map some
  | classDef ident arguments suite =>
    some (.ofName ident) :: (arguments.map (some ∘ .ofArgument) ++ suite.map some)
  | functionDef ident parameters result suite _ =>
    some (.ofName ident) :: (parameters.map (some ∘ .ofParameter) ++ result :: suite.map some)
  | parameter p => [p.name.map .ofName, p.declared, p.initial]
  | returnStatement value => [value]
  | name _ => []
  | memberAccess left member => [some left, some (.ofName member)]
  | call callee arguments => some callee :: arguments.map (some ∘ .ofArgument)
  | argument a => [a.name.map .ofName, some a.value]
  | index base items => some base :: items.map some
  | unary _ operand => [some operand]
  | binary left _ right => [some left, some right]
  | assignment target value => [some target, some value]
  | annotated value declared => [some value, some declared]
  | augmented left _ right => [some left, some right]
  | await operand => [some operand]
  | ternary value condition otherwise => [some value, some condition, some otherwise]
  | unpack operand => [some operand]
  | yield value => [value]
  | yieldFrom source => [some source]
  | lambda parameters body => parameters.map (some ∘ .ofParameter) ++ [some body]
  | slice start stop step => [start, stop, step]
  | number _ => []
  | string _ => []
  | stringList strings forward => forward :: strings.map (some ∘ .ofString)
  | constant _ => []
  | ellipsis => []
  | list entries => entries.map some
  | tuple entries => entries.map some
  | set entries => entries.map some
  | dictionary entries => entries.map some
  | keyEntry key value => [some key, some value]
  | expandEntry mapping => [some mapping]
  | comprehension body clauses => some body :: clauses.map (some ∘ .ofClause)
  | clause (.each target iterable _) => [some target, some iterable]
  | clause (.test condition) => [some condition]

def children (s : Shape Node) : List Node :=
  s.slots.filterMap fun slot => slot

theorem mem_children {s : Shape Node} {c : Node} : c ∈ s.children ↔ some c ∈ s.slots := by
  simp [children]

end Shape

namespace Node

def slots (n : Node) : List (Option Node) :=
  n.shape.slots

/-- The children of a node in the order of the text. -/
def children (n : Node) : List Node :=
  n.shape.children

@[simp]
theorem children_mk (head : Head) (shape : Shape Node) :
    (mk head shape).children = shape.children := rfl

@[simp]
theorem sizeOf_ofName (part : NameNode) : sizeOf (ofName part) = sizeOf part + 1 := by
  rcases part with ⟨h, c⟩
  simp [ofName]
  omega

@[simp]
theorem sizeOf_ofString (part : StringNode) : sizeOf (ofString part) = sizeOf part + 1 := by
  rcases part with ⟨h, c⟩
  simp [ofString]
  omega

@[simp]
theorem sizeOf_ofArgument (part : Placed (Argument Node)) :
    sizeOf (ofArgument part) = sizeOf part + 1 := by
  rcases part with ⟨h, c⟩
  simp [ofArgument]
  omega

@[simp]
theorem sizeOf_ofParameter (part : Placed (Parameter Node)) :
    sizeOf (ofParameter part) = sizeOf part + 1 := by
  rcases part with ⟨h, c⟩
  simp [ofParameter]
  omega

@[simp]
theorem sizeOf_ofClause (part : Placed (Clause Node)) :
    sizeOf (ofClause part) = sizeOf part + 1 := by
  rcases part with ⟨h, c⟩
  simp [ofClause]
  omega

theorem sizeOf_lt_of_mem_slots {s : Shape Node} {c : Node} (h : some c ∈ s.slots) :
    sizeOf c < sizeOf s + 1 := by
  cases s with
  | parameter p =>
    rcases p with ⟨_ | ident, _, _, _⟩ <;> simp [Shape.slots] at h <;> simp <;>
      grind [Option.some.sizeOf_spec, sizeOf_ofName]
  | argument p =>
    rcases p with ⟨_, _, _ | ident⟩ <;> simp [Shape.slots] at h <;> simp <;>
      grind [sizeOf_ofName]
  | clause p => cases p <;> simp [Shape.slots] at h <;> simp <;> grind
  | _ =>
    simp [Shape.slots] at h <;> simp <;>
      grind [→ List.sizeOf_lt_of_mem, sizeOf_ofName, sizeOf_ofString, sizeOf_ofArgument,
        sizeOf_ofParameter, sizeOf_ofClause, Option.some.sizeOf_spec]

theorem sizeOf_lt_of_mem_children {n c : Node} (h : c ∈ n.children) : sizeOf c < sizeOf n := by
  rcases n with ⟨head, shape⟩
  rw [children_mk, Shape.mem_children] at h
  have := sizeOf_lt_of_mem_slots h
  simp only [Node.mk.sizeOf_spec]
  omega

/-- What passes from the children of each node to the node holds of all nodes. -/
theorem induction {motive : Node → Prop}
    (step : ∀ n : Node, (∀ c ∈ n.children, motive c) → motive n) (n : Node) : motive n :=
  step n fun c _ => induction step c
termination_by n
decreasing_by exact sizeOf_lt_of_mem_children ‹_›

/-- Counts taken together. -/
def total : List Nat → Nat
  | [] => 0
  | count :: rest => count + total rest

@[simp]
theorem total_cons (count : Nat) (rest : List Nat) : total (count :: rest) = count + total rest :=
  rfl

@[simp]
theorem total_append (counts others : List Nat) :
    total (counts ++ others) = total counts + total others := by
  induction counts with
  | nil => simp [total]
  | cons count rest ih => simp [ih, Nat.add_assoc]

/-- The number of nodes of a tree. A shared node counts each time it is reached. -/
def size (n : Node) : Nat :=
  total (n.children.attach.map fun ⟨c, _⟩ => c.size) + 1
termination_by n
decreasing_by exact sizeOf_lt_of_mem_children ‹_›

theorem size_eq (n : Node) : n.size = total (n.children.map size) + 1 := by
  rw [size]
  simp

end Node

end SyntaxForest
