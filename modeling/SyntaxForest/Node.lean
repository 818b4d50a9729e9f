import SyntaxForest.Node.Kind
import SyntaxForest.Span
import SyntaxForest.Token
import SyntaxForest.Token.Operator

/-!
# Nodes

A node of a tree has a head, which is the same for every kind, and a shape: one layer of the tree,
with the node's parts in the slots that its kind has. A slot that takes one kind only holds the
parts of that kind; seen as a child, they are a node again.
-/

namespace SyntaxForest

/-- How a node came by its span: it was given, it was stretched from a given start over the
children, or it was fitted to the children. -/
inductive Placement where
  | given
  | stretched (start : Nat)
  | fitted
deriving DecidableEq, Repr

/-- A node is known by its number. -/
structure Head where
  id : Nat
  span : Span
  placement : Placement
deriving DecidableEq, Repr

/-- The contents of a slot that takes nodes of one kind only. -/
structure Placed (β : Type) where
  head : Head
  content : β

abbrev NameNode := Placed NameToken

abbrev StringNode := Placed StringToken

structure Argument (α : Type) where
  value : α
  category : ArgumentCategory
  name : Option NameNode

structure Parameter (α : Type) where
  name : Option NameNode
  category : ParameterCategory
  declared : Option α
  initial : Option α

inductive Clause (α : Type) where
  | each (target iterable : α) (isAsync : Bool)
  | test (condition : α)

/-- One layer of a tree: a kind with what stands in its slots. The operator of an operation may be
unknown. -/
inductive Shape (α : Type) where
  | error (child : Option α)
  | module (statements : List α)
  | classDef (name : NameNode) (arguments : List (Placed (Argument α))) (suite : List α)
  | functionDef (name : NameNode) (parameters : List (Placed (Parameter α))) (result : Option α)
      (suite : List α) (isAsync : Bool)
  | parameter (content : Parameter α)
  | returnStatement (value : Option α)
  | name (token : NameToken)
  | memberAccess (left : α) (member : NameNode)
  | call (callee : α) (arguments : List (Placed (Argument α)))
  | argument (content : Argument α)
  | index (base : α) (items : List α)
  | unary (operator : Option Operator) (operand : α)
  | binary (left : α) (operator : Option Operator) (right : α)
  | assignment (target value : α)
  | annotated (value declared : α)
  | augmented (left : α) (operator : Option Operator) (right : α)
  | await (operand : α)
  | ternary (value condition otherwise : α)
  | unpack (operand : α)
  | yield (value : Option α)
  | yieldFrom (source : α)
  | lambda (parameters : List (Placed (Parameter α))) (body : α)
  | slice (start stop step : Option α)
  | number (token : NumberToken)
  | string (token : StringToken)
  | stringList (strings : List StringNode) (forward : Option α)
  | constant (token : KeywordToken)
  | ellipsis
  | list (entries : List α)
  | tuple (entries : List α)
  | set (entries : List α)
  | dictionary (entries : List α)
  | keyEntry (key value : α)
  | expandEntry (mapping : α)
  | comprehension (body : α) (clauses : List (Placed (Clause α)))
  | clause (content : Clause α)

inductive Node where
  | mk (head : Head) (shape : Shape Node)

namespace Clause

def kind {α : Type} : Clause α → Kind
  | each .. => .forClause
  | test .. => .ifClause

end Clause

namespace Shape

def kind {α : Type} : Shape α → Kind
  | error .. => .error
  | module .. => .module
  | classDef .. => .classDef
  | functionDef .. => .functionDef
  | parameter .. => .parameter
  | returnStatement .. => .returnStatement
  | name .. => .name
  | memberAccess .. => .memberAccess
  | call .. => .call
  | argument .. => .argument
  | index .. => .index
  | unary .. => .unary
  | binary .. => .binary
  | assignment .. => .assignment
  | annotated .. => .annotated
  | augmented .. => .augmented
  | await .. => .await
  | ternary .. => .ternary
  | unpack .. => .unpack
  | yield .. => .yield
  | yieldFrom .. => .yieldFrom
  | lambda .. => .lambda
  | slice .. => .slice
  | number .. => .number
  | string .. => .string
  | stringList .. => .stringList
  | constant .. => .constant
  | ellipsis => .ellipsis
  | list .. => .list
  | tuple .. => .tuple
  | set .. => .set
  | dictionary .. => .dictionary
  | keyEntry .. => .keyEntry
  | expandEntry .. => .expandEntry
  | comprehension .. => .comprehension
  | clause content => content.kind

end Shape

namespace Node

def head : Node → Head
  | mk head _ => head

def shape : Node → Shape Node
  | mk _ shape => shape

def id (n : Node) : Nat :=
  n.head.id

def span (n : Node) : Span :=
  n.head.span

def kind (n : Node) : Kind :=
  n.shape.kind

@[simp]
theorem kind_mk (head : Head) (shape : Shape Node) : (mk head shape).kind = shape.kind := rfl

@[simp]
theorem id_mk (head : Head) (shape : Shape Node) : (mk head shape).id = head.id := rfl

@[simp]
theorem span_mk (head : Head) (shape : Shape Node) : (mk head shape).span = head.span := rfl

def ofName (part : NameNode) : Node :=
  mk part.head (.name part.content)

def ofString (part : StringNode) : Node :=
  mk part.head (.string part.content)

def ofArgument (part : Placed (Argument Node)) : Node :=
  mk part.head (.argument part.content)

def ofParameter (part : Placed (Parameter Node)) : Node :=
  mk part.head (.parameter part.content)

def ofClause (part : Placed (Clause Node)) : Node :=
  mk part.head (.clause part.content)

/-- The node as the contents of a slot for names. -/
def asName? : Node → Option NameNode
  | mk head (.name token) => some ⟨head, token⟩
  | _ => none

def asString? : Node → Option StringNode
  | mk head (.string token) => some ⟨head, token⟩
  | _ => none

def asArgument? : Node → Option (Placed (Argument Node))
  | mk head (.argument content) => some ⟨head, content⟩
  | _ => none

def asParameter? : Node → Option (Placed (Parameter Node))
  | mk head (.parameter content) => some ⟨head, content⟩
  | _ => none

def asClause? : Node → Option (Placed (Clause Node))
  | mk head (.clause content) => some ⟨head, content⟩
  | _ => none

end Node

end SyntaxForest
