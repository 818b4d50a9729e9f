import Mathlib.Tactic.Common
import SyntaxForest.Node.Children

/-!
# Outlines

The outline of a tree is what is left of it without numbers and places: the kinds of the nodes with
what they say of themselves, and the outlines of the parts in their slots. Trees of the same outline
have the same structure.
-/

namespace SyntaxForest

/-- What a node says of itself, apart from its kind, its place and its parts. -/
inductive Detail where
  | nothing
  | word (value : String)
  | number (value : NumberValue) (isInteger isImaginary : Bool)
  | literal (flags : StringFlags) (escaped : String)
  | keyword (keyword : Keyword)
  | operation (operator : Option Operator)
  | passing (category : ArgumentCategory)
  | collecting (category : ParameterCategory)
  | timing (isAsync : Bool)
deriving DecidableEq, Repr

def Shape.detail {α : Type} : Shape α → Detail
  | functionDef _ _ _ _ isAsync => .timing isAsync
  | parameter p => .collecting p.category
  | name token => .word token.value
  | argument a => .passing a.category
  | unary operator _ => .operation operator
  | binary _ operator _ => .operation operator
  | augmented _ operator _ => .operation operator
  | number token => .number token.value token.isInteger token.isImaginary
  | string token => .literal token.flags token.escaped
  | constant token => .keyword token.keyword
  | clause (.each _ _ isAsync) => .timing isAsync
  | _ => .nothing

/-- A tree of kinds and details. An empty slot has no outline. -/
inductive Outline where
  | mk (kind : Kind) (detail : Detail) (parts : List (Option Outline))

namespace Node

def outline (n : Node) : Outline :=
  .mk n.kind n.shape.detail
    (n.slots.attach.map fun ⟨slot, _⟩ => slot.attach.map fun ⟨part, _⟩ => part.outline)
termination_by n
decreasing_by
  apply sizeOf_lt_of_mem_children
  simp_all [children, slots, Shape.mem_children]

@[simp]
lemma outline_mk (head : Head) (shape : Shape Node) :
    (mk head shape).outline =
      .mk shape.kind shape.detail (shape.slots.map (Option.map outline)) := by
  rw [outline]
  simp [Node.shape, Node.slots]

/-! ### Names and brackets -/

section Brackets

variable (head : Head)

lemma outline_name (token : NameToken) :
    (mk head (.name token)).outline = .mk .name (.word token.value) [] := by
  simp [Shape.slots, Shape.detail, Shape.kind]

lemma outline_memberAccess (left : Node) (member : NameNode) :
    (mk head (.memberAccess left member)).outline =
      .mk .memberAccess .nothing
        [some left.outline, some (.mk .name (.word member.content.value) [])] := by
  simp [Shape.slots, Shape.detail, Shape.kind, ofName]

lemma outline_call (callee : Node) (arguments : List (Placed (Argument Node))) :
    (mk head (.call callee arguments)).outline =
      .mk .call .nothing
        (some callee.outline :: ((arguments.map ofArgument).map outline).map some) := by
  simp [Shape.slots, Shape.detail, Shape.kind]

lemma outline_argument (value : Node) (category : ArgumentCategory) (name : Option NameNode) :
    (mk head (.argument ⟨value, category, name⟩)).outline =
      .mk .argument (.passing category)
        [(name.map fun part => part.content.value).map fun word => .mk .name (.word word) [],
          some value.outline] := by
  cases name <;> simp [Shape.slots, Shape.detail, Shape.kind, ofName]

lemma outline_index (base : Node) (items : List Node) :
    (mk head (.index base items)).outline =
      .mk .index .nothing (some base.outline :: (items.map outline).map some) := by
  simp [Shape.slots, Shape.detail, Shape.kind]

lemma outline_list (entries : List Node) :
    (mk head (.list entries)).outline = .mk .list .nothing ((entries.map outline).map some) := by
  simp [Shape.slots, Shape.detail, Shape.kind]

lemma outline_tuple (entries : List Node) :
    (mk head (.tuple entries)).outline = .mk .tuple .nothing ((entries.map outline).map some) := by
  simp [Shape.slots, Shape.detail, Shape.kind]

lemma outline_dictionary (entries : List Node) :
    (mk head (.dictionary entries)).outline =
      .mk .dictionary .nothing ((entries.map outline).map some) := by
  simp [Shape.slots, Shape.detail, Shape.kind]

lemma outline_keyEntry (key value : Node) :
    (mk head (.keyEntry key value)).outline =
      .mk .keyEntry .nothing [some key.outline, some value.outline] := by
  simp [Shape.slots, Shape.detail, Shape.kind]

lemma outline_expandEntry (mapping : Node) :
    (mk head (.expandEntry mapping)).outline =
      .mk .expandEntry .nothing [some mapping.outline] := by
  simp [Shape.slots, Shape.detail, Shape.kind]

end Brackets

end Node

end SyntaxForest
