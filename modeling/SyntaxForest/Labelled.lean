/-!
# Labelled enumerations

The small closed sets of the library (operators, keywords, node kinds, ...) list their values in a
fixed order and give each one a label. Reading a label finds the first value that carries it. Where
the values are switches, the empty set of them has a label, too.
-/

namespace SyntaxForest

/-- A finite type with a fixed order of its values and a label for each of them. -/
class Labelled (α : Type) where
  all : List α
  label : α → String

namespace Labelled

variable {α : Type} [Labelled α]

/-- The value that carries the label. -/
def ofLabel? (text : String) : Option α :=
  all.find? fun a => label a == text

/-- Every label with the place of its value, counted from one. -/
def numbered (α : Type) [Labelled α] : List (String × Nat) :=
  (all : List α).mapIdx fun i a => (label a, i + 1)

/-- The label of the empty set, where the values are switches that a set turns on. -/
def emptyLabel : String := "NONE"

/-- The switches of a set that is named by labels. The label of the empty set adds none. -/
def ofLabels? (labels : List String) : Option (List α) :=
  (labels.filter fun text => text != emptyLabel).mapM ofLabel?

/-- Every label of a set of switches with the weight of its switch, after the empty set. -/
def weighted (α : Type) [Labelled α] : List (String × Nat) :=
  (emptyLabel, 0) :: (all : List α).mapIdx fun i a => (label a, 1 <<< i)

end Labelled

end SyntaxForest
