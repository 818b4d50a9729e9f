import SyntaxForest.Labelled

/-!
# Kinds of nodes

The closed set of node kinds, and the ways in which an argument is passed and a parameter collects
its arguments.
-/

namespace SyntaxForest

inductive Kind where
  | error
  | module | classDef | functionDef | parameter | returnStatement
  | name | memberAccess | call | argument | index | unary | binary | assignment | annotated
  | augmented | await | ternary | unpack | yield | yieldFrom | lambda | slice
  | number | string | stringList | constant | ellipsis
  | list | tuple | set | dictionary | keyEntry | expandEntry
  | comprehension | forClause | ifClause
deriving DecidableEq, Repr

namespace Kind

/-- The title of a kind in descriptions. -/
def title : Kind → String
  | error => "Error"
  | module => "Module"
  | classDef => "Class"
  | functionDef => "Function"
  | parameter => "Parameter"
  | returnStatement => "Return"
  | name => "Name"
  | memberAccess => "MemberAccess"
  | call => "Call"
  | argument => "Argument"
  | index => "Index"
  | unary => "UnaryOperation"
  | binary => "BinaryOperation"
  | assignment => "Assignment"
  | annotated => "TypeAnnotation"
  | augmented => "AugmentedAssignment"
  | await => "Await"
  | ternary => "Ternary"
  | unpack => "Unpack"
  | yield => "Yield"
  | yieldFrom => "YieldFrom"
  | lambda => "Lambda"
  | slice => "Slice"
  | number => "Number"
  | string => "String"
  | stringList => "StringList"
  | constant => "Constant"
  | ellipsis => "Ellipsis"
  | list => "List"
  | tuple => "Tuple"
  | set => "Set"
  | dictionary => "Dictionary"
  | keyEntry => "DictionaryKeyEntry"
  | expandEntry => "DictionaryExpandEntry"
  | comprehension => "ListComprehension"
  | forClause => "ListComprehensionFor"
  | ifClause => "ListComprehensionIf"

/-- A title of several capitalised words in capitals, with a bar between the words. -/
def capitals : List Char → List Char
  | [] => []
  | c :: rest => c :: rest.flatMap fun d => if d.isUpper then ['_', d] else [d.toUpper]

instance : Labelled Kind where
  all :=
    [.error, .module, .classDef, .functionDef, .parameter, .returnStatement, .name,
      .memberAccess, .call, .argument, .index, .unary, .binary, .assignment, .annotated,
      .augmented, .await, .ternary, .unpack, .yield, .yieldFrom, .lambda, .slice, .number,
      .string, .stringList, .constant, .ellipsis, .list, .tuple, .set, .dictionary, .keyEntry,
      .expandEntry, .comprehension, .forClause, .ifClause]
  label kind := String.ofList (capitals kind.title.toList)

def ofTitle? (s : String) : Option Kind :=
  (Labelled.all : List Kind).find? fun kind => kind.title == s

/-- Expressions are the kinds that may stand where a value is wanted. Statements, and the parts
that only make sense inside one other kind, are none; an entry that expands a mapping is one. -/
def isExpression : Kind → Bool
  | module | classDef | functionDef | parameter | returnStatement | argument | keyEntry
  | forClause | ifClause => false
  | _ => true

/-- The kinds without slots. Their nodes have no children. -/
def IsLeaf (kind : Kind) : Prop :=
  kind = name ∨ kind = number ∨ kind = string ∨ kind = constant ∨ kind = ellipsis

instance (kind : Kind) : Decidable kind.IsLeaf :=
  inferInstanceAs (Decidable (_ ∨ _))

end Kind

/-- How an argument is passed. -/
inductive ArgumentCategory where
  | simple | unpackedList | unpackedDictionary
deriving DecidableEq, Repr

namespace ArgumentCategory

def label : ArgumentCategory → String
  | simple => "SIMPLE"
  | unpackedList => "UNPACKED_LIST"
  | unpackedDictionary => "UNPACKED_DICTIONARY"

def title : ArgumentCategory → String
  | simple => "simple"
  | unpackedList => "unpacked_list"
  | unpackedDictionary => "unpacked_dictionary"

instance : Labelled ArgumentCategory where
  all := [.simple, .unpackedList, .unpackedDictionary]
  label := label

def stars : ArgumentCategory → String
  | simple => ""
  | unpackedList => "*"
  | unpackedDictionary => "**"

end ArgumentCategory

/-- How a parameter collects its arguments. -/
inductive ParameterCategory where
  | simple | varArgList | varArgDictionary
deriving DecidableEq, Repr

namespace ParameterCategory

def label : ParameterCategory → String
  | simple => "SIMPLE"
  | varArgList => "VAR_ARG_LIST"
  | varArgDictionary => "VAR_ARG_DICTIONARY"

def title : ParameterCategory → String
  | simple => "simple"
  | varArgList => "var_arg_list"
  | varArgDictionary => "var_arg_dictionary"

instance : Labelled ParameterCategory where
  all := [.simple, .varArgList, .varArgDictionary]
  label := label

def stars : ParameterCategory → String
  | simple => ""
  | varArgList => "*"
  | varArgDictionary => "**"

end ParameterCategory

end SyntaxForest
