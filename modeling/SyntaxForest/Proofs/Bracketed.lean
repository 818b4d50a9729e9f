import SyntaxForest.Proofs.Printing

/-!
# Bracketed expressions

Names with member accesses, calls, subscripts, lists, tuples and dictionaries in any nesting. Their
texts are read from the end here: the last character tells which kind of node a text ends with, and
what a node stands on comes after it, so that chains to the left are no left recursion.
-/

namespace SyntaxForest

def marks : List Char :=
  ['(', ')', '[', ']', '\x7b', '\x7d', '.', ',', ':', '=', '*', ' ']

/-- What a name may be: it is not empty and has no mark in it. Letters, digits and underscores, of
whatever script, are no marks. -/
def IsWord (value : String) : Prop :=
  value ≠ "" ∧ ∀ c ∈ value.toList, c ∉ marks

lemma isWord_of_alphanum {value : String} (hne : value ≠ "")
    (h : ∀ c ∈ value.toList, c.isAlphanum ∨ c = '_') : IsWord value := by
  refine ⟨hne, fun c hc hmark => ?_⟩
  unfold marks at hmark
  have hplain := h c hc
  simp only [List.mem_cons, List.not_mem_nil, or_false] at hmark
  rcases hmark with rfl | rfl | rfl | rfl | rfl | rfl | rfl | rfl | rfl | rfl | rfl | rfl <;>
    revert hplain <;> decide

/-- Where a node stands: as an expression, as an argument of a call, or as an entry of a
dictionary. -/
inductive Part where
  | expression | argument | entry
deriving DecidableEq, Repr

/-- The trees that are built of names and brackets only. -/
inductive Bracketed : Part → Node → Prop where
  | name {head : Head} {token : NameToken} :
      IsWord token.value → Bracketed .expression (.mk head (.name token))
  | memberAccess {head : Head} {left : Node} {member : NameNode} :
      Bracketed .expression left → IsWord member.content.value →
      Bracketed .expression (.mk head (.memberAccess left member))
  | call {head : Head} {callee : Node} {arguments : List (Placed (Argument Node))} :
      Bracketed .expression callee →
      (∀ argument ∈ arguments, Bracketed .argument (.ofArgument argument)) →
      Bracketed .expression (.mk head (.call callee arguments))
  | index {head : Head} {base : Node} {items : List Node} :
      Bracketed .expression base → (∀ item ∈ items, Bracketed .expression item) →
      Bracketed .expression (.mk head (.index base items))
  | list {head : Head} {entries : List Node} :
      (∀ entry ∈ entries, Bracketed .expression entry) →
      Bracketed .expression (.mk head (.list entries))
  | tuple {head : Head} {entries : List Node} :
      (∀ entry ∈ entries, Bracketed .expression entry) →
      Bracketed .expression (.mk head (.tuple entries))
  | dictionary {head : Head} {entries : List Node} :
      (∀ entry ∈ entries, Bracketed .entry entry) →
      Bracketed .expression (.mk head (.dictionary entries))
  | argument {head : Head} {value : Node} {category : ArgumentCategory} {name : Option NameNode} :
      Bracketed .expression value → (∀ part ∈ name, IsWord part.content.value) →
      Bracketed .argument (.mk head (.argument ⟨value, category, name⟩))
  | keyEntry {head : Head} {key value : Node} :
      Bracketed .expression key → Bracketed .expression value →
      Bracketed .entry (.mk head (.keyEntry key value))
  | expandEntry {head : Head} {mapping : Node} :
      Bracketed .expression mapping → Bracketed .entry (.mk head (.expandEntry mapping))

def argumentText (options : PrintOptions) : Node → String
  | .mk head (.argument content) => Node.printArgument options ⟨head, content⟩
  | n => n.print options

/-- The text of a node where it stands. -/
def Part.text (options : PrintOptions) (n : Node) : Part → String
  | expression => n.print options
  | argument => argumentText options n
  | entry => n.printEntry options

/-- The text of a node where it stands, from its end to its beginning. -/
def reading (options : PrintOptions) (part : Part) (n : Node) : List Char :=
  (part.text options n).toList.reverse

def listing (readings : List (List Char)) : List Char :=
  [' ', ','].intercalate readings

lemma reverse_intercalate {α : Type} (separator : List α) (lists : List (List α)) :
    (separator.intercalate lists).reverse =
      separator.reverse.intercalate (lists.reverse.map List.reverse) := by
  have hconcat : ∀ (last : List α) (l : List (List α)), l ≠ [] →
      separator.reverse.intercalate (l ++ [last]) =
        separator.reverse.intercalate l ++ separator.reverse ++ last := by
    intro last l hl
    induction l with
    | nil => exact absurd rfl hl
    | cons a rest ih =>
      cases rest with
      | nil => simp
      | cons b rest => simp_all
  induction lists with
  | nil => rfl
  | cons a rest ih =>
    cases rest with
    | nil => simp
    | cons b rest =>
      rw [List.intercalate_cons_cons, List.reverse_append, ih, List.reverse_append,
        List.reverse_cons (a := a), List.map_append, List.map_singleton, hconcat]
      · rw [List.append_assoc]
      · simp

lemma reverse_commaSeparated (texts : List String) :
    (commaSeparated texts).toList.reverse =
      listing (texts.reverse.map fun text => text.toList.reverse) := by
  unfold commaSeparated listing
  rw [String.toList_intercalate, reverse_intercalate, ← List.map_reverse, List.map_map]
  rfl

section Readings

variable (options : PrintOptions) (head : Head)

lemma reading_expression (n : Node) :
    reading options .expression n = (n.print options).toList.reverse := rfl

lemma reading_name (token : NameToken) :
    reading options .expression (.mk head (.name token)) = token.value.toList.reverse := by
  rw [reading_expression, Node.print_of_root options rfl, Node.printRoot]

lemma reading_memberAccess (left : Node) (member : NameNode) :
    reading options .expression (.mk head (.memberAccess left member)) =
      member.content.value.toList.reverse ++ '.' :: reading options .expression left := by
  rw [reading_expression, Node.print_of_left options rfl, Node.printSuffix]
  simp [reading_expression]

lemma reading_call (callee : Node) (arguments : List (Placed (Argument Node))) :
    reading options .expression (.mk head (.call callee arguments)) =
      ')' :: (listing ((arguments.map Node.ofArgument).reverse.map (reading options .argument)) ++
        '(' :: reading options .expression callee) := by
  rw [reading_expression, Node.print_of_root options rfl, Node.printRoot]
  simp [reverse_commaSeparated, Function.comp_def]
  rfl

lemma reading_index (base : Node) (items : List Node) :
    reading options .expression (.mk head (.index base items)) =
      ']' :: (listing (items.reverse.map (reading options .expression)) ++
        '[' :: reading options .expression base) := by
  rw [reading_expression, Node.print_of_root options rfl, Node.printRoot]
  simp [reverse_commaSeparated, Function.comp_def]
  rfl

lemma reading_list (entries : List Node) :
    reading options .expression (.mk head (.list entries)) =
      ']' :: (listing (entries.reverse.map (reading options .expression)) ++ ['[']) := by
  rw [reading_expression, Node.print_of_root options rfl, Node.printRoot]
  simp [reverse_commaSeparated, Function.comp_def]
  rfl

def plainArgument (n : Node) : Node :=
  .ofArgument ⟨n.head, n, .simple, none⟩

/-- The comma behind the entry of a tuple that has no other one. -/
def loneComma {α : Type} : List α → List Char
  | [_] => [' ', ',']
  | _ => []

lemma reading_argument (value : Node) (category : ArgumentCategory) (name : Option NameNode) :
    reading options .argument (.mk head (.argument ⟨value, category, name⟩)) =
      reading options .expression value ++ (category.stars ++ keywordText name).toList.reverse := by
  rw [reading, Part.text, argumentText, Node.printArgument]
  simp [reading_expression]

lemma reading_plainArgument (n : Node) :
    reading options .argument (plainArgument n) = reading options .expression n := by
  rw [plainArgument, Node.ofArgument, reading_argument]
  simp [ArgumentCategory.stars, keywordText]

lemma reading_tuple (entries : List Node) :
    reading options .expression (.mk head (.tuple entries)) =
      ')' :: (loneComma entries ++
        (listing ((entries.map plainArgument).reverse.map (reading options .argument)) ++
          ['('])) := by
  rw [reading_expression, Node.print_of_root options rfl, Node.printRoot]
  rcases entries with _ | ⟨first, _ | ⟨second, rest⟩⟩
  · simp [tupleText, loneComma, commaSeparated, listing]
  · simp [tupleText, loneComma, listing, reading_plainArgument, reading_expression]
  · simp [tupleText, loneComma, reverse_commaSeparated, Function.comp_def, reading_plainArgument]
    rfl

lemma reading_dictionary (entries : List Node) :
    reading options .expression (.mk head (.dictionary entries)) =
      '\x7d' :: ' ' :: (listing (entries.reverse.map (reading options .entry)) ++
        [' ', '\x7b']) := by
  rw [reading_expression, Node.print_of_root options rfl, Node.printRoot]
  simp [reverse_commaSeparated, Function.comp_def]
  rfl

lemma reading_keyEntry (key value : Node) :
    reading options .entry (.mk head (.keyEntry key value)) =
      reading options .expression value ++ ' ' :: ':' :: reading options .expression key := by
  rw [reading, Part.text, Node.printEntry]
  simp [reading_expression]

lemma reading_expandEntry (mapping : Node) :
    reading options .entry (.mk head (.expandEntry mapping)) =
      reading options .expression mapping ++ ['*', '*'] := by
  rw [reading, Part.text, Node.printEntry, Node.print_of_root options rfl, Node.printRoot]
  · simp [reading_expression]
  · simp

end Readings

end SyntaxForest
