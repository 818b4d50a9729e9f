import SyntaxForest.Node.Children
import SyntaxForest.Node.Prescribed
import SyntaxForest.Node.PrintOptions

/-!
# Print templates

The format of printed expressions, kind by kind: a template lists the pieces of a node's text in
order, with holes where the texts of other nodes go. Filling all holes gives the text of a tree as
a sequence of fixed texts and texts of leaves. The texts are those of the format, and nothing here
rests on the printer.
-/

namespace SyntaxForest

inductive Piece where
  | fixed (text : String)
  | leaf (text : String)
  | hole (n : Node)

namespace Piece

/-- What a piece contributes before the holes are filled. -/
def text : Piece → String
  | fixed text => text
  | leaf text => text
  | hole _ => ""

/-- Groups of pieces with a fixed text between them. -/
def separated (separator : String) (groups : List (List Piece)) : List Piece :=
  [fixed separator].intercalate groups

def ofName? : Option NameNode → List Piece
  | some name => [hole (.ofName name)]
  | none => []

/-- An argument of a call: stars, a name with the equals sign, the value. -/
def ofArgument (argument : Placed (Argument Node)) : List Piece :=
  let name := ofName? argument.content.name
  fixed (Prescribed.argumentStars argument.content.category) ::
    ((if name.isEmpty then [] else name ++ [fixed "="]) ++ [hole argument.content.value])

/-- A parameter of a lambda: stars, a name, the initial value behind an equals sign. -/
def ofParameter (parameter : Placed (Parameter Node)) : List Piece :=
  fixed (Prescribed.parameterStars parameter.content.category) ::
    (ofName? parameter.content.name ++
      match parameter.content.initial with
      | some value => [fixed " = ", hole value]
      | none => [])

def ofClause (clause : Placed (Clause Node)) : List Piece :=
  match clause.content with
  | .each target iterable isAsync =>
    [fixed (if isAsync then "async for " else "for "), hole target, fixed " in ", hole iterable]
  | .test condition => [fixed "if ", hole condition]

/-- A node where an entry of a dictionary may stand. -/
def ofEntry : Node → List Piece
  | .mk _ (.keyEntry key value) => [hole key, fixed ": ", hole value]
  | entry => [hole entry]

def ofBody (body : Node) : List Piece :=
  if body.kind = .keyEntry ∨ body.kind.isExpression then ofEntry body
  else [fixed "<ListExpression>"]

/-- A part of a slice behind its colon. -/
def ofBound : Option Node → List Piece
  | some bound => [fixed ":", hole bound]
  | none => []

@[simp]
theorem separated_nil (separator : String) : separated separator [] = [] := rfl

@[simp]
theorem separated_singleton (separator : String) (group : List Piece) :
    separated separator [group] = group := by
  simp [separated, List.intercalate]

theorem separated_cons_cons (separator : String) (group next : List Piece)
    (rest : List (List Piece)) :
    separated separator (group :: next :: rest) =
      group ++ fixed separator :: separated separator (next :: rest) := by
  simp [separated, List.intercalate_cons_cons]

@[simp]
theorem hole_mem_separated {separator : String} {c : Node} {groups : List (List Piece)} :
    hole c ∈ separated separator groups ↔ ∃ group ∈ groups, hole c ∈ group := by
  induction groups with
  | nil => simp
  | cons g rest ih =>
    cases rest with
    | nil => simp
    | cons g' rest => simp [separated_cons_cons, ih]

theorem mem_children_of_hole_mem_ofArgument {c : Node} {argument : Placed (Argument Node)}
    (h : hole c ∈ ofArgument argument) : c ∈ (Node.ofArgument argument).children := by
  rcases argument with ⟨head, value, category, _ | name⟩ <;>
    simpa [ofArgument, ofName?, Node.ofArgument, Shape.mem_children, Shape.slots] using h

theorem mem_children_of_hole_mem_ofParameter {c : Node} {parameter : Placed (Parameter Node)}
    (h : hole c ∈ ofParameter parameter) : c ∈ (Node.ofParameter parameter).children := by
  rcases parameter with ⟨head, _ | name, category, declared, _ | initial⟩ <;>
    simp [ofParameter, ofName?, Node.ofParameter, Shape.mem_children, Shape.slots] at h ⊢ <;> grind

theorem mem_children_of_hole_mem_ofClause {c : Node} {clause : Placed (Clause Node)}
    (h : hole c ∈ ofClause clause) : c ∈ (Node.ofClause clause).children := by
  rcases clause with ⟨head, ⟨⟩ | ⟨⟩⟩ <;>
    simpa [ofClause, Node.ofClause, Shape.mem_children, Shape.slots] using h

theorem eq_or_mem_children_of_hole_mem_ofEntry {c entry : Node}
    (h : hole c ∈ ofEntry entry) : c = entry ∨ c ∈ entry.children := by
  unfold ofEntry at h
  split at h
  · right
    simpa [Shape.mem_children, Shape.slots] using h
  · left
    simpa using h

end Piece

namespace Node

open Piece

def template (options : PrintOptions) : Node → List Piece
  | mk _ (.name token) => [leaf token.value]
  | mk _ (.number token) => [leaf (Prescribed.number token.value)]
  | mk _ (.string token) => [leaf (Prescribed.literal token)]
  | mk _ (.constant token) => [leaf (Prescribed.constant token.keyword)]
  | mk _ .ellipsis => [leaf "..."]
  | mk _ (.memberAccess left member) => [hole left, fixed ".", hole (ofName member)]
  | mk _ (.binary left operator right) =>
    [hole left, fixed (" " ++ Prescribed.operator operator ++ " "), hole right]
  | mk _ (.augmented left operator right) =>
    [hole left, fixed (" " ++ Prescribed.operator operator ++ " "), hole right]
  | mk _ (.stringList strings forward) =>
    match options.forward, forward with
    | true, some declared => [hole declared]
    | _, _ => separated " " (strings.map fun s => [hole (ofString s)])
  | mk _ (.call callee arguments) =>
    hole callee :: fixed "(" :: (separated ", " (arguments.map Piece.ofArgument) ++ [fixed ")"])
  | mk _ (.index base items) =>
    hole base :: fixed "[" :: (separated ", " (items.map fun item => [hole item]) ++ [fixed "]"])
  | mk _ (.unary operator operand) => [fixed (Prescribed.operator operator ++ " "), hole operand]
  | mk _ (.assignment target value) => [hole target, fixed " = ", hole value]
  | mk _ (.annotated value declared) => [hole value, fixed ": ", hole declared]
  | mk _ (.await operand) => [fixed "await ", hole operand]
  | mk _ (.ternary value condition otherwise) =>
    [hole value, fixed " if ", hole condition, fixed " else ", hole otherwise]
  | mk _ (.unpack operand) => [fixed "*", hole operand]
  | mk _ (.yield none) => [fixed "yield"]
  | mk _ (.yield (some value)) => [fixed "yield ", hole value]
  | mk _ (.yieldFrom source) => [fixed "yield from ", hole source]
  | mk _ (.lambda parameters body) =>
    fixed "lambda " ::
      (separated ", " (parameters.map Piece.ofParameter) ++ [fixed ": ", hole body])
  | mk _ (.slice start stop step) =>
    (start.map hole).toList ++ ofBound stop ++ ofBound step
  | mk _ (.list entries) =>
    fixed "[" :: (separated ", " (entries.map fun entry => [hole entry]) ++ [fixed "]"])
  | mk _ (.tuple [entry]) => [fixed "(", hole entry, fixed ", )"]
  | mk _ (.tuple entries) =>
    fixed "(" :: (separated ", " (entries.map fun entry => [hole entry]) ++ [fixed ")"])
  | mk _ (.set entries) => separated ", " (entries.map fun entry => [hole entry])
  | mk _ (.dictionary entries) =>
    fixed "\x7b " :: (separated ", " (entries.map ofEntry) ++ [fixed " \x7d"])
  | mk _ (.expandEntry mapping) => [fixed "**", hole mapping]
  | mk _ (.comprehension body clauses) =>
    ofBody body ++ fixed " " :: separated " " (clauses.map Piece.ofClause)
  | _ => [fixed "<Expression>"]

/-- The holes of a template stand for children of the node or for their children. -/
theorem mem_children_of_hole_mem_template {options : PrintOptions} {n c : Node}
    (h : hole c ∈ n.template options) :
    c ∈ n.children ∨ ∃ d ∈ n.children, c ∈ d.children := by
  have hA := @mem_children_of_hole_mem_ofArgument c
  have hP := @mem_children_of_hole_mem_ofParameter c
  have hC := @mem_children_of_hole_mem_ofClause c
  have hE := @eq_or_mem_children_of_hole_mem_ofEntry c
  rcases n with ⟨head, shape⟩
  cases shape with
  | yield value =>
    cases value <;> simp [template, Shape.mem_children, Shape.slots] at h ⊢
    grind
  | tuple entries =>
    simp only [children_mk, Shape.mem_children, Shape.slots]
    rcases entries with _ | ⟨a, _ | ⟨b, rest⟩⟩ <;> simp [template] at h <;> simp <;> grind
  | stringList strings forward =>
    rcases options with ⟨_ | _⟩ <;> cases forward <;>
      simp [template, Shape.mem_children, Shape.slots] at h ⊢ <;> grind
  | slice start stop step =>
    cases start <;> cases stop <;> cases step <;>
      simp [template, ofBound, Shape.mem_children, Shape.slots] at h ⊢ <;> grind
  | comprehension body clauses =>
    simp only [children_mk, Shape.mem_children, Shape.slots]
    simp [template, ofBody] at h ⊢
    split at h <;> grind
  | _ => simp [template] at h <;> simp [Shape.mem_children, Shape.slots] <;> grind

theorem sizeOf_lt_of_hole_mem_template {options : PrintOptions} {n c : Node}
    (h : hole c ∈ n.template options) : sizeOf c < sizeOf n := by
  rcases mem_children_of_hole_mem_template h with h | ⟨d, hd, h⟩
  · exact sizeOf_lt_of_mem_children h
  · exact Nat.lt_trans (sizeOf_lt_of_mem_children h) (sizeOf_lt_of_mem_children hd)

/-- The pieces of the text of a whole tree, without holes. -/
def pieces (options : PrintOptions) (n : Node) : List Piece :=
  (n.template options).attach.flatMap fun
    | ⟨.hole c, _⟩ => pieces options c
    | ⟨.fixed text, _⟩ => [.fixed text]
    | ⟨.leaf text, _⟩ => [.leaf text]
termination_by n
decreasing_by exact sizeOf_lt_of_hole_mem_template ‹_›

end Node

/-- What a piece stands for once its hole is filled. -/
def Piece.filled (options : PrintOptions) : Piece → List Piece
  | hole c => c.pieces options
  | piece => [piece]

namespace Node

theorem pieces_eq (options : PrintOptions) (n : Node) :
    n.pieces options = (n.template options).flatMap (Piece.filled options) := by
  rw [pieces]
  conv => rhs; rw [← List.attach_map_subtype_val (n.template options), List.flatMap_map]
  congr 1
  funext ⟨piece, _⟩
  cases piece <;> rfl

/-- The text that the templates prescribe for a node. -/
def text (options : PrintOptions) (n : Node) : String :=
  String.join ((n.pieces options).map Piece.text)

end Node

end SyntaxForest
