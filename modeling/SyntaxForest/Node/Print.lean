import SyntaxForest.Node.Children
import SyntaxForest.Node.PrintOptions

/-!
# Printing expressions

The text of an expression on a single line. Every node has a text: a kind that is not printed, or
a part that stands where only an expression is printed, shows as a placeholder. Chains that lean to
the left (operations and member accesses) are printed in a loop, so that their length is no depth.
-/

namespace SyntaxForest

/-- What is shown for a node that is not printed. -/
def placeholder : String := "<Expression>"

/-- What is shown for the body of a comprehension that is not printed. -/
def bodyPlaceholder : String := "<ListExpression>"

def StringToken.literal (t : StringToken) : String :=
  String.ofList (t.flags.letters ++ t.flags.delimiter) ++ t.escaped ++
    String.ofList t.flags.delimiter

def KeywordToken.constant (t : KeywordToken) : String :=
  t.keyword.constant?.getD placeholder

def nameText : Option NameNode → String
  | some name => name.content.value
  | none => ""

def keywordText : Option NameNode → String
  | some name => name.content.value ++ "="
  | none => ""

def commaSeparated (texts : List String) : String :=
  ", ".intercalate texts

/-- The text of a tuple: a single entry is followed by a comma, too. -/
def tupleText : List String → String
  | [text] => "(" ++ text ++ ", )"
  | texts => "(" ++ commaSeparated texts ++ ")"

namespace Node

/-- What a chain that leans to the left goes on with: the left part of an operation or a member
access. -/
def left? : Node → Option Node
  | mk _ (.memberAccess left _) => some left
  | mk _ (.binary left _ _) => some left
  | mk _ (.augmented left _ _) => some left
  | _ => none

theorem mem_children_of_left? {n left : Node} (h : n.left? = some left) : left ∈ n.children := by
  unfold left? at h
  split at h <;> simp_all [Shape.mem_children, Shape.slots]

/-- Follows a chain to the left down to its root. The links that are passed are put in front of the
given ones, so that the link next to the root comes first. -/
def unroll (n : Node) (links : List Node) : Node × List Node :=
  match _ : n.left? with
  | some left => left.unroll (n :: links)
  | none => (n, links)
termination_by n
decreasing_by exact sizeOf_lt_of_mem_children (mem_children_of_left? ‹_›)

theorem sizeOf_unroll_le (n : Node) (links : List Node) :
    sizeOf (n.unroll links).1 ≤ sizeOf n ∧
      ∀ link ∈ (n.unroll links).2, link ∈ links ∨ sizeOf link ≤ sizeOf n := by
  fun_induction unroll n links with
  | case1 n links left h ih =>
    have hlt := sizeOf_lt_of_mem_children (mem_children_of_left? h)
    refine ⟨by omega, fun link hlink => ?_⟩
    rcases ih.2 link hlink with hmem | hle
    · rcases List.mem_cons.1 hmem with rfl | hmem
      · exact .inr (Nat.le_refl _)
      · exact .inl hmem
    · exact .inr (by omega)
  | case2 n links h => exact ⟨Nat.le_refl _, fun link hlink => .inl hlink⟩

theorem sizeOf_root_le {n root : Node} {links : List Node} (h : n.unroll [] = (root, links)) :
    sizeOf root ≤ sizeOf n := by
  simpa [h] using (sizeOf_unroll_le n []).1

theorem sizeOf_link_le {n root link : Node} {links : List Node} (h : n.unroll [] = (root, links))
    (hlink : link ∈ links) : sizeOf link ≤ sizeOf n := by
  simpa [h, hlink] using (sizeOf_unroll_le n []).2 link

mutual

/-- The text of a node. A chain that leans to the left is printed in a loop: the text of its root,
and then what each link adds to it. -/
def print (options : PrintOptions) (n : Node) : String :=
  match _ : n.unroll [] with
  | (root, links) =>
    links.attach.foldl (fun text ⟨link, _⟩ => text ++ printSuffix options link)
      (printRoot options root)
termination_by 3 * sizeOf n + 1
decreasing_by
  · have := sizeOf_link_le ‹_› ‹_›
    omega
  · have := sizeOf_root_le ‹_›
    omega

/-- What a link of a chain adds to the text on its left. -/
def printSuffix (options : PrintOptions) : Node → String
  | mk _ (.memberAccess _ member) => "." ++ member.content.value
  | mk _ (.binary _ operator right) =>
    " " ++ Operator.text operator ++ " " ++ print options right
  | mk _ (.augmented _ operator right) =>
    " " ++ Operator.text operator ++ " " ++ print options right
  | _ => ""
termination_by link => 3 * sizeOf link
decreasing_by all_goals simp; omega

/-- The text of a node that is no link of a chain. -/
def printRoot (options : PrintOptions) : Node → String
  | mk _ (.name token) => token.value
  | mk _ (.call callee arguments) =>
    let texts := arguments.attach.map fun ⟨argument, _⟩ => printArgument options argument
    print options callee ++ "(" ++ commaSeparated texts ++ ")"
  | mk _ (.index base items) =>
    let texts := items.attach.map fun ⟨item, _⟩ => print options item
    print options base ++ "[" ++ commaSeparated texts ++ "]"
  | mk _ (.unary operator operand) => Operator.text operator ++ " " ++ print options operand
  | mk _ (.number token) => token.value.text
  | mk _ (.stringList strings none) => " ".intercalate (strings.map (·.content.literal))
  | mk _ (.stringList strings (some declared)) =>
    if options.forward then print options declared
    else " ".intercalate (strings.map (·.content.literal))
  | mk _ (.string token) => token.literal
  | mk _ (.assignment target value) => print options target ++ " = " ++ print options value
  | mk _ (.annotated value declared) => print options value ++ ": " ++ print options declared
  | mk _ (.await operand) => "await " ++ print options operand
  | mk _ (.ternary value condition otherwise) =>
    print options value ++ " if " ++ print options condition ++ " else " ++
      print options otherwise
  | mk _ (.list entries) =>
    let texts := entries.attach.map fun ⟨entry, _⟩ => print options entry
    "[" ++ commaSeparated texts ++ "]"
  | mk _ (.unpack operand) => "*" ++ print options operand
  | mk _ (.tuple entries) =>
    tupleText (entries.attach.map fun ⟨entry, _⟩ => print options entry)
  | mk _ (.yield none) => "yield"
  | mk _ (.yield (some value)) => "yield " ++ print options value
  | mk _ (.yieldFrom source) => "yield from " ++ print options source
  | mk _ .ellipsis => "..."
  | mk _ (.comprehension body clauses) =>
    let bodyText :=
      if body.kind = .keyEntry ∨ body.kind.isExpression then printEntry options body
      else bodyPlaceholder
    let texts := clauses.attach.map fun ⟨clause, _⟩ => printClause options clause
    bodyText ++ " " ++ " ".intercalate texts
  | mk _ (.slice start stop step) =>
    let first := start.attach.map fun ⟨bound, _⟩ => print options bound
    let second := stop.attach.map fun ⟨bound, _⟩ => ":" ++ print options bound
    let third := step.attach.map fun ⟨bound, _⟩ => ":" ++ print options bound
    first.getD "" ++ second.getD "" ++ third.getD ""
  | mk _ (.lambda parameters body) =>
    let texts := parameters.attach.map fun ⟨parameter, _⟩ => printParameter options parameter
    "lambda " ++ commaSeparated texts ++ ": " ++ print options body
  | mk _ (.constant token) => token.constant
  | mk _ (.dictionary entries) =>
    let texts := entries.attach.map fun ⟨entry, _⟩ => printEntry options entry
    "\x7b " ++ commaSeparated texts ++ " \x7d"
  | mk _ (.expandEntry mapping) => "**" ++ print options mapping
  | mk _ (.set entries) =>
    commaSeparated (entries.attach.map fun ⟨entry, _⟩ => print options entry)
  | _ => placeholder
termination_by n => 3 * sizeOf n
decreasing_by
  all_goals simp
  all_goals grind [→ List.sizeOf_lt_of_mem, Option.some.sizeOf_spec]

/-- The text of a node where an entry of a dictionary may stand. -/
def printEntry (options : PrintOptions) : Node → String
  | mk _ (.keyEntry key value) => print options key ++ ": " ++ print options value
  | entry => print options entry
termination_by entry => 3 * sizeOf entry + 2
decreasing_by
  · simp; omega
  · simp; omega
  · omega

def printArgument (options : PrintOptions) : Placed (Argument Node) → String
  | ⟨_, value, category, name⟩ => category.stars ++ keywordText name ++ print options value
termination_by argument => 3 * sizeOf argument
decreasing_by simp; omega

/-- The text of a parameter of a lambda. The declared type is not shown. -/
def printParameter (options : PrintOptions) : Placed (Parameter Node) → String
  | ⟨_, name, category, _, none⟩ => category.stars ++ nameText name
  | ⟨_, name, category, _, some value⟩ =>
    category.stars ++ nameText name ++ " = " ++ print options value
termination_by parameter => 3 * sizeOf parameter
decreasing_by all_goals simp; omega

def printClause (options : PrintOptions) : Placed (Clause Node) → String
  | ⟨_, .each target iterable isAsync⟩ =>
    (if isAsync then "async for " else "for ") ++ print options target ++ " in " ++
      print options iterable
  | ⟨_, .test condition⟩ => "if " ++ print options condition
termination_by clause => 3 * sizeOf clause
decreasing_by all_goals simp; omega

end

end Node

end SyntaxForest
