import SyntaxForest.Proofs.LeafBrackets

/-!
# Balanced expressions

A template closes the brackets that it opens, and what stands between them are leaves and other
nodes as a whole. So brackets match in the text of an expression if they match in the names and in
the string literals of the tree, however deep it is and whatever chains are unrolled on the way.
-/

namespace SyntaxForest

/-! ### Templates -/

/-- Brackets match in the pieces, each hole and each leaf taken as a whole: a fixed text that leaves
a bracket open is followed by one that closes it. -/
inductive Closed : List Piece → Prop where
  | nil : Closed []
  | fixed {text : String} {pieces : List Piece} :
      Balanced text → Closed pieces → Closed (.fixed text :: pieces)
  | leaf {text : String} {pieces : List Piece} :
      Balanced text → Closed pieces → Closed (.leaf text :: pieces)
  | hole {n : Node} {pieces : List Piece} : Closed pieces → Closed (.hole n :: pieces)
  | between {front behind : String} {inner pieces : List Piece} :
      Balanced (front ++ behind) → Closed inner → Closed pieces →
      Closed (.fixed front :: (inner ++ .fixed behind :: pieces))

namespace Closed

variable {pieces others : List Piece}

lemma append (h : Closed pieces) (h' : Closed others) : Closed (pieces ++ others) := by
  induction h with
  | nil => exact h'
  | fixed htext _ ih => exact .fixed htext ih
  | leaf htext _ ih => exact .leaf htext ih
  | hole _ ih => exact .hole ih
  | between hpair hinner _ _ ih =>
    rw [List.cons_append, List.append_assoc]
    exact .between hpair hinner ih

lemma separated {α : Type} {separator : String} {group : α → List Piece} {l : List α}
    (hseparator : Balanced separator) (h : ∀ a, Closed (group a)) :
    Closed (Piece.separated separator (l.map group)) := by
  induction l with
  | nil => exact .nil
  | cons a rest ih =>
    cases rest with
    | nil => simpa using h a
    | cons b rest =>
      rw [List.map_cons, List.map_cons, Piece.separated_cons_cons, ← List.map_cons]
      exact (h a).append (.fixed hseparator ih)

/-- Pieces in which brackets match have a balanced text, whatever balanced texts are put into the
holes. -/
lemma balanced_fill {printer : Node → String} (h : Closed pieces)
    (hholes : ∀ c, Piece.hole c ∈ pieces → Balanced (printer c)) :
    Balanced (fill printer pieces) := by
  induction h with
  | nil => exact .empty
  | fixed htext _ ih =>
    rw [fill_cons]
    exact htext.append (ih fun c hc => hholes c (List.mem_cons_of_mem _ hc))
  | leaf htext _ ih =>
    rw [fill_cons]
    exact htext.append (ih fun c hc => hholes c (List.mem_cons_of_mem _ hc))
  | hole _ ih =>
    rw [fill_cons]
    exact (hholes _ List.mem_cons_self).append
      (ih fun c hc => hholes c (List.mem_cons_of_mem _ hc))
  | @between front behind inner pieces hpair _ _ ihinner ih =>
    have hinner := ihinner fun c hc => hholes c (by simp [hc])
    have hpieces := ih fun c hc => hholes c (by simp [hc])
    have htext := (hpair.insert hinner).append hpieces
    simpa only [fill_cons, fill_append, textBy_fixed, String.append_assoc] using htext

end Closed

section Parts

lemma closed_items (separator : String) (hseparator : Balanced separator) (nodes : List Node) :
    Closed (Piece.separated separator (nodes.map fun n => [.hole n])) :=
  .separated hseparator fun _ => .hole .nil

lemma closed_ofName? (ident : Option NameNode) : Closed (Piece.ofName? ident) := by
  cases ident with
  | none => exact .nil
  | some ident => exact .hole .nil

lemma closed_ofArgument (argument : Placed (Argument Node)) :
    Closed (Piece.ofArgument argument) := by
  rcases argument with ⟨head, value, category, ident⟩
  have hstars : Balanced (Prescribed.argumentStars category) := by cases category <;> decide
  cases ident with
  | none => exact .fixed hstars (.hole .nil)
  | some ident => exact .fixed hstars (.hole (.fixed (by decide) (.hole .nil)))

lemma closed_ofParameter (parameter : Placed (Parameter Node)) :
    Closed (Piece.ofParameter parameter) := by
  rcases parameter with ⟨head, ident, category, declared, initial⟩
  have hstars : Balanced (Prescribed.parameterStars category) := by cases category <;> decide
  refine .fixed hstars ((closed_ofName? ident).append ?_)
  cases initial with
  | none => exact .nil
  | some value => exact .fixed (by decide) (.hole .nil)

lemma closed_ofClause (clause : Placed (Clause Node)) : Closed (Piece.ofClause clause) := by
  rcases clause with ⟨head, ⟨target, iterable, isAsync⟩ | condition⟩
  · have hfor : Balanced (if isAsync then "async for " else "for ") := by
      cases isAsync <;> decide
    exact .fixed hfor (.hole (.fixed (by decide) (.hole .nil)))
  · exact .fixed (by decide) (.hole .nil)

lemma closed_ofEntry (entry : Node) : Closed (Piece.ofEntry entry) := by
  unfold Piece.ofEntry
  split
  · exact .hole (.fixed (by decide) (.hole .nil))
  · exact .hole .nil

lemma closed_ofBody (body : Node) : Closed (Piece.ofBody body) := by
  unfold Piece.ofBody
  split
  · exact closed_ofEntry body
  · exact .fixed (by decide) .nil

lemma closed_ofBound (bound : Option Node) : Closed (Piece.ofBound bound) := by
  cases bound with
  | none => exact .nil
  | some bound => exact .fixed (by decide) (.hole .nil)

end Parts

namespace Node

/-- What a leaf brings along as it is: the value of a name, the text between the quotes of a string
literal. -/
def written? : Node → Option String
  | mk _ (.name token) => some token.value
  | mk _ (.string token) => some token.escaped
  | _ => none

/-- A template closes what it opens, if brackets match in what the node itself brings along. -/
theorem closed_template (options : PrintOptions) {n : Node}
    (h : ∀ text ∈ n.written?, Balanced text) : Closed (n.template options) := by
  have hcomma : Balanced ", " := by decide
  have hspace : Balanced " " := by decide
  have hround : Balanced ("(" ++ ")") := by decide
  have hsquare : Balanced ("[" ++ "]") := by decide
  rcases n with ⟨head, shape⟩
  cases shape with
  | name token => exact .leaf (h token.value rfl) .nil
  | string token => exact .leaf (balanced_literal (h token.escaped rfl)) .nil
  | number token => exact .leaf (balanced_number token.value) .nil
  | constant token => exact .leaf (balanced_constant token.keyword) .nil
  | ellipsis => exact .leaf (by decide) .nil
  | memberAccess left member => exact .hole (.fixed (by decide) (.hole .nil))
  | binary left operator right =>
    have hoperator := (hspace.append (balanced_operator operator)).append hspace
    exact .hole (.fixed hoperator (.hole .nil))
  | augmented left operator right =>
    have hoperator := (hspace.append (balanced_operator operator)).append hspace
    exact .hole (.fixed hoperator (.hole .nil))
  | unary operator operand =>
    exact .fixed ((balanced_operator operator).append hspace) (.hole .nil)
  | stringList strings forward =>
    have hstrings : Closed (Piece.separated " " (strings.map fun s => [.hole (ofString s)])) :=
      .separated hspace fun _ => .hole .nil
    rcases options with ⟨_ | _⟩
    · exact hstrings
    · cases forward with
      | none => exact hstrings
      | some declared => exact .hole .nil
  | call callee arguments =>
    exact .hole (.between hround (.separated hcomma closed_ofArgument) .nil)
  | index base items => exact .hole (.between hsquare (closed_items ", " hcomma items) .nil)
  | list entries => exact .between hsquare (closed_items ", " hcomma entries) .nil
  | tuple entries =>
    rcases entries with _ | ⟨first, _ | ⟨second, rest⟩⟩
    · exact .between hround .nil .nil
    · exact @Closed.between "(" ", )" [.hole first] [] (by decide) (.hole .nil) .nil
    · exact .between hround (closed_items ", " hcomma (first :: second :: rest)) .nil
  | set entries => exact closed_items ", " hcomma entries
  | dictionary entries =>
    exact .between (by decide) (.separated hcomma closed_ofEntry) .nil
  | comprehension body clauses =>
    exact (closed_ofBody body).append (.fixed hspace (.separated hspace closed_ofClause))
  | lambda parameters body =>
    exact .fixed (by decide)
      ((Closed.separated hcomma closed_ofParameter).append (.fixed (by decide) (.hole .nil)))
  | slice start stop step =>
    refine .append (.append ?_ (closed_ofBound stop)) (closed_ofBound step)
    cases start with
    | none => exact .nil
    | some start => exact .hole .nil
  | assignment target value => exact .hole (.fixed (by decide) (.hole .nil))
  | annotated value declared => exact .hole (.fixed (by decide) (.hole .nil))
  | ternary value condition otherwise =>
    exact .hole (.fixed (by decide) (.hole (.fixed (by decide) (.hole .nil))))
  | yield value =>
    cases value with
    | none => exact .fixed (by decide) .nil
    | some value => exact .fixed (by decide) (.hole .nil)
  | await operand => exact .fixed (by decide) (.hole .nil)
  | unpack operand => exact .fixed (by decide) (.hole .nil)
  | yieldFrom source => exact .fixed (by decide) (.hole .nil)
  | expandEntry mapping => exact .fixed (by decide) (.hole .nil)
  | _ => exact .fixed (by decide) .nil

/-! ### Whole trees -/

/-- Brackets match in every name and in every string literal of the tree. -/
def BalancedValues (n : Node) : Prop :=
  ∀ m, n.Reaches m → ∀ text ∈ m.written?, Balanced text

/-- Every node of a tree, of whatever kind, has a balanced text under any options, as long as the
names and the texts between the quotes of string literals are balanced. -/
theorem print_balanced (options : PrintOptions) {n : Node} (h : n.BalancedValues) :
    Balanced (n.print options) := by
  rw [print_eq_fill]
  apply (closed_template options (h n (.refl n))).balanced_fill
  intro c hc
  -- A hole may stand for a child of a child, so the recursion is on the size.
  have hbelow : c.BalancedValues := fun m hm => h m ((reaches_of_hole hc).trans hm)
  exact print_balanced options hbelow
termination_by sizeOf n
decreasing_by exact sizeOf_lt_of_hole_mem_template hc

section Witness

/-- A complex number with two parts: the real part is a zero with a minus sign. -/
def signedZeros : Node :=
  let zero (negative : Bool) : Binary64 := .finite negative 0 Binary64.leastExponent
  mk ⟨0, ⟨0, 7⟩, .given⟩ (.number (.ofValue (.complex (zero true) (zero false)) 0 0))

def starredItem : Placed (Argument Node) :=
  ⟨⟨3, ⟨0, 7⟩, .fitted⟩,
    ⟨mk ⟨2, ⟨0, 7⟩, .fitted⟩ (.index (ofName (nameAt 1 0 "x")) [signedZeros]), .unpackedList, none⟩⟩

def memberOfStarred : Node :=
  mk ⟨7, ⟨0, 7⟩, .fitted⟩ (.memberAccess
    (mk ⟨5, ⟨0, 7⟩, .fitted⟩ (.call (ofName (nameAt 4 0 "f")) [starredItem])) (nameAt 6 0 "y"))

def quotedBrackets : Node :=
  mk ⟨9, ⟨0, 0⟩, .fitted⟩ (.stringList [stringAt 8 0 "[()]"] none)

def keyedBrackets : Node :=
  mk ⟨11, ⟨0, 7⟩, .fitted⟩ (.dictionary
    [mk ⟨10, ⟨0, 7⟩, .fitted⟩ (.keyEntry quotedBrackets memberOfStarred)])

lemma balancedValues_mk {head : Head} {shape : Shape Node} :
    (mk head shape).BalancedValues ↔
      (∀ text ∈ (mk head shape).written?, Balanced text) ∧
        ∀ c ∈ shape.children, c.BalancedValues :=
  forall_reaches_iff

theorem keyedBrackets_balanced :
    keyedBrackets.BalancedValues ∧
      keyedBrackets.print ⟨false⟩ = "\x7b \"[()]\": f(*x[(-0+0j)]).y \x7d" ∧
      Balanced "\x7b \"[()]\": f(*x[(-0+0j)]).y \x7d" := by
  have hquoted : Balanced "[()]" := by decide
  have hf : Balanced "f" := by decide
  have hx : Balanced "x" := by decide
  have hy : Balanced "y" := by decide
  have hvalues : keyedBrackets.BalancedValues := by
    simp [keyedBrackets, quotedBrackets, memberOfStarred, starredItem, signedZeros, ofArgument,
      ofString, ofName, nameAt, stringAt, balancedValues_mk, written?, Shape.children, Shape.slots,
      NameToken.ofValue, StringToken.ofEscaped, hquoted, hf, hx, hy]
  have hprint : keyedBrackets.print ⟨false⟩ = "\x7b \"[()]\": f(*x[(-0+0j)]).y \x7d" := by
    simp [print_eq_fill, keyedBrackets, quotedBrackets, memberOfStarred, starredItem, signedZeros,
      ofString, ofName, nameAt, stringAt, template, Piece.ofEntry, Piece.ofArgument, Piece.ofName?,
      NameToken.ofValue, StringToken.ofEscaped, NumberToken.ofValue]
    rfl
  exact ⟨hvalues, hprint, hprint ▸ print_balanced ⟨false⟩ hvalues⟩

end Witness

end Node

end SyntaxForest
