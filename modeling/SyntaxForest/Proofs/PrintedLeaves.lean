import SyntaxForest.Proofs.Printing
import SyntaxForest.Proofs.Visits

/-!
# Leaves of printed expressions

The order of the parts of a node is written down twice, once for the children and once for the
templates. Where every node stands in a role that has a template for its kind, a walk over the tree
and a reading of the text come by the same leaves: none is left out, none comes twice, none has
another place.
-/

namespace SyntaxForest

/-! ### Nodes in their roles -/

/-- What a node is to its parent. -/
inductive Role where
  | expression | argument | parameter | entry | clause
deriving DecidableEq, Repr

/-- The kinds that have a template in a role. -/
def Role.Admits : Role → Kind → Prop
  | expression, kind => kind.isExpression ∧ kind ≠ .error
  | argument, kind => kind = .argument
  | parameter, kind => kind = .parameter
  | entry, kind => kind = .keyEntry ∨ (kind.isExpression ∧ kind ≠ .error)
  | clause, kind => kind = .forClause ∨ kind = .ifClause

namespace Shape

/-- The children of a layer in the order of the text, each with its role. -/
def roles : Shape Node → List (Role × Node)
  | call callee arguments =>
    (.expression, callee) :: arguments.map fun argument => (.argument, .ofArgument argument)
  | lambda parameters body =>
    (parameters.map fun parameter => (.parameter, .ofParameter parameter)) ++
      [(.expression, body)]
  | dictionary entries => entries.map fun entry => (.entry, entry)
  | comprehension body clauses =>
    (.entry, body) :: clauses.map fun clause => (.clause, .ofClause clause)
  | shape => shape.children.map fun c => (.expression, c)

/-- A layer that has a text of its own and no part that is left out of it: a keyword is a constant,
and neither a parameter nor a string list is annotated. -/
def Plain : Shape Node → Prop
  | parameter p => p.declared = none
  | stringList _ forward => forward = none
  | constant token => token.keyword.constant?.isSome
  | _ => True

lemma map_snd_roles (s : Shape Node) : s.roles.map Prod.snd = s.children := by
  cases s with
  | clause c => cases c <;> simp [roles, children, slots]
  | _ => simp [roles, children, slots, Function.comp_def]

end Shape

/-- In its role and everywhere below it, the node has a template for every kind. -/
inductive Printable : Role → Node → Prop where
  | intro {role : Role} {n : Node} :
      role.Admits n.kind → n.shape.Plain →
      (∀ part ∈ n.shape.roles, Printable part.1 part.2) → Printable role n

section Printable

variable {role : Role} {n : Node}

lemma Printable.admits (h : Printable role n) : role.Admits n.kind := by
  cases h with
  | intro hadmits _ _ => exact hadmits

lemma Printable.plain (h : Printable role n) : n.shape.Plain := by
  cases h with
  | intro _ hplain _ => exact hplain

lemma Printable.of_role (h : Printable role n) {part : Role × Node}
    (hpart : part ∈ n.shape.roles) : Printable part.1 part.2 := by
  cases h with
  | intro _ _ hparts => exact hparts part hpart

lemma Printable.exists_of_child (h : Printable role n) {c : Node} (hc : c ∈ n.children) :
    ∃ role', Printable role' c := by
  rw [Node.children, ← Shape.map_snd_roles] at hc
  obtain ⟨part, hpart, rfl⟩ := List.mem_map.mp hc
  exact ⟨part.1, h.of_role hpart⟩

lemma Printable.exists_of_reaches (h : Printable role n) {m : Node} (hm : n.Reaches m) :
    ∃ role', Printable role' m := by
  induction hm with
  | refl => exact ⟨role, h⟩
  | tail _ hc ih =>
    obtain ⟨role', hparent⟩ := ih
    exact hparent.exists_of_child hc

lemma Printable.expression (h : Printable role n) (hkind : Role.expression.Admits n.kind) :
    Printable .expression n :=
  .intro hkind h.plain fun _ => h.of_role

end Printable

/-! ### Leaves -/

namespace Node

/-- The text of a leaf. Other nodes have no text but that of their parts and of the template. -/
def leafText? : Node → Option String
  | mk _ (.name token) => some token.value
  | mk _ (.number token) => some token.value.text
  | mk _ (.string token) => some token.literal
  | mk _ (.constant token) => token.keyword.constant?
  | mk _ .ellipsis => some "..."
  | _ => none

end Node

/-- The text of a piece that is a leaf. -/
def Piece.leaf? : Piece → Option String
  | leaf text => some text
  | _ => none

namespace Node

lemma isSome_leafText? {role : Role} {n : Node} (h : Printable role n) :
    n.leafText?.isSome ↔ n.kind.IsLeaf := by
  have hplain := h.plain
  rcases n with ⟨head, shape⟩
  cases shape with
  | constant token => exact iff_of_true hplain (by simp [Kind.IsLeaf, Shape.kind])
  | clause c => cases c <;> simp [leafText?, Kind.IsLeaf, Shape.kind, Clause.kind]
  | _ => simp [leafText?, Kind.IsLeaf, Shape.kind]

lemma children_of_leafText? {n : Node} {text : String} (h : n.leafText? = some text) :
    n.children = [] := by
  unfold leafText? at h
  split at h
  all_goals first | rfl | cases h

/-- The texts of the leaves of a tree, in the order of a walk. -/
def leafTexts (n : Node) : List String :=
  n.preorder.filterMap leafText?

lemma leafTexts_eq (n : Node) :
    n.leafTexts = n.leafText?.toList ++ n.children.flatMap leafTexts := by
  unfold leafTexts
  rw [preorder_eq, List.filterMap_cons, List.filterMap_flatMap]
  cases n.leafText? <;> rfl

end Node

/-! ### Pieces and the nodes that they spell -/

def punctuation : List String :=
  ["", "*", "**", "=", " = ", ".", ", ", ", )", "(", ")", "[", "]", "\x7b ", " \x7d", ":", ": ",
    " "]

def words : List String :=
  ["await ", " if ", " else ", "yield", "yield ", "yield from ", "lambda ", "async for ", "for ",
    " in ", "if "]

/-- What a template may consist of besides leaves and other nodes. -/
def IsTemplateText (text : String) : Prop :=
  text ∈ punctuation ∨ text ∈ words ∨
    ∃ operator : Option Operator,
      text = Operator.text operator ++ " " ∨ text = " " ++ Operator.text operator ++ " "

/-- The pieces spell the nodes, from the first to the last: a leaf by its text, any other node by a
hole, where there may be one, or part by part, with fixed texts in between. -/
inductive Spells (gap : Node → Prop) : List Piece → List Node → Prop where
  | nil : Spells gap [] []
  | fixed {text : String} {pieces : List Piece} {nodes : List Node} :
      IsTemplateText text → Spells gap pieces nodes → Spells gap (.fixed text :: pieces) nodes
  | leaf {n : Node} {text : String} {pieces : List Piece} {nodes : List Node} :
      n.leafText? = some text → Spells gap pieces nodes →
      Spells gap (.leaf text :: pieces) (n :: nodes)
  | hole {n : Node} {pieces : List Piece} {nodes : List Node} :
      gap n → Spells gap pieces nodes → Spells gap (.hole n :: pieces) (n :: nodes)
  | parts {n : Node} {pieces : List Piece} {nodes : List Node} :
      n.leafText? = none → Spells gap pieces (n.children ++ nodes) → Spells gap pieces (n :: nodes)

namespace Spells

variable {gap gap' : Node → Prop} {pieces others : List Piece} {nodes more : List Node}

lemma append (h : Spells gap pieces nodes) (h' : Spells gap others more) :
    Spells gap (pieces ++ others) (nodes ++ more) := by
  induction h with
  | nil => exact h'
  | fixed htext _ ih => exact .fixed htext ih
  | leaf htext _ ih => exact .leaf htext ih
  | hole hgap _ ih => exact .hole hgap ih
  | parts hnone _ ih =>
    rw [List.append_assoc] at ih
    exact .parts hnone ih

lemma append_fixed {text : String} (htext : IsTemplateText text) (h : Spells gap pieces nodes) :
    Spells gap (pieces ++ [.fixed text]) nodes := by
  have happend := h.append (.fixed htext .nil)
  rwa [List.append_nil] at happend

/-- Groups of pieces, each of which spells one node, spell all of them with a fixed text between. -/
lemma separated {α : Type} {separator : String} (hseparator : IsTemplateText separator)
    {group : α → List Piece} {node : α → Node} {l : List α}
    (h : ∀ a ∈ l, Spells gap (group a) [node a]) :
    Spells gap (Piece.separated separator (l.map group)) (l.map node) := by
  induction l with
  | nil => exact .nil
  | cons a rest ih =>
    have hfirst := h a List.mem_cons_self
    have hrest := ih fun b hb => h b (List.mem_cons_of_mem a hb)
    cases rest with
    | nil => simpa using hfirst
    | cons b rest =>
      rw [List.map_cons, List.map_cons, Piece.separated_cons_cons, ← List.map_cons]
      exact hfirst.append (.fixed hseparator hrest)

/-- The holes may be filled with pieces that spell the same nodes. -/
lemma fill (options : PrintOptions) (h : Spells gap pieces nodes)
    (hfill : ∀ n, Piece.hole n ∈ pieces → gap n → Spells gap' (n.pieces options) [n]) :
    Spells gap' (pieces.flatMap (Piece.filled options)) nodes := by
  induction h with
  | nil => exact .nil
  | fixed htext _ ih => exact .fixed htext (ih fun n hn => hfill n (List.mem_cons_of_mem _ hn))
  | leaf htext _ ih => exact .leaf htext (ih fun n hn => hfill n (List.mem_cons_of_mem _ hn))
  | hole hgap _ ih =>
    have hfirst := hfill _ List.mem_cons_self hgap
    exact hfirst.append (ih fun n hn => hfill n (List.mem_cons_of_mem _ hn))
  | parts hnone _ ih => exact .parts hnone (ih hfill)

lemma leaves (h : Spells (fun _ => False) pieces nodes) :
    pieces.filterMap Piece.leaf? = nodes.flatMap Node.leafTexts := by
  induction h with
  | nil => rfl
  | fixed _ _ ih => exact ih
  | leaf htext _ ih =>
    rw [List.flatMap_cons, Node.leafTexts_eq, htext, Node.children_of_leafText? htext, ← ih]
    rfl
  | hole hgap _ _ => exact hgap.elim
  | parts hnone _ ih =>
    rw [ih, List.flatMap_append, List.flatMap_cons, Node.leafTexts_eq, hnone]
    rfl

lemma fixed_or_leaf (h : Spells (fun _ => False) pieces nodes) {piece : Piece}
    (hpiece : piece ∈ pieces) :
    (∃ text, IsTemplateText text ∧ piece = .fixed text) ∨ ∃ text, piece = .leaf text := by
  induction h with
  | nil => cases hpiece
  | fixed htext _ ih =>
    rcases List.mem_cons.mp hpiece with rfl | hpiece
    · exact .inl ⟨_, htext, rfl⟩
    · exact ih hpiece
  | leaf _ _ ih =>
    rcases List.mem_cons.mp hpiece with rfl | hpiece
    · exact .inr ⟨_, rfl⟩
    · exact ih hpiece
  | hole hgap _ _ => exact hgap.elim
  | parts _ _ ih => exact ih hpiece

end Spells

/-! ### Templates spell their nodes -/

section Templates

attribute [local simp] IsTemplateText punctuation words

/-- The children of a node whose roles are all the same are printed like any expression. -/
lemma Printable.of_child {role : Role} {n c : Node} (h : Printable role n)
    (hroles : n.shape.roles = n.shape.children.map fun d => (.expression, d))
    (hc : c ∈ n.children) : Printable .expression c := by
  have hpart : (Role.expression, c) ∈ n.shape.roles := by
    rw [hroles]
    exact List.mem_map_of_mem hc
  exact h.of_role hpart

/-- A node that is no leaf is spelled by what spells its children. -/
lemma spells_parts {gap : Node → Prop} {pieces : List Piece} {n : Node} {nodes : List Node}
    (hnone : n.leafText? = none) (hchildren : n.children = nodes) (h : Spells gap pieces nodes) :
    Spells gap pieces [n] := by
  subst hchildren
  rw [← List.append_nil n.children] at h
  exact .parts hnone h

/-- A fixed text in front of the only child. -/
lemma Printable.spells_operand {role : Role} {n c : Node} (h : Printable role n)
    (hroles : n.shape.roles = [(.expression, c)]) (hnone : n.leafText? = none) {text : String}
    (htext : IsTemplateText text) :
    Spells (Printable .expression) [.fixed text, .hole c] [n] := by
  have hchildren : n.children = [c] := by
    rw [Node.children, ← Shape.map_snd_roles, hroles]
    rfl
  have hc : Printable .expression c := h.of_role (hroles ▸ List.mem_cons_self)
  exact spells_parts hnone hchildren (.fixed htext (.hole hc .nil))

/-- A fixed text between the only two children. -/
lemma Printable.spells_pair {role : Role} {n a b : Node} (h : Printable role n)
    (hroles : n.shape.roles = [(.expression, a), (.expression, b)]) (hnone : n.leafText? = none)
    {text : String} (htext : IsTemplateText text) :
    Spells (Printable .expression) [.hole a, .fixed text, .hole b] [n] := by
  have hchildren : n.children = [a, b] := by
    rw [Node.children, ← Shape.map_snd_roles, hroles]
    rfl
  have ha : Printable .expression a := h.of_role (hroles ▸ List.mem_cons_self)
  have hb : Printable .expression b :=
    h.of_role (hroles ▸ List.mem_cons_of_mem _ List.mem_cons_self)
  exact spells_parts hnone hchildren (.hole ha (.fixed htext (.hole hb .nil)))

/-- All children, with commas between. -/
lemma Printable.spells_items {role : Role} {n : Node} (h : Printable role n)
    (hroles : n.shape.roles = n.shape.children.map fun c => (.expression, c)) (items : List Node)
    (hitems : items ⊆ n.children) :
    Spells (Printable .expression)
      (Piece.separated ", " (items.map fun item => [.hole item])) items := by
  have hlist : Spells (Printable .expression)
      (Piece.separated ", " (items.map fun item => [.hole item])) (items.map id) :=
    .separated (by simp) fun item hitem => .hole (h.of_child hroles (hitems hitem)) .nil
  rwa [List.map_id] at hlist

lemma spells_ofArgument {part : Placed (Argument Node)}
    (h : Printable .argument (.ofArgument part)) :
    Spells (Printable .expression) (Piece.ofArgument part) [.ofArgument part] := by
  have hchild : ∀ c ∈ (Node.ofArgument part).children, Printable .expression c :=
    fun c => h.of_child rfl
  rcases part with ⟨head, value, category, name⟩
  have hstars : IsTemplateText (Prescribed.argumentStars category) := by
    cases category <;> simp [ArgumentCategory.stars]
  cases name with
  | none => exact .parts rfl (.fixed hstars (.hole (hchild value (.head _)) .nil))
  | some name =>
    exact .parts rfl (.fixed hstars (.hole (hchild (.ofName name) (.head _))
      (.fixed (by simp) (.hole (hchild value (.tail _ (.head _))) .nil))))

lemma spells_ofParameter {part : Placed (Parameter Node)}
    (h : Printable .parameter (.ofParameter part)) :
    Spells (Printable .expression) (Piece.ofParameter part) [.ofParameter part] := by
  have hchild : ∀ c ∈ (Node.ofParameter part).children, Printable .expression c :=
    fun c => h.of_child rfl
  have hplain := h.plain
  rcases part with ⟨head, name, category, declared, initial⟩
  cases hplain
  have hstars : IsTemplateText (Prescribed.parameterStars category) := by
    cases category <;> simp [ParameterCategory.stars]
  rcases name with _ | name <;> rcases initial with _ | value
  · exact .parts rfl (.fixed hstars .nil)
  · exact .parts rfl (.fixed hstars (.fixed (by simp) (.hole (hchild value (.head _)) .nil)))
  · exact .parts rfl (.fixed hstars (.hole (hchild (.ofName name) (.head _)) .nil))
  · exact .parts rfl (.fixed hstars (.hole (hchild (.ofName name) (.head _))
      (.fixed (by simp) (.hole (hchild value (.tail _ (.head _))) .nil))))

lemma spells_ofClause {part : Placed (Clause Node)} (h : Printable .clause (.ofClause part)) :
    Spells (Printable .expression) (Piece.ofClause part) [.ofClause part] := by
  have hchild : ∀ c ∈ (Node.ofClause part).children, Printable .expression c :=
    fun c => h.of_child rfl
  rcases part with ⟨head, ⟨target, iterable, isAsync⟩ | condition⟩
  · have hfor : IsTemplateText (if isAsync then "async for " else "for ") := by
      cases isAsync <;> simp
    exact .parts rfl (.fixed hfor (.hole (hchild target (.head _))
      (.fixed (by simp) (.hole (hchild iterable (.tail _ (.head _))) .nil))))
  · exact h.spells_operand rfl rfl (by simp)

lemma spells_ofEntry {entry : Node} (h : Printable .entry entry) :
    Spells (Printable .expression) (Piece.ofEntry entry) [entry] := by
  rcases h.admits with hkey | hexpression
  · rcases entry with ⟨head, shape⟩
    cases shape with
    | keyEntry key value => exact h.spells_pair rfl rfl (by simp)
    | clause c => cases c <;> cases hkey
    | _ => cases hkey
  · have hplain : Piece.ofEntry entry = [.hole entry] := by
      unfold Piece.ofEntry
      split
      · cases hexpression.1
      · rfl
    rw [hplain]
    exact .hole (h.expression hexpression) .nil

lemma spells_ofBody {body : Node} (h : Printable .entry body) :
    Spells (Printable .expression) (Piece.ofBody body) [body] := by
  have hkind : body.kind = .keyEntry ∨ body.kind.isExpression := h.admits.imp_right And.left
  unfold Piece.ofBody
  rw [if_pos hkind]
  exact spells_ofEntry h

lemma isTemplateText_between (operator : Option Operator) :
    IsTemplateText (" " ++ Prescribed.operator operator ++ " ") := by
  rw [Prescribed.operator_eq_text]
  exact .inr (.inr ⟨operator, .inr rfl⟩)

lemma spells_ofBound {bound : Option Node} (h : ∀ c ∈ bound, Printable .expression c) :
    Spells (Printable .expression) (Piece.ofBound bound) bound.toList := by
  cases bound with
  | none => exact .nil
  | some c => exact .fixed (by simp) (.hole (h c rfl) .nil)

section Kinds

variable (options : PrintOptions) {head : Head}

lemma spells_slice {start stop step : Option Node}
    (h : Printable .expression (.mk head (.slice start stop step))) :
    Spells (Printable .expression) ((Node.mk head (.slice start stop step)).template options)
      [.mk head (.slice start stop step)] := by
  have hchildren : (Node.mk head (.slice start stop step)).children =
      start.toList ++ stop.toList ++ step.toList := by
    cases start <;> cases stop <;> cases step <;> rfl
  have hbound : ∀ c, start = some c ∨ stop = some c ∨ step = some c → Printable .expression c := by
    intro c hc
    apply h.of_child rfl
    rw [hchildren]
    simpa using hc
  have hstart : Spells (Printable .expression) (start.map Piece.hole).toList start.toList := by
    cases start with
    | none => exact .nil
    | some c => exact .hole (hbound c (.inl rfl)) .nil
  have hstop := spells_ofBound fun c hc => hbound c (.inr (.inl hc))
  have hstep := spells_ofBound fun c hc => hbound c (.inr (.inr hc))
  exact spells_parts rfl hchildren ((hstart.append hstop).append hstep)

lemma spells_stringList {strings : List StringNode}
    (h : Printable .expression (.mk head (.stringList strings none))) :
    Spells (Printable .expression) ((Node.mk head (.stringList strings none)).template options)
      [.mk head (.stringList strings none)] := by
  have hchildren : (Node.mk head (.stringList strings none)).children =
      strings.map Node.ofString := by
    simp [Shape.children, Shape.slots]
  have hstrings : ∀ part ∈ strings, Printable .expression (.ofString part) := by
    intro part hpart
    apply h.of_child rfl
    rw [hchildren]
    exact List.mem_map_of_mem hpart
  have htemplate : (Node.mk head (.stringList strings none)).template options =
      Piece.separated " " (strings.map fun part => [.hole (.ofString part)]) := by
    rcases options with ⟨_ | _⟩ <;> rfl
  rw [htemplate]
  exact spells_parts rfl hchildren
    (.separated (by simp) fun part hpart => .hole (hstrings part hpart) .nil)

lemma spells_call {callee : Node} {arguments : List (Placed (Argument Node))}
    (h : Printable .expression (.mk head (.call callee arguments))) :
    Spells (Printable .expression) ((Node.mk head (.call callee arguments)).template options)
      [.mk head (.call callee arguments)] := by
  have hchildren : (Node.mk head (.call callee arguments)).children =
      callee :: arguments.map Node.ofArgument := by
    simp [Shape.children, Shape.slots]
  have hcallee : Printable .expression callee := h.of_role List.mem_cons_self
  have harguments : ∀ argument ∈ arguments, Printable .argument (.ofArgument argument) :=
    fun argument hargument => h.of_role (List.mem_cons_of_mem _ (List.mem_map_of_mem hargument))
  have hlist : Spells (Printable .expression)
      (Piece.separated ", " (arguments.map Piece.ofArgument)) (arguments.map Node.ofArgument) :=
    .separated (by simp) fun argument hargument => spells_ofArgument (harguments argument hargument)
  exact spells_parts rfl hchildren
    (.hole hcallee (.fixed (by simp) (hlist.append_fixed (by simp))))

lemma spells_lambda {parameters : List (Placed (Parameter Node))} {body : Node}
    (h : Printable .expression (.mk head (.lambda parameters body))) :
    Spells (Printable .expression) ((Node.mk head (.lambda parameters body)).template options)
      [.mk head (.lambda parameters body)] := by
  have hchildren : (Node.mk head (.lambda parameters body)).children =
      parameters.map Node.ofParameter ++ [body] := by
    simp [Shape.children, Shape.slots]
  have hparameters : ∀ parameter ∈ parameters, Printable .parameter (.ofParameter parameter) :=
    fun parameter hparameter =>
      h.of_role (List.mem_append_left _ (List.mem_map_of_mem hparameter))
  have hbody : Printable .expression body :=
    h.of_role (List.mem_append_right _ List.mem_cons_self)
  have hlist : Spells (Printable .expression)
      (Piece.separated ", " (parameters.map Piece.ofParameter))
      (parameters.map Node.ofParameter) :=
    .separated (by simp) fun parameter hparameter =>
      spells_ofParameter (hparameters parameter hparameter)
  exact spells_parts rfl hchildren
    (.fixed (by simp) (hlist.append (.fixed (by simp) (.hole hbody .nil))))

lemma spells_dictionary {entries : List Node}
    (h : Printable .expression (.mk head (.dictionary entries))) :
    Spells (Printable .expression) ((Node.mk head (.dictionary entries)).template options)
      [.mk head (.dictionary entries)] := by
  have hchildren : (Node.mk head (.dictionary entries)).children = entries.map id := by
    simp [Shape.children, Shape.slots]
  have hentries : ∀ entry ∈ entries, Printable .entry entry :=
    fun entry hentry => h.of_role (List.mem_map_of_mem hentry)
  have hlist : Spells (Printable .expression)
      (Piece.separated ", " (entries.map Piece.ofEntry)) (entries.map id) :=
    .separated (by simp) fun entry hentry => spells_ofEntry (hentries entry hentry)
  exact spells_parts rfl hchildren (.fixed (by simp) (hlist.append_fixed (by simp)))

lemma spells_comprehension {body : Node} {clauses : List (Placed (Clause Node))}
    (h : Printable .expression (.mk head (.comprehension body clauses))) :
    Spells (Printable .expression) ((Node.mk head (.comprehension body clauses)).template options)
      [.mk head (.comprehension body clauses)] := by
  have hchildren : (Node.mk head (.comprehension body clauses)).children =
      [body] ++ clauses.map Node.ofClause := by
    simp [Shape.children, Shape.slots]
  have hbody : Printable .entry body := h.of_role List.mem_cons_self
  have hclauses : ∀ clause ∈ clauses, Printable .clause (.ofClause clause) :=
    fun clause hclause => h.of_role (List.mem_cons_of_mem _ (List.mem_map_of_mem hclause))
  have hlist : Spells (Printable .expression)
      (Piece.separated " " (clauses.map Piece.ofClause)) (clauses.map Node.ofClause) :=
    .separated (by simp) fun clause hclause => spells_ofClause (hclauses clause hclause)
  exact spells_parts rfl hchildren ((spells_ofBody hbody).append (.fixed (by simp) hlist))

lemma spells_tuple {entries : List Node}
    (h : Printable .expression (.mk head (.tuple entries))) :
    Spells (Printable .expression) ((Node.mk head (.tuple entries)).template options)
      [.mk head (.tuple entries)] := by
  have hchildren : (Node.mk head (.tuple entries)).children = entries := by
    simp [Shape.children, Shape.slots]
  have hentries := h.spells_items rfl entries (by rw [hchildren]; exact List.Subset.refl entries)
  rcases entries with _ | ⟨first, _ | ⟨second, rest⟩⟩
  · exact spells_parts rfl hchildren (.fixed (by simp) (hentries.append_fixed (by simp)))
  · have hfirst : Printable .expression first := h.of_role List.mem_cons_self
    exact spells_parts rfl hchildren (.fixed (by simp) (.hole hfirst (.fixed (by simp) .nil)))
  · exact spells_parts rfl hchildren (.fixed (by simp) (hentries.append_fixed (by simp)))

lemma spells_index {base : Node} {items : List Node}
    (h : Printable .expression (.mk head (.index base items))) :
    Spells (Printable .expression) ((Node.mk head (.index base items)).template options)
      [.mk head (.index base items)] := by
  have hchildren : (Node.mk head (.index base items)).children = base :: items := by
    simp [Shape.children, Shape.slots]
  have hbase : Printable .expression base := h.of_role List.mem_cons_self
  have hsubset : items ⊆ (Node.mk head (.index base items)).children := by
    rw [hchildren]
    exact List.subset_cons_self base items
  have hitems := h.spells_items rfl items hsubset
  exact spells_parts rfl hchildren
    (.hole hbase (.fixed (by simp) (hitems.append_fixed (by simp))))

end Kinds

/-- The template of a node that is printed as an expression spells this node: it has the leaves and
the children of the node in their order, and besides them fixed texts only. -/
theorem spells_template (options : PrintOptions) {n : Node} (h : Printable .expression n) :
    Spells (Printable .expression) (n.template options) [n] := by
  have hadmits := h.admits
  have hplain := h.plain
  rcases n with ⟨head, shape⟩
  cases shape with
  | error child => exact absurd rfl hadmits.2
  | module statements => cases hadmits.1
  | classDef ident arguments suite => cases hadmits.1
  | functionDef ident parameters result suite isAsync => cases hadmits.1
  | parameter content => cases hadmits.1
  | returnStatement value => cases hadmits.1
  | argument content => cases hadmits.1
  | keyEntry key value => cases hadmits.1
  | clause content => cases content <;> cases hadmits.1
  | name token => exact .leaf rfl .nil
  | number token => exact .leaf (congrArg some (Prescribed.number_eq_text _).symm) .nil
  | string token => exact .leaf (congrArg some (Prescribed.literal_eq_literal token).symm) .nil
  | ellipsis => exact .leaf rfl .nil
  | constant token =>
    obtain ⟨text, htext⟩ := Option.isSome_iff_exists.mp hplain
    have htexts : some text = some (Prescribed.constant token.keyword) := by
      rw [Prescribed.constant_eq_constant, KeywordToken.constant, htext, Option.getD_some]
    exact .leaf (htext.trans htexts) .nil
  | memberAccess left member => exact h.spells_pair rfl rfl (by simp)
  | binary left operator right => exact h.spells_pair rfl rfl (isTemplateText_between operator)
  | augmented left operator right => exact h.spells_pair rfl rfl (isTemplateText_between operator)
  | assignment target value => exact h.spells_pair rfl rfl (by simp)
  | annotated value declared => exact h.spells_pair rfl rfl (by simp)
  | unary operator operand =>
    have hoperator : IsTemplateText (Prescribed.operator operator ++ " ") := by
      rw [Prescribed.operator_eq_text]
      exact .inr (.inr ⟨operator, .inl rfl⟩)
    exact h.spells_operand rfl rfl hoperator
  | await operand => exact h.spells_operand rfl rfl (by simp)
  | unpack operand => exact h.spells_operand rfl rfl (by simp)
  | yieldFrom source => exact h.spells_operand rfl rfl (by simp)
  | expandEntry mapping => exact h.spells_operand rfl rfl (by simp)
  | yield value =>
    cases value with
    | none => exact .parts rfl (.fixed (by simp) .nil)
    | some value => exact h.spells_operand rfl rfl (by simp)
  | ternary value condition otherwise =>
    have hvalue : Printable .expression value := h.of_child rfl (.head _)
    have hcondition : Printable .expression condition := h.of_child rfl (.tail _ (.head _))
    have hotherwise : Printable .expression otherwise :=
      h.of_child rfl (.tail _ (.tail _ (.head _)))
    exact .parts rfl (.hole hvalue (.fixed (by simp) (.hole hcondition
      (.fixed (by simp) (.hole hotherwise .nil)))))
  | slice start stop step => exact spells_slice options h
  | stringList strings forward =>
    cases hplain
    exact spells_stringList options h
  | call callee arguments => exact spells_call options h
  | lambda parameters body => exact spells_lambda options h
  | dictionary entries => exact spells_dictionary options h
  | comprehension body clauses => exact spells_comprehension options h
  | tuple entries => exact spells_tuple options h
  | index base items => exact spells_index options h
  | list entries =>
    have hchildren : (Node.mk head (.list entries)).children = entries := by
      simp [Shape.children, Shape.slots]
    have hentries := h.spells_items rfl entries (by rw [hchildren]; exact List.Subset.refl entries)
    exact spells_parts rfl hchildren (.fixed (by simp) (hentries.append_fixed (by simp)))
  | set entries =>
    have hchildren : (Node.mk head (.set entries)).children = entries := by
      simp [Shape.children, Shape.slots]
    have hentries := h.spells_items rfl entries (by rw [hchildren]; exact List.Subset.refl entries)
    exact spells_parts rfl hchildren hentries

end Templates

/-! ### Texts spell their nodes -/

namespace Node

/-- The recursion is on the size and not on the children: a template fills the holes of arguments,
parameters, entries and clauses itself, so that its own holes may stand for children of children. -/
theorem spells_pieces (options : PrintOptions) {n : Node} (h : Printable .expression n) :
    Spells (fun _ => False) (n.pieces options) [n] := by
  rw [pieces_eq]
  exact (spells_template options h).fill options fun c hc hprintable =>
    spells_pieces options hprintable
termination_by sizeOf n
decreasing_by exact sizeOf_lt_of_hole_mem_template hc

/-- A printed expression consists of fixed texts and of leaves. The leaves are those of the tree in
the order of a walk that enters every node, one for each visit to a leaf. -/
theorem print_leaves_eq_visited (options : PrintOptions) {n : Node}
    (h : Printable .expression n) :
    n.print options = String.join ((n.pieces options).map Piece.text) ∧
    (∀ piece ∈ n.pieces options,
      (∃ text, IsTemplateText text ∧ piece = .fixed text) ∨ ∃ text, piece = .leaf text) ∧
    (n.pieces options).filterMap Piece.leaf? = n.visited.filterMap leafText? ∧
    ∀ m ∈ n.visited, m.leafText?.isSome ↔ m.kind.IsLeaf := by
  have hspells := spells_pieces options h
  have hprint := eq_of_fill options (print_eq_fill options) (text_eq_fill options) n
  refine ⟨hprint, fun piece => hspells.fixed_or_leaf, ?_, ?_⟩
  · rw [hspells.leaves, List.flatMap_singleton, leafTexts, visited_eq_preorder]
  · intro m hm
    obtain ⟨role, hrole⟩ := h.exists_of_reaches (mem_visited.mp hm)
    exact isSome_leafText? hrole

section Witness

def noneTerm : Node :=
  mk ⟨1, ⟨0, 4⟩, .given⟩ (.constant (.ofKeyword .noneWord 0))

def starParameter : Placed (Parameter Node) :=
  ⟨⟨2, ⟨0, 1⟩, .fitted⟩, ⟨some (nameAt 0 0 "a"), .varArgList, none, none⟩⟩

def initialParameter : Placed (Parameter Node) :=
  ⟨⟨4, ⟨0, 4⟩, .fitted⟩, ⟨some (nameAt 3 0 "b"), .simple, none, some noneTerm⟩⟩

def starArgument : Placed (Argument Node) :=
  ⟨⟨6, ⟨0, 1⟩, .fitted⟩, ⟨ofName (nameAt 5 0 "b"), .unpackedDictionary, none⟩⟩

def memberOfCall : Node :=
  mk ⟨10, ⟨0, 1⟩, .fitted⟩ (.memberAccess
    (mk ⟨8, ⟨0, 1⟩, .fitted⟩ (.call (ofName (nameAt 7 0 "f")) [starArgument])) (nameAt 9 0 "x"))

def keyedMember : Node :=
  mk ⟨12, ⟨0, 3⟩, .fitted⟩ (.keyEntry (ofString (stringAt 11 0 "k")) memberOfCall)

def quotedPair : Node :=
  mk ⟨15, ⟨0, 3⟩, .fitted⟩ (.stringList [stringAt 13 0 "u", stringAt 14 0 "v"] none)

def loneTuple : Node :=
  mk ⟨16, ⟨0, 3⟩, .fitted⟩ (.tuple [quotedPair])

def asyncClause : Placed (Clause Node) :=
  ⟨⟨18, ⟨0, 3⟩, .fitted⟩, .each (ofName (nameAt 17 0 "k")) loneTuple true⟩

def ellipsisIsNumber : Node :=
  mk ⟨22, ⟨0, 3⟩, .fitted⟩ (.binary (mk ⟨19, ⟨0, 3⟩, .given⟩ .ellipsis) (some .nonIdentity)
    (mk ⟨21, ⟨0, 1⟩, .fitted⟩ (.unary (some .bitwiseInvert)
      (mk ⟨20, ⟨0, 1⟩, .given⟩ (.number (.ofValue (.integer 7) 0 0))))))

def testClause : Placed (Clause Node) :=
  ⟨⟨23, ⟨0, 3⟩, .fitted⟩, .test ellipsisIsNumber⟩

def keyedLambda : Node :=
  mk ⟨25, ⟨0, 4⟩, .fitted⟩ (.lambda [starParameter, initialParameter]
    (mk ⟨24, ⟨0, 3⟩, .fitted⟩ (.comprehension keyedMember [asyncClause, testClause])))

lemma printable_mk {role : Role} {head : Head} {shape : Shape Node} :
    Printable role (mk head shape) ↔
      role.Admits shape.kind ∧ shape.Plain ∧
        ∀ part ∈ shape.roles, Printable part.1 part.2 :=
  ⟨fun h => ⟨h.admits, h.plain, fun _ => h.of_role⟩,
    fun ⟨hadmits, hplain, hparts⟩ => .intro hadmits hplain hparts⟩

theorem keyedLambda_leaves :
    Printable .expression keyedLambda ∧
      keyedLambda.print ⟨true⟩ = "lambda *a, b = None: " ++
        "\"k\": f(**b).x async for k in (\"u\" \"v\", ) if ... is not ~ 7" ∧
      keyedLambda.print ⟨true⟩ = String.join ((keyedLambda.pieces ⟨true⟩).map Piece.text) ∧
      (∀ piece ∈ keyedLambda.pieces ⟨true⟩,
        (∃ text, IsTemplateText text ∧ piece = .fixed text) ∨ ∃ text, piece = .leaf text) ∧
      (keyedLambda.pieces ⟨true⟩).filterMap Piece.leaf? =
        ["a", "b", "None", "\"k\"", "f", "b", "x", "k", "\"u\"", "\"v\"", "...", "7"] ∧
      keyedLambda.visited.countP (fun m => m.kind.IsLeaf) = 12 := by
  have hname : ∀ part : NameNode, Printable .expression (ofName part) := by
    intro part
    simp [ofName, printable_mk, Role.Admits, Shape.kind, Kind.isExpression, Shape.Plain,
      Shape.roles, Shape.children, Shape.slots]
  have hstring : ∀ part : StringNode, Printable .expression (ofString part) := by
    intro part
    simp [ofString, printable_mk, Role.Admits, Shape.kind, Kind.isExpression, Shape.Plain,
      Shape.roles, Shape.children, Shape.slots]
  have hprintable : Printable .expression keyedLambda := by
    simp [keyedLambda, keyedMember, memberOfCall, loneTuple, quotedPair, ellipsisIsNumber, noneTerm,
      starParameter, initialParameter, starArgument, asyncClause, testClause, ofParameter,
      ofArgument, ofClause, printable_mk, hname, hstring, Role.Admits, Shape.kind, Clause.kind,
      Kind.isExpression, Shape.Plain, Shape.roles, Shape.children, Shape.slots,
      KeywordToken.ofKeyword, Keyword.constant?]
  have hprint : keyedLambda.print ⟨true⟩ = "lambda *a, b = None: " ++
      "\"k\": f(**b).x async for k in (\"u\" \"v\", ) if ... is not ~ 7" := by
    simp [print_eq_fill, keyedLambda, keyedMember, memberOfCall, loneTuple, quotedPair,
      ellipsisIsNumber, noneTerm, starParameter, initialParameter, starArgument, asyncClause,
      testClause, template, ofName, ofString, nameAt, stringAt, Piece.ofParameter, Piece.ofArgument,
      Piece.ofClause, Piece.ofBody, Piece.ofEntry, Piece.ofName?, Shape.kind, NameToken.ofValue,
      KeywordToken.ofKeyword]
    rfl
  have hvisited : keyedLambda.leafTexts =
      ["a", "b", "None", "\"k\"", "f", "b", "x", "k", "\"u\"", "\"v\"", "...", "7"] := by
    simp [leafTexts_eq, keyedLambda, keyedMember, memberOfCall, loneTuple, quotedPair,
      ellipsisIsNumber, noneTerm, starParameter, initialParameter, starArgument, asyncClause,
      testClause, ofParameter, ofArgument, ofClause, ofName, ofString, nameAt, stringAt, leafText?,
      Shape.children, Shape.slots, NameToken.ofValue, KeywordToken.ofKeyword, Keyword.constant?]
    exact ⟨rfl, rfl, rfl, rfl⟩
  obtain ⟨hjoin, hpieces, hleaves, hkinds⟩ := print_leaves_eq_visited ⟨true⟩ hprintable
  have htexts : keyedLambda.visited.filterMap leafText? = keyedLambda.leafTexts := by
    rw [visited_eq_preorder, leafTexts]
  have hcount : keyedLambda.visited.countP (fun m => m.kind.IsLeaf) = 12 := by
    have hsame : ∀ m ∈ keyedLambda.visited,
        decide m.kind.IsLeaf = true ↔ m.leafText?.isSome = true := by
      intro m hm
      rw [decide_eq_true_iff]
      exact (hkinds m hm).symm
    rw [List.countP_congr hsame, ← List.length_filterMap_eq_countP, htexts, hvisited]
    rfl
  exact ⟨hprintable, hprint, hjoin, hpieces, (hleaves.trans htexts).trans hvisited, hcount⟩

end Witness

end Node

end SyntaxForest
