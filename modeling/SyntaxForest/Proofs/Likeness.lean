import Mathlib.Data.List.Forall2
import SyntaxForest.Proofs.ForwardDeclarations
import SyntaxForest.Proofs.PrintedLeaves
import SyntaxForest.Proofs.Stability

/-!
# Trees that look alike

Two trees look alike if they differ only in what no template shows: in places and marks of tokens,
in what is declared for a parameter, in what lies below a placeholder, and in the one part of a
string list that the options leave out. They are printed alike. Whether a part is shown depends on
what it is to its parent: a key with its value is an entry of a dictionary and a placeholder among
the items of a list.
-/

namespace SyntaxForest

/-- Two nodes that stand in one role look alike: they are of the same kind, and what is shown of
their parts looks alike again. The heads, with the number and the span of a node, are never
compared, and of a token only what it stands for. -/
inductive Alike (options : PrintOptions) : Role → Node → Node → Prop where
  -- A kind without a template in its role is shown as a placeholder, whatever is below.
  | hidden {role : Role} {n m : Node} :
      ¬role.Admits n.kind → m.kind = n.kind → Alike options role n m
  | name {head head' : Head} {token token' : NameToken} :
      token.value = token'.value →
      Alike options .expression (.mk head (.name token)) (.mk head' (.name token'))
  | number {head head' : Head} {token token' : NumberToken} :
      token.value = token'.value →
      Alike options .expression (.mk head (.number token)) (.mk head' (.number token'))
  | string {head head' : Head} {token token' : StringToken} :
      token.flags = token'.flags → token.escaped = token'.escaped →
      Alike options .expression (.mk head (.string token)) (.mk head' (.string token'))
  | constant {head head' : Head} {token token' : KeywordToken} :
      token.keyword = token'.keyword →
      Alike options .expression (.mk head (.constant token)) (.mk head' (.constant token'))
  | ellipsis {head head' : Head} :
      Alike options .expression (.mk head .ellipsis) (.mk head' .ellipsis)
  | memberAccess {head head' : Head} {left left' : Node} {member member' : NameNode} :
      Alike options .expression left left' →
      Alike options .expression (.ofName member) (.ofName member') →
      Alike options .expression (.mk head (.memberAccess left member))
        (.mk head' (.memberAccess left' member'))
  | call {head head' : Head} {callee callee' : Node}
      {arguments arguments' : List (Placed (Argument Node))} :
      Alike options .expression callee callee' →
      List.Forall₂ (fun a b => Alike options .argument (.ofArgument a) (.ofArgument b))
        arguments arguments' →
      Alike options .expression (.mk head (.call callee arguments))
        (.mk head' (.call callee' arguments'))
  | argument {head head' : Head} {value value' : Node} {category : ArgumentCategory}
      {ident ident' : Option NameNode} :
      Alike options .expression value value' →
      Option.Rel (fun a b => Alike options .expression (.ofName a) (.ofName b)) ident ident' →
      Alike options .argument (.mk head (.argument ⟨value, category, ident⟩))
        (.mk head' (.argument ⟨value', category, ident'⟩))
  | index {head head' : Head} {base base' : Node} {items items' : List Node} :
      Alike options .expression base base' →
      List.Forall₂ (Alike options .expression) items items' →
      Alike options .expression (.mk head (.index base items)) (.mk head' (.index base' items'))
  | unary {head head' : Head} {operator : Option Operator} {operand operand' : Node} :
      Alike options .expression operand operand' →
      Alike options .expression (.mk head (.unary operator operand))
        (.mk head' (.unary operator operand'))
  | binary {head head' : Head} {operator : Option Operator} {left left' right right' : Node} :
      Alike options .expression left left' → Alike options .expression right right' →
      Alike options .expression (.mk head (.binary left operator right))
        (.mk head' (.binary left' operator right'))
  | augmented {head head' : Head} {operator : Option Operator} {left left' right right' : Node} :
      Alike options .expression left left' → Alike options .expression right right' →
      Alike options .expression (.mk head (.augmented left operator right))
        (.mk head' (.augmented left' operator right'))
  | assignment {head head' : Head} {target target' value value' : Node} :
      Alike options .expression target target' → Alike options .expression value value' →
      Alike options .expression (.mk head (.assignment target value))
        (.mk head' (.assignment target' value'))
  | annotated {head head' : Head} {value value' declared declared' : Node} :
      Alike options .expression value value' → Alike options .expression declared declared' →
      Alike options .expression (.mk head (.annotated value declared))
        (.mk head' (.annotated value' declared'))
  | await {head head' : Head} {operand operand' : Node} :
      Alike options .expression operand operand' →
      Alike options .expression (.mk head (.await operand)) (.mk head' (.await operand'))
  | ternary {head head' : Head} {value value' condition condition' otherwise otherwise' : Node} :
      Alike options .expression value value' → Alike options .expression condition condition' →
      Alike options .expression otherwise otherwise' →
      Alike options .expression (.mk head (.ternary value condition otherwise))
        (.mk head' (.ternary value' condition' otherwise'))
  | unpack {head head' : Head} {operand operand' : Node} :
      Alike options .expression operand operand' →
      Alike options .expression (.mk head (.unpack operand)) (.mk head' (.unpack operand'))
  | yield {head head' : Head} {value value' : Option Node} :
      Option.Rel (Alike options .expression) value value' →
      Alike options .expression (.mk head (.yield value)) (.mk head' (.yield value'))
  | yieldFrom {head head' : Head} {source source' : Node} :
      Alike options .expression source source' →
      Alike options .expression (.mk head (.yieldFrom source)) (.mk head' (.yieldFrom source'))
  | lambda {head head' : Head} {parameters parameters' : List (Placed (Parameter Node))}
      {body body' : Node} :
      List.Forall₂ (fun a b => Alike options .parameter (.ofParameter a) (.ofParameter b))
        parameters parameters' →
      Alike options .expression body body' →
      Alike options .expression (.mk head (.lambda parameters body))
        (.mk head' (.lambda parameters' body'))
  -- What is declared for a parameter is not shown.
  | parameter {head head' : Head} {ident ident' : Option NameNode} {category : ParameterCategory}
      {declared declared' initial initial' : Option Node} :
      Option.Rel (fun a b => Alike options .expression (.ofName a) (.ofName b)) ident ident' →
      Option.Rel (Alike options .expression) initial initial' →
      Alike options .parameter (.mk head (.parameter ⟨ident, category, declared, initial⟩))
        (.mk head' (.parameter ⟨ident', category, declared', initial'⟩))
  | slice {head head' : Head} {start start' stop stop' step step' : Option Node} :
      Option.Rel (Alike options .expression) start start' →
      Option.Rel (Alike options .expression) stop stop' →
      Option.Rel (Alike options .expression) step step' →
      Alike options .expression (.mk head (.slice start stop step))
        (.mk head' (.slice start' stop' step'))
  -- The strings of a list are shown, or else the annotation that stands for them.
  | strings {head head' : Head} {strings strings' : List StringNode} :
      List.Forall₂ (fun s t => Alike options .expression (.ofString s) (.ofString t))
        strings strings' →
      Alike options .expression (.mk head (.stringList strings none))
        (.mk head' (.stringList strings' none))
  | literal {head head' : Head} {strings strings' : List StringNode}
      {forward forward' : Option Node} :
      options.forward = false →
      List.Forall₂ (fun s t => Alike options .expression (.ofString s) (.ofString t))
        strings strings' →
      Alike options .expression (.mk head (.stringList strings forward))
        (.mk head' (.stringList strings' forward'))
  | forward {head head' : Head} {strings strings' : List StringNode} {declared declared' : Node} :
      options.forward = true → Alike options .expression declared declared' →
      Alike options .expression (.mk head (.stringList strings (some declared)))
        (.mk head' (.stringList strings' (some declared')))
  | list {head head' : Head} {entries entries' : List Node} :
      List.Forall₂ (Alike options .expression) entries entries' →
      Alike options .expression (.mk head (.list entries)) (.mk head' (.list entries'))
  | tuple {head head' : Head} {entries entries' : List Node} :
      List.Forall₂ (Alike options .expression) entries entries' →
      Alike options .expression (.mk head (.tuple entries)) (.mk head' (.tuple entries'))
  | set {head head' : Head} {entries entries' : List Node} :
      List.Forall₂ (Alike options .expression) entries entries' →
      Alike options .expression (.mk head (.set entries)) (.mk head' (.set entries'))
  | dictionary {head head' : Head} {entries entries' : List Node} :
      List.Forall₂ (Alike options .entry) entries entries' →
      Alike options .expression (.mk head (.dictionary entries)) (.mk head' (.dictionary entries'))
  | keyEntry {head head' : Head} {key key' value value' : Node} :
      Alike options .expression key key' → Alike options .expression value value' →
      Alike options .entry (.mk head (.keyEntry key value)) (.mk head' (.keyEntry key' value'))
  | entry {n m : Node} :
      n.kind ≠ .keyEntry → Alike options .expression n m → Alike options .entry n m
  | expandEntry {head head' : Head} {mapping mapping' : Node} :
      Alike options .expression mapping mapping' →
      Alike options .expression (.mk head (.expandEntry mapping))
        (.mk head' (.expandEntry mapping'))
  | comprehension {head head' : Head} {body body' : Node}
      {clauses clauses' : List (Placed (Clause Node))} :
      Alike options .entry body body' →
      List.Forall₂ (fun a b => Alike options .clause (.ofClause a) (.ofClause b)) clauses clauses' →
      Alike options .expression (.mk head (.comprehension body clauses))
        (.mk head' (.comprehension body' clauses'))
  | each {head head' : Head} {target target' iterable iterable' : Node} {isAsync : Bool} :
      Alike options .expression target target' → Alike options .expression iterable iterable' →
      Alike options .clause (.mk head (.clause (.each target iterable isAsync)))
        (.mk head' (.clause (.each target' iterable' isAsync)))
  | test {head head' : Head} {condition condition' : Node} :
      Alike options .expression condition condition' →
      Alike options .clause (.mk head (.clause (.test condition)))
        (.mk head' (.clause (.test condition')))

/-! ### Kinds, and every kind -/

namespace Alike

variable {options : PrintOptions} {n m : Node}

lemma kind_eq_of_expression (h : Alike options .expression n m) : m.kind = n.kind := by
  cases h with
  | hidden _ hkind => exact hkind
  | _ => rfl

lemma kind_eq_of_entry (h : Alike options .entry n m) : m.kind = n.kind := by
  cases h with
  | hidden _ hkind => exact hkind
  | keyEntry _ _ => rfl
  | entry _ hn => exact hn.kind_eq_of_expression

lemma rel_refl {value : Option Node}
    (h : ∀ c, value = some c → Alike options .expression c c) :
    Option.Rel (Alike options .expression) value value := by
  cases value with
  | none => exact .none
  | some c => exact .some (h c rfl)

lemma rel_ofName_refl (ident : Option NameNode) :
    Option.Rel (fun a b => Alike options .expression (.ofName a) (.ofName b)) ident ident := by
  cases ident with
  | none => exact .none
  | some ident => exact .some (.name rfl)

lemma refl_of_expression {n : Node} (hadmits : Role.expression.Admits n.kind)
    (h : ∀ c, some c ∈ n.slots → ∀ role, Alike options role c c) :
    Alike options .expression n n := by
  rcases n with ⟨head, shape⟩
  cases shape with
  | name token => exact .name rfl
  | number token => exact .number rfl
  | string token => exact .string rfl rfl
  | constant token => exact .constant rfl
  | ellipsis => exact .ellipsis
  | memberAccess left member =>
    exact .memberAccess (h left (.head _) _) (h (.ofName member) (.tail _ (.head _)) _)
  | call callee arguments =>
    refine .call (h callee (.head _) _) (List.forall₂_same.mpr fun a ha => ?_)
    exact h _ (List.mem_cons_of_mem _ (List.mem_map_of_mem ha)) _
  | index base items =>
    refine .index (h base (.head _) _) (List.forall₂_same.mpr fun item hitem => ?_)
    exact h item (.tail _ (List.mem_map_of_mem hitem)) _
  | unary operator operand => exact .unary (h operand (.head _) _)
  | binary left operator right =>
    exact .binary (h left (.head _) _) (h right (.tail _ (.head _)) _)
  | augmented left operator right =>
    exact .augmented (h left (.head _) _) (h right (.tail _ (.head _)) _)
  | assignment target value =>
    exact .assignment (h target (.head _) _) (h value (.tail _ (.head _)) _)
  | annotated value declared =>
    exact .annotated (h value (.head _) _) (h declared (.tail _ (.head _)) _)
  | await operand => exact .await (h operand (.head _) _)
  | ternary value condition otherwise =>
    exact .ternary (h value (.head _) _) (h condition (.tail _ (.head _)) _)
      (h otherwise (.tail _ (.tail _ (.head _))) _)
  | unpack operand => exact .unpack (h operand (.head _) _)
  | yield value => exact .yield (rel_refl fun c hc => h c (hc ▸ .head _) _)
  | yieldFrom source => exact .yieldFrom (h source (.head _) _)
  | lambda parameters body =>
    refine .lambda (List.forall₂_same.mpr fun p hp => ?_)
      (h body (List.mem_append_right _ (.head _)) _)
    exact h _ (List.mem_append_left _ (List.mem_map_of_mem hp)) _
  | slice start stop step =>
    exact .slice (rel_refl fun c hc => h c (hc ▸ .head _) _)
      (rel_refl fun c hc => h c (hc ▸ .tail _ (.head _)) _)
      (rel_refl fun c hc => h c (hc ▸ .tail _ (.tail _ (.head _))) _)
  | stringList strings forward =>
    have hstrings : List.Forall₂
        (fun s t => Alike options .expression (.ofString s) (.ofString t)) strings strings :=
      List.forall₂_same.mpr fun s _ => .string rfl rfl
    cases forward with
    | none => exact .strings hstrings
    | some declared =>
      cases hforward : options.forward with
      | false => exact .literal hforward hstrings
      | true => exact .forward hforward (h declared (.head _) _)
  | list entries =>
    exact .list (List.forall₂_same.mpr fun c hc => h c (List.mem_map_of_mem hc) _)
  | tuple entries =>
    exact .tuple (List.forall₂_same.mpr fun c hc => h c (List.mem_map_of_mem hc) _)
  | set entries =>
    exact .set (List.forall₂_same.mpr fun c hc => h c (List.mem_map_of_mem hc) _)
  | dictionary entries =>
    exact .dictionary (List.forall₂_same.mpr fun c hc => h c (List.mem_map_of_mem hc) _)
  | expandEntry mapping => exact .expandEntry (h mapping (.head _) _)
  | comprehension body clauses =>
    refine .comprehension (h body (.head _) _) (List.forall₂_same.mpr fun a ha => ?_)
    exact h _ (List.mem_cons_of_mem _ (List.mem_map_of_mem ha)) _
  | error child => exact absurd rfl hadmits.2
  | clause c => cases c <;> cases hadmits.1
  | _ => cases hadmits.1

lemma refl_of_entry {n : Node} (hadmits : Role.entry.Admits n.kind)
    (h : ∀ c, some c ∈ n.slots → ∀ role, Alike options role c c) : Alike options .entry n n := by
  by_cases hkey : n.kind = .keyEntry
  · rcases n with ⟨head, shape⟩
    cases shape with
    | keyEntry key value => exact .keyEntry (h key (.head _) _) (h value (.tail _ (.head _)) _)
    | clause c => cases c <;> cases hkey
    | _ => cases hkey
  · exact .entry hkey (refl_of_expression (hadmits.resolve_left hkey) h)

lemma refl_of_argument {n : Node} (hadmits : Role.argument.Admits n.kind)
    (h : ∀ c, some c ∈ n.slots → ∀ role, Alike options role c c) :
    Alike options .argument n n := by
  rcases n with ⟨head, shape⟩
  cases shape with
  | argument a => exact .argument (h a.value (.tail _ (.head _)) _) (rel_ofName_refl a.name)
  | clause c => cases c <;> cases hadmits
  | _ => cases hadmits

lemma refl_of_parameter {n : Node} (hadmits : Role.parameter.Admits n.kind)
    (h : ∀ c, some c ∈ n.slots → ∀ role, Alike options role c c) :
    Alike options .parameter n n := by
  rcases n with ⟨head, shape⟩
  cases shape with
  | parameter p =>
    exact .parameter (rel_ofName_refl p.name)
      (rel_refl fun c hc => h c (hc ▸ .tail _ (.tail _ (.head _))) _)
  | clause c => cases c <;> cases hadmits
  | _ => cases hadmits

lemma refl_of_clause {n : Node} (hadmits : Role.clause.Admits n.kind)
    (h : ∀ c, some c ∈ n.slots → ∀ role, Alike options role c c) : Alike options .clause n n := by
  rcases n with ⟨head, shape⟩
  cases shape with
  | clause c =>
    cases c with
    | each target iterable isAsync =>
      exact .each (h target (.head _) _) (h iterable (.tail _ (.head _)) _)
    | test condition => exact .test (h condition (.head _) _)
  | _ => exact absurd hadmits (by simp [Role.Admits, Shape.kind])

/-- Every node looks like itself in every role, so no kind is left out of the relation. -/
theorem refl (options : PrintOptions) (role : Role) (n : Node) : Alike options role n n := by
  induction n using Node.induction generalizing role with
  | step n ih =>
    have hparts : ∀ c, some c ∈ n.slots → ∀ role, Alike options role c c :=
      fun c hc role => ih c (Shape.mem_children.mpr hc) role
    by_cases hadmits : role.Admits n.kind
    · cases role with
      | expression => exact refl_of_expression hadmits hparts
      | entry => exact refl_of_entry hadmits hparts
      | argument => exact refl_of_argument hadmits hparts
      | parameter => exact refl_of_parameter hadmits hparts
      | clause => exact refl_of_clause hadmits hparts
    · exact .hidden hadmits rfl

end Alike

/-! ### Templates of nodes that look alike -/

/-- Pieces of one text, or holes for nodes that look alike. -/
inductive Piece.Agrees (options : PrintOptions) : Piece → Piece → Prop where
  | fixed (text : String) : Agrees options (.fixed text) (.fixed text)
  | leaf (text : String) : Agrees options (.leaf text) (.leaf text)
  | hole {n m : Node} : Alike options .expression n m → Agrees options (.hole n) (.hole m)

/-- Piece by piece, texts are the same and holes are for nodes that look alike. -/
abbrev Piece.AllAgree (options : PrintOptions) : List Piece → List Piece → Prop :=
  List.Forall₂ (Piece.Agrees options)

namespace Alike

variable {options : PrintOptions} {n m : Node}

lemma agree_hole (h : Alike options .expression n m) : Piece.AllAgree options [.hole n] [.hole m] :=
  .cons (.hole h) .nil

lemma agree_leaf {text text' : String} (h : text = text') :
    Piece.AllAgree options [.leaf text] [.leaf text'] := by
  subst h
  exact .cons (.leaf text) .nil

lemma agree_separated {α : Type} {R : α → α → Prop} {group : α → List Piece} {l l' : List α}
    (separator : String) (h : List.Forall₂ R l l')
    (hgroup : ∀ a b, R a b → Piece.AllAgree options (group a) (group b)) :
    Piece.AllAgree options (Piece.separated separator (l.map group))
      (Piece.separated separator (l'.map group)) := by
  induction h with
  | nil => exact .nil
  | @cons a b rest rest' hab hrest ih =>
    have hfirst := hgroup a b hab
    cases hrest with
    | nil => simpa using hfirst
    | cons _ _ =>
      simp only [List.map_cons, Piece.separated_cons_cons] at ih ⊢
      exact List.rel_append hfirst (.cons (.fixed separator) ih)

lemma agree_items {items items' : List Node} (separator : String)
    (h : List.Forall₂ (Alike options .expression) items items') :
    Piece.AllAgree options (Piece.separated separator (items.map fun item => [.hole item]))
      (Piece.separated separator (items'.map fun item => [.hole item])) :=
  agree_separated separator h fun _ _ => agree_hole

lemma agree_ofName? {ident ident' : Option NameNode}
    (h : Option.Rel (fun a b => Alike options .expression (.ofName a) (.ofName b)) ident ident') :
    Piece.AllAgree options (Piece.ofName? ident) (Piece.ofName? ident') := by
  cases h with
  | none => exact .nil
  | some hident => exact agree_hole hident

lemma agree_ofArgument {a b : Placed (Argument Node)}
    (h : Alike options .argument (.ofArgument a) (.ofArgument b)) :
    Piece.AllAgree options (Piece.ofArgument a) (Piece.ofArgument b) := by
  rcases a with ⟨head, value, category, ident⟩
  rcases b with ⟨head', value', category', ident'⟩
  cases h with
  | hidden hrole _ => exact absurd rfl hrole
  | argument hvalue hident =>
    cases hident with
    | none => exact .cons (.fixed _) (agree_hole hvalue)
    | some hident =>
      exact .cons (.fixed _) (.cons (.hole hident) (.cons (.fixed "=") (agree_hole hvalue)))

lemma agree_ofParameter {a b : Placed (Parameter Node)}
    (h : Alike options .parameter (.ofParameter a) (.ofParameter b)) :
    Piece.AllAgree options (Piece.ofParameter a) (Piece.ofParameter b) := by
  rcases a with ⟨head, ident, category, declared, initial⟩
  rcases b with ⟨head', ident', category', declared', initial'⟩
  cases h with
  | hidden hrole _ => exact absurd rfl hrole
  | parameter hident hinitial =>
    refine .cons (.fixed _) (List.rel_append (agree_ofName? hident) ?_)
    cases hinitial with
    | none => exact .nil
    | some hvalue => exact .cons (.fixed " = ") (agree_hole hvalue)

lemma agree_ofClause {a b : Placed (Clause Node)}
    (h : Alike options .clause (.ofClause a) (.ofClause b)) :
    Piece.AllAgree options (Piece.ofClause a) (Piece.ofClause b) := by
  rcases a with ⟨head, content⟩
  rcases b with ⟨head', content'⟩
  cases h with
  | hidden hrole _ =>
    have hadmits : Role.clause.Admits content.kind := by
      cases content with
      | each _ _ _ => exact .inl rfl
      | test _ => exact .inr rfl
    exact absurd hadmits hrole
  | each htarget hiterable =>
    exact .cons (.fixed _) (.cons (.hole htarget) (.cons (.fixed " in ") (agree_hole hiterable)))
  | test hcondition => exact .cons (.fixed "if ") (agree_hole hcondition)

lemma agree_ofEntry (h : Alike options .entry n m) :
    Piece.AllAgree options (Piece.ofEntry n) (Piece.ofEntry m) := by
  have hkind := h.kind_eq_of_entry
  cases h with
  | hidden hrole _ =>
    have hkey : n.kind ≠ .keyEntry := fun hkey => hrole (.inl hkey)
    rw [Node.ofEntry_of_kind hkey, Node.ofEntry_of_kind (hkind ▸ hkey)]
    exact agree_hole (.hidden (fun hadmits => hrole (.inr hadmits)) hkind)
  | keyEntry hkey hvalue => exact .cons (.hole hkey) (.cons (.fixed ": ") (agree_hole hvalue))
  | entry hkey halike =>
    rw [Node.ofEntry_of_kind hkey, Node.ofEntry_of_kind (hkind ▸ hkey)]
    exact agree_hole halike

lemma agree_ofBody (h : Alike options .entry n m) :
    Piece.AllAgree options (Piece.ofBody n) (Piece.ofBody m) := by
  unfold Piece.ofBody
  rw [h.kind_eq_of_entry]
  by_cases hbody : n.kind = .keyEntry ∨ n.kind.isExpression
  · rw [if_pos hbody, if_pos hbody]
    exact h.agree_ofEntry
  · rw [if_neg hbody, if_neg hbody]
    exact .cons (.fixed _) .nil

lemma agree_ofBound {bound bound' : Option Node}
    (h : Option.Rel (Alike options .expression) bound bound') :
    Piece.AllAgree options (Piece.ofBound bound) (Piece.ofBound bound') := by
  cases h with
  | none => exact .nil
  | some hbound => exact .cons (.fixed ":") (agree_hole hbound)

/-- What is between a text in front and one behind. -/
lemma agree_between {pieces pieces' : List Piece} (front behind : String)
    (h : Piece.AllAgree options pieces pieces') :
    Piece.AllAgree options (.fixed front :: (pieces ++ [.fixed behind]))
      (.fixed front :: (pieces' ++ [.fixed behind])) :=
  .cons (.fixed front) (List.rel_append h (.cons (.fixed behind) .nil))

lemma literal_eq {token token' : StringToken} (hflags : token.flags = token'.flags)
    (hescaped : token.escaped = token'.escaped) :
    Prescribed.literal token = Prescribed.literal token' := by
  rw [Prescribed.literal, Prescribed.literal, hflags, hescaped]

/-- The strings of a list are shown unless there is an annotation and the options ask for it. -/
lemma template_strings {head : Head} {strings : List StringNode} {forward : Option Node}
    (h : options.forward = false ∨ forward = none) :
    (Node.mk head (.stringList strings forward)).template options =
      Piece.separated " " (strings.map fun s => [.hole (.ofString s)]) := by
  rcases options with ⟨_ | _⟩
  · rfl
  · rcases h with h | rfl
    · cases h
    · rfl

lemma template_forward {head : Head} {strings : List StringNode} {declared : Node}
    (h : options.forward = true) :
    (Node.mk head (.stringList strings (some declared))).template options = [.hole declared] := by
  rcases options with ⟨_⟩
  cases h
  rfl

lemma template_of_hidden (h : ¬Role.expression.Admits n.kind) :
    n.template options = [.fixed "<Expression>"] := by
  rcases n with ⟨head, shape⟩
  cases shape with
  | clause c => rfl
  | error => rfl
  | module => rfl
  | classDef => rfl
  | functionDef => rfl
  | parameter => rfl
  | returnStatement => rfl
  | argument => rfl
  | keyEntry => rfl
  | _ => exact absurd ⟨rfl, nofun⟩ h

/-- The templates of nodes that look alike show the same texts, with holes for nodes that look
alike again. -/
theorem agree_template (h : Alike options .expression n m) :
    Piece.AllAgree options (n.template options) (m.template options) := by
  cases h with
  | hidden hrole hkind =>
    rw [template_of_hidden hrole, template_of_hidden (hkind ▸ hrole)]
    exact .cons (.fixed _) .nil
  | name hvalue => exact agree_leaf hvalue
  | number hvalue => exact agree_leaf (congrArg Prescribed.number hvalue)
  | string hflags hescaped => exact agree_leaf (literal_eq hflags hescaped)
  | constant hkeyword => exact agree_leaf (congrArg Prescribed.constant hkeyword)
  | ellipsis => exact agree_leaf rfl
  | memberAccess hleft hmember =>
    exact .cons (.hole hleft) (.cons (.fixed ".") (agree_hole hmember))
  | call hcallee harguments =>
    exact .cons (.hole hcallee) (agree_between "(" ")"
      (agree_separated ", " harguments fun _ _ => agree_ofArgument))
  | index hbase hitems =>
    exact .cons (.hole hbase) (agree_between "[" "]" (agree_items ", " hitems))
  | unary hoperand => exact .cons (.fixed _) (agree_hole hoperand)
  | binary hleft hright => exact .cons (.hole hleft) (.cons (.fixed _) (agree_hole hright))
  | augmented hleft hright => exact .cons (.hole hleft) (.cons (.fixed _) (agree_hole hright))
  | assignment htarget hvalue =>
    exact .cons (.hole htarget) (.cons (.fixed " = ") (agree_hole hvalue))
  | annotated hvalue hdeclared =>
    exact .cons (.hole hvalue) (.cons (.fixed ": ") (agree_hole hdeclared))
  | await hoperand => exact .cons (.fixed "await ") (agree_hole hoperand)
  | ternary hvalue hcondition hotherwise =>
    exact .cons (.hole hvalue) (.cons (.fixed " if ") (.cons (.hole hcondition)
      (.cons (.fixed " else ") (agree_hole hotherwise))))
  | unpack hoperand => exact .cons (.fixed "*") (agree_hole hoperand)
  | yield hvalue =>
    cases hvalue with
    | none => exact .cons (.fixed "yield") .nil
    | some hvalue => exact .cons (.fixed "yield ") (agree_hole hvalue)
  | yieldFrom hsource => exact .cons (.fixed "yield from ") (agree_hole hsource)
  | lambda hparameters hbody =>
    exact .cons (.fixed "lambda ") (List.rel_append
      (agree_separated ", " hparameters fun _ _ => agree_ofParameter)
      (.cons (.fixed ": ") (agree_hole hbody)))
  | slice hstart hstop hstep =>
    refine List.rel_append (List.rel_append ?_ (agree_ofBound hstop)) (agree_ofBound hstep)
    cases hstart with
    | none => exact .nil
    | some hstart => exact agree_hole hstart
  | strings hstrings =>
    rw [template_strings (.inr rfl), template_strings (.inr rfl)]
    exact agree_separated " " hstrings fun _ _ => agree_hole
  | literal hflag hstrings =>
    rw [template_strings (.inl hflag), template_strings (.inl hflag)]
    exact agree_separated " " hstrings fun _ _ => agree_hole
  | forward hflag hdeclared =>
    rw [template_forward hflag, template_forward hflag]
    exact agree_hole hdeclared
  | list hentries => exact agree_between "[" "]" (agree_items ", " hentries)
  | tuple hentries =>
    cases hentries with
    | nil => exact agree_between "(" ")" .nil
    | cons hfirst hrest =>
      cases hrest with
      | nil => exact agree_between "(" ", )" (agree_hole hfirst)
      | cons hsecond hrest =>
        exact agree_between "(" ")" (agree_items ", " (.cons hfirst (.cons hsecond hrest)))
  | set hentries => exact agree_items ", " hentries
  | dictionary hentries =>
    exact agree_between _ _ (agree_separated ", " hentries fun _ _ => agree_ofEntry)
  | expandEntry hmapping => exact .cons (.fixed "**") (agree_hole hmapping)
  | comprehension hbody hclauses =>
    exact List.rel_append hbody.agree_ofBody (.cons (.fixed " ")
      (agree_separated " " hclauses fun _ _ => agree_ofClause))

/-- Pieces that agree have one text if the nodes in their holes have. -/
lemma fill_eq_of_agree {f g : Node → String} {pieces pieces' : List Piece}
    (h : Piece.AllAgree options pieces pieces')
    (hholes : ∀ c d, Piece.hole c ∈ pieces → Alike options .expression c d → f c = g d) :
    fill f pieces = fill g pieces' := by
  induction h with
  | nil => rw [fill_nil, fill_nil]
  | cons hfirst _ ih =>
    rw [fill_cons, fill_cons, ih fun c d hc => hholes c d (List.mem_cons_of_mem _ hc)]
    congr 1
    cases hfirst with
    | fixed text => rfl
    | leaf text => rfl
    | hole halike => exact hholes _ _ List.mem_cons_self halike

/-- The recursion is on the size of the first tree: the holes of its template stand for smaller
nodes, and the second tree is followed along. -/
theorem print_eq {n m : Node} (h : Alike options .expression n m) :
    n.print options = m.print options := by
  rw [Node.print_eq_fill, Node.print_eq_fill]
  exact fill_eq_of_agree h.agree_template fun c d hc halike => halike.print_eq
termination_by sizeOf n
decreasing_by exact Node.sizeOf_lt_of_hole_mem_template hc

end Alike

/-- Printing depends on nothing but what the templates show: trees that look alike have one text.
This is so also in forests, where every node is looked up by its number and may have any parent. -/
theorem Node.print_eq_of_alike {options : PrintOptions} {n m : Node}
    (h : Alike options .expression n m) :
    n.print options = m.print options ∧
      ∀ (requests requests' : List Request) (f g : Forest), Forest.Run .empty requests f →
        Forest.Run .empty requests' g → f.node? n.id = some n → g.node? m.id = some m →
        f.print options n.id = g.print options m.id := by
  refine ⟨h.print_eq, fun requests requests' f g hf hg hn hm => ?_⟩
  rw [hf.print_eq hn, hg.print_eq hm]
  exact h.print_eq

section Witness

def fittedHead (id start length : Nat) : Head :=
  ⟨id, ⟨start, length⟩, .fitted⟩

/-- A type is declared for the parameter. -/
def declaredParameter : Placed (Parameter Node) :=
  ⟨fittedHead 2 0 3, ⟨some (nameAt 0 0 "x"), .simple, some (.ofName (nameAt 1 0 "int")), none⟩⟩

def bareError : Node :=
  .mk (fittedHead 3 0 0) (.error none)

def declaredLambda : Node :=
  .mk (fittedHead 4 0 3) (.lambda [declaredParameter] bareError)

def quotedType : Node :=
  .mk (fittedHead 7 0 3) (.stringList [stringAt 6 0 "A"] (some (.ofName (nameAt 5 0 "T"))))

def firstList : Node :=
  .mk (fittedHead 8 0 3) (.list [declaredLambda, quotedType])

def plainParameter : Placed (Parameter Node) :=
  ⟨fittedHead 1 5 1, ⟨some (nameAt 0 5 "x"), .simple, none, none⟩⟩

def namedError : Node :=
  .mk (fittedHead 3 5 1) (.error (some (.ofName (nameAt 2 5 "y"))))

def plainLambda : Node :=
  .mk (fittedHead 4 5 1) (.lambda [plainParameter] namedError)

def otherQuotedType : Node :=
  .mk (fittedHead 7 5 4) (.stringList [stringAt 6 5 "BC"] (some (.ofName (nameAt 5 5 "T"))))

def secondList : Node :=
  .mk (fittedHead 8 5 4) (.list [plainLambda, otherQuotedType])

def requestsOf (shapes : List (Shape Node)) : List Request :=
  shapes.map fun shape => ⟨⟨none, none⟩, shape⟩

def firstRequests : List Request :=
  requestsOf [(Node.ofName (nameAt 0 0 "x")).shape, (Node.ofName (nameAt 1 0 "int")).shape,
    .parameter declaredParameter.content, bareError.shape, declaredLambda.shape,
    (Node.ofName (nameAt 5 0 "T")).shape, (Node.ofString (stringAt 6 0 "A")).shape,
    quotedType.shape, firstList.shape]

/-- The second list gets a parent at last, which the first one has not. -/
def secondRequests : List Request :=
  requestsOf [(Node.ofName (nameAt 0 5 "x")).shape, .parameter plainParameter.content,
    (Node.ofName (nameAt 2 5 "y")).shape, namedError.shape, plainLambda.shape,
    (Node.ofName (nameAt 5 5 "T")).shape, (Node.ofString (stringAt 6 5 "BC")).shape,
    otherQuotedType.shape, secondList.shape, .unpack secondList]

def firstForest : Forest :=
  firstRequests.foldl Forest.perform .empty

def secondForest : Forest :=
  secondRequests.foldl Forest.perform .empty

lemma first_run : Forest.Run .empty firstRequests firstForest :=
  .step nofun (.step nofun (.step (Forest.accepts_pair rfl rfl rfl) (.step nofun
    (.step (Forest.accepts_pair rfl rfl rfl) (.step nofun (.step nofun
      (.step (Forest.accepts_pair rfl rfl rfl) (.step (Forest.accepts_pair rfl rfl rfl)
        (.done _)))))))))

lemma second_run : Forest.Run .empty secondRequests secondForest :=
  .step nofun (.step (Forest.accepts_single rfl rfl) (.step nofun
    (.step (Forest.accepts_single rfl rfl) (.step (Forest.accepts_pair rfl rfl rfl) (.step nofun
      (.step nofun (.step (Forest.accepts_pair rfl rfl rfl)
        (.step (Forest.accepts_pair rfl rfl rfl) (.step (Forest.accepts_single rfl rfl)
          (.done _))))))))))

lemma lists_alike : Alike ⟨true⟩ .expression firstList secondList := by
  have hparameter : Alike ⟨true⟩ .parameter (.ofParameter declaredParameter)
      (.ofParameter plainParameter) := .parameter (.some (.name rfl)) .none
  have herror : Alike ⟨true⟩ .expression bareError namedError :=
    .hidden (fun hadmits => hadmits.2 rfl) rfl
  have htype : Alike ⟨true⟩ .expression quotedType otherQuotedType := .forward rfl (.name rfl)
  exact .list (.cons (.lambda (.cons hparameter .nil) herror) (.cons htype .nil))

theorem lists_print_alike :
    Alike ⟨true⟩ .expression firstList secondList ∧
      Forest.Run .empty firstRequests firstForest ∧
      Forest.Run .empty secondRequests secondForest ∧
      firstForest.node? 8 = some firstList ∧ secondForest.node? 8 = some secondList ∧
      firstForest.parent? 8 = none ∧ secondForest.parent? 8 = some 9 ∧
      firstList.print ⟨true⟩ = "[lambda x: <Expression>, T]" ∧
      secondList.print ⟨true⟩ = "[lambda x: <Expression>, T]" ∧
      firstForest.print ⟨true⟩ 8 = secondForest.print ⟨true⟩ 8 := by
  have hprint : firstList.print ⟨true⟩ = "[lambda x: <Expression>, T]" := by
    simp [Node.print_eq_fill, firstList, declaredLambda, quotedType, bareError, declaredParameter,
      Node.template, Piece.ofParameter, Piece.ofName?, Node.ofName, nameAt, NameToken.ofValue,
      ParameterCategory.stars]
  obtain ⟨hsame, hforests⟩ := Node.print_eq_of_alike lists_alike
  exact ⟨lists_alike, first_run, second_run, rfl, rfl, rfl, rfl, hprint, hsame.symm.trans hprint,
    hforests _ _ _ _ first_run second_run rfl rfl⟩

end Witness

end SyntaxForest
