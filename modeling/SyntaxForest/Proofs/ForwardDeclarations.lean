import SyntaxForest.Proofs.Printing

/-!
# Forward declarations

A string list may carry an annotation, the type that it stands for. Printing the annotations in the
place of their string lists is the same as first replacing the string lists in the tree and then
printing it plainly, as long as all annotations are expressions: at two places the print of a tree
depends on the kind of a child, and only a kind of expression makes no difference there.
-/

namespace SyntaxForest.Node

/-! ### Resolved trees -/

mutual

/-- The tree in which every string list that carries an annotation has given way to it, at every
depth and also within annotations. -/
def resolve : Node → Node
  | mk _ (.stringList _ (some declared)) => resolve declared
  | mk head shape => mk head (resolveParts shape)
termination_by n => sizeOf n
decreasing_by
  · simp only [mk.sizeOf_spec, Shape.stringList.sizeOf_spec, Option.some.sizeOf_spec]
    omega
  · simp only [mk.sizeOf_spec]
    omega

/-- The parts of a node, resolved. Names and strings carry no annotation. -/
def resolveParts : Shape Node → Shape Node
  | .error child => .error (child.attach.map fun ⟨c, _⟩ => resolve c)
  | .module statements => .module (statements.map resolve)
  | .classDef ident arguments suite =>
    .classDef ident (arguments.map resolveArgument) (suite.map resolve)
  | .functionDef ident parameters result suite isAsync =>
    .functionDef ident (parameters.map resolveParameter)
      (result.attach.map fun ⟨c, _⟩ => resolve c) (suite.map resolve) isAsync
  | .parameter ⟨ident, category, declared, initial⟩ =>
    .parameter ⟨ident, category, declared.attach.map fun ⟨c, _⟩ => resolve c,
      initial.attach.map fun ⟨c, _⟩ => resolve c⟩
  | .returnStatement value => .returnStatement (value.attach.map fun ⟨c, _⟩ => resolve c)
  | .name token => .name token
  | .memberAccess left member => .memberAccess (resolve left) member
  | .call callee arguments => .call (resolve callee) (arguments.map resolveArgument)
  | .argument ⟨value, category, ident⟩ => .argument ⟨resolve value, category, ident⟩
  | .index base items => .index (resolve base) (items.map resolve)
  | .unary operator operand => .unary operator (resolve operand)
  | .binary left operator right => .binary (resolve left) operator (resolve right)
  | .assignment target value => .assignment (resolve target) (resolve value)
  | .annotated value declared => .annotated (resolve value) (resolve declared)
  | .augmented left operator right => .augmented (resolve left) operator (resolve right)
  | .await operand => .await (resolve operand)
  | .ternary value condition otherwise =>
    .ternary (resolve value) (resolve condition) (resolve otherwise)
  | .unpack operand => .unpack (resolve operand)
  | .yield value => .yield (value.attach.map fun ⟨c, _⟩ => resolve c)
  | .yieldFrom source => .yieldFrom (resolve source)
  | .lambda parameters body => .lambda (parameters.map resolveParameter) (resolve body)
  | .slice start stop step =>
    .slice (start.attach.map fun ⟨c, _⟩ => resolve c)
      (stop.attach.map fun ⟨c, _⟩ => resolve c) (step.attach.map fun ⟨c, _⟩ => resolve c)
  | .number token => .number token
  | .string token => .string token
  | .stringList strings forward =>
    .stringList strings (forward.attach.map fun ⟨c, _⟩ => resolve c)
  | .constant token => .constant token
  | .ellipsis => .ellipsis
  | .list entries => .list (entries.map resolve)
  | .tuple entries => .tuple (entries.map resolve)
  | .set entries => .set (entries.map resolve)
  | .dictionary entries => .dictionary (entries.map resolve)
  | .keyEntry key value => .keyEntry (resolve key) (resolve value)
  | .expandEntry mapping => .expandEntry (resolve mapping)
  | .comprehension body clauses => .comprehension (resolve body) (clauses.map resolveClause)
  | .clause (.each target iterable isAsync) =>
    .clause (.each (resolve target) (resolve iterable) isAsync)
  | .clause (.test condition) => .clause (.test (resolve condition))
termination_by shape => sizeOf shape
decreasing_by
  all_goals simp
  all_goals grind [→ List.sizeOf_lt_of_mem, Option.some.sizeOf_spec]

def resolveArgument : Placed (Argument Node) → Placed (Argument Node)
  | ⟨head, value, category, ident⟩ => ⟨head, resolve value, category, ident⟩
termination_by argument => sizeOf argument
decreasing_by simp; omega

def resolveParameter : Placed (Parameter Node) → Placed (Parameter Node)
  | ⟨head, ident, category, declared, initial⟩ =>
    ⟨head, ident, category, declared.attach.map fun ⟨c, _⟩ => resolve c,
      initial.attach.map fun ⟨c, _⟩ => resolve c⟩
termination_by parameter => sizeOf parameter
decreasing_by
  all_goals simp
  all_goals grind [Option.some.sizeOf_spec]

def resolveClause : Placed (Clause Node) → Placed (Clause Node)
  | ⟨head, .each target iterable isAsync⟩ =>
    ⟨head, .each (resolve target) (resolve iterable) isAsync⟩
  | ⟨head, .test condition⟩ => ⟨head, .test (resolve condition)⟩
termination_by clause => sizeOf clause
decreasing_by all_goals simp; omega

end

/-- The annotation that a string list carries. -/
def forward? : Node → Option Node
  | mk _ (.stringList _ forward) => forward
  | _ => none

/-- Every annotation that a string list in the tree carries is an expression. -/
def ForwardsExpressions (n : Node) : Prop :=
  ∀ m, n.Reaches m → ∀ declared, m.forward? = some declared → declared.kind.isExpression

lemma eq_stringList_of_forward {n declared : Node} (h : n.forward? = some declared) :
    ∃ head strings, n = mk head (.stringList strings (some declared)) := by
  unfold forward? at h
  split at h
  · cases h
    exact ⟨_, _, rfl⟩
  · cases h

lemma forward_mem_children {n declared : Node} (h : n.forward? = some declared) :
    declared ∈ n.children := by
  obtain ⟨head, strings, rfl⟩ := eq_stringList_of_forward h
  exact Shape.mem_children.mpr List.mem_cons_self

lemma ForwardsExpressions.of_child {n c : Node} (h : n.ForwardsExpressions)
    (hc : c ∈ n.children) : c.ForwardsExpressions :=
  fun m hm => h m (.of_child hc hm)

lemma forwardsExpressions_iff {n : Node} :
    n.ForwardsExpressions ↔
      (∀ declared, n.forward? = some declared → declared.kind.isExpression) ∧
        ∀ c ∈ n.children, c.ForwardsExpressions :=
  forall_reaches_iff

lemma resolve_of_forward {n declared : Node} (h : n.forward? = some declared) :
    n.resolve = declared.resolve := by
  obtain ⟨head, strings, rfl⟩ := eq_stringList_of_forward h
  rw [resolve]

lemma resolve_of_plain {head : Head} {shape : Shape Node} (h : (mk head shape).forward? = none) :
    (mk head shape).resolve = mk head (resolveParts shape) := by
  rw [resolve]
  rintro strings declared rfl
  cases h

lemma kind_resolveParts (shape : Shape Node) : (resolveParts shape).kind = shape.kind := by
  cases shape with
  | clause c => cases c <;> rw [resolveParts] <;> rfl
  | _ => rw [resolveParts] <;> rfl

lemma resolve_ofName (part : NameNode) : (ofName part).resolve = ofName part := by
  rw [ofName, resolve_of_plain rfl, resolveParts]

lemma resolve_ofString (part : StringNode) : (ofString part).resolve = ofString part := by
  rw [ofString, resolve_of_plain rfl, resolveParts]

lemma resolve_ofArgument (part : Placed (Argument Node)) :
    (ofArgument part).resolve = ofArgument (resolveArgument part) := by
  rcases part with ⟨head, value, category, ident⟩
  rw [ofArgument, resolve_of_plain rfl, resolveParts, resolveArgument, ofArgument]

lemma resolve_ofParameter (part : Placed (Parameter Node)) :
    (ofParameter part).resolve = ofParameter (resolveParameter part) := by
  rcases part with ⟨head, ident, category, declared, initial⟩
  rw [ofParameter, resolve_of_plain rfl, resolveParts, resolveParameter, ofParameter]

lemma resolve_ofClause (part : Placed (Clause Node)) :
    (ofClause part).resolve = ofClause (resolveClause part) := by
  rcases part with ⟨head, ⟨target, iterable, isAsync⟩ | condition⟩ <;>
    rw [ofClause, resolve_of_plain rfl, resolveParts, resolveClause, ofClause]

lemma slots_resolveParts (shape : Shape Node) :
    (resolveParts shape).slots = shape.slots.map (Option.map resolve) := by
  cases shape with
  | parameter p =>
    rcases p with ⟨ident, category, declared, initial⟩
    simp [resolveParts, Shape.slots, resolve_ofName, Function.comp_def]
  | argument a =>
    rcases a with ⟨value, category, ident⟩
    simp [resolveParts, Shape.slots, resolve_ofName, Function.comp_def]
  | clause c => cases c <;> simp [resolveParts, Shape.slots]
  | _ =>
    simp [resolveParts, Shape.slots, resolve_ofName, resolve_ofString, resolve_ofArgument,
      resolve_ofParameter, resolve_ofClause, Function.comp_def]

lemma forward?_resolveParts {head : Head} {shape : Shape Node}
    (h : (mk head shape).forward? = none) : (mk head (resolveParts shape)).forward? = none := by
  cases shape with
  | stringList strings forward =>
    cases h
    rw [resolveParts]
    rfl
  | parameter p => rw [resolveParts]; rfl
  | clause c => cases c <;> rw [resolveParts] <;> rfl
  | _ => rw [resolveParts]; rfl

/-- No annotation is left in a resolved tree. -/
theorem forward?_of_resolve_reaches {n m : Node} (h : n.resolve.Reaches m) :
    m.forward? = none := by
  induction n using Node.induction with
  | step n ih =>
    cases hforward : n.forward? with
    | some declared =>
      rw [resolve_of_forward hforward] at h
      exact ih declared (forward_mem_children hforward) h
    | none =>
      rcases n with ⟨head, shape⟩
      rw [resolve_of_plain hforward] at h
      rcases reaches_iff.mp h with rfl | ⟨c, hc, hreaches⟩
      · exact forward?_resolveParts hforward
      · rw [children_mk, Shape.mem_children, slots_resolveParts] at hc
        obtain ⟨slot, hslot, hresolved⟩ := List.mem_map.mp hc
        obtain ⟨d, rfl, rfl⟩ := Option.map_eq_some_iff.mp hresolved
        exact ih d (Shape.mem_children.mpr hslot) hreaches

/-! ### Kinds -/

/-- What is left in the place of a node is of the same kind, or is the annotation of a string
list. -/
lemma kind_resolve {n : Node} (h : n.ForwardsExpressions) :
    n.resolve.kind = n.kind ∨ (n.kind = .stringList ∧ n.resolve.kind.isExpression) := by
  induction n using Node.induction with
  | step n ih =>
    cases hforward : n.forward? with
    | none =>
      left
      rcases n with ⟨head, shape⟩
      rw [resolve_of_plain hforward]
      exact kind_resolveParts shape
    | some declared =>
      right
      have hchild := forward_mem_children hforward
      have hexpression := h n (.refl n) declared hforward
      rw [resolve_of_forward hforward]
      constructor
      · obtain ⟨head, strings, rfl⟩ := eq_stringList_of_forward hforward
        rfl
      · rcases ih declared hchild (h.of_child hchild) with hsame | ⟨-, hresolved⟩
        · rw [hsame]
          exact hexpression
        · exact hresolved

/-! ### Templates -/

section Fill

variable (printer : Node → String)

lemma fill_ofArgument_resolve (part : Placed (Argument Node)) :
    fill printer (Piece.ofArgument (resolveArgument part)) =
      fill (printer ∘ resolve) (Piece.ofArgument part) := by
  rcases part with ⟨head, value, category, _ | ident⟩ <;>
    simp [resolveArgument, Piece.ofArgument, Piece.ofName?, resolve_ofName]

lemma fill_ofParameter_resolve (part : Placed (Parameter Node)) :
    fill printer (Piece.ofParameter (resolveParameter part)) =
      fill (printer ∘ resolve) (Piece.ofParameter part) := by
  rcases part with ⟨head, _ | ident, category, declared, _ | initial⟩ <;>
    simp [resolveParameter, Piece.ofParameter, Piece.ofName?, resolve_ofName]

lemma fill_ofClause_resolve (part : Placed (Clause Node)) :
    fill printer (Piece.ofClause (resolveClause part)) =
      fill (printer ∘ resolve) (Piece.ofClause part) := by
  rcases part with ⟨head, ⟨target, iterable, isAsync⟩ | condition⟩ <;>
    simp [resolveClause, Piece.ofClause]

lemma ofEntry_of_kind {n : Node} (h : n.kind ≠ .keyEntry) : Piece.ofEntry n = [.hole n] := by
  unfold Piece.ofEntry
  split
  · exact absurd rfl h
  · rfl

lemma fill_ofEntry_resolve {entry : Node} (h : entry.ForwardsExpressions) :
    fill printer (Piece.ofEntry entry.resolve) =
      fill (printer ∘ resolve) (Piece.ofEntry entry) := by
  by_cases hkey : entry.kind = .keyEntry
  · rcases entry with ⟨head, shape⟩
    cases shape with
    | keyEntry key value =>
      rw [resolve_of_plain rfl, resolveParts]
      simp [Piece.ofEntry]
    | clause c => cases c <;> cases hkey
    | _ => cases hkey
  · have hresolved : entry.resolve.kind ≠ .keyEntry := by
      rcases kind_resolve h with hsame | ⟨-, hexpression⟩
      · rwa [hsame]
      · intro hkind
        rw [hkind] at hexpression
        cases hexpression
    rw [ofEntry_of_kind hkey, ofEntry_of_kind hresolved]
    simp

lemma fill_ofBody_resolve {body : Node} (h : body.ForwardsExpressions) :
    fill printer (Piece.ofBody body.resolve) = fill (printer ∘ resolve) (Piece.ofBody body) := by
  have hguard : (body.resolve.kind = .keyEntry ∨ body.resolve.kind.isExpression) ↔
      (body.kind = .keyEntry ∨ body.kind.isExpression) := by
    rcases kind_resolve h with hsame | ⟨hlist, hexpression⟩
    · rw [hsame]
    · rw [hlist]
      exact ⟨fun _ => .inr rfl, fun _ => .inr hexpression⟩
  unfold Piece.ofBody
  by_cases hbody : body.kind = .keyEntry ∨ body.kind.isExpression
  · rw [if_pos hbody, if_pos (hguard.mpr hbody)]
    exact fill_ofEntry_resolve printer h
  · rw [if_neg hbody, if_neg (mt hguard.mp hbody)]
    simp

/-- The template of a resolved node has the resolved parts in its holes. The flag matters to string
lists with an annotation only, and there is none left. -/
lemma fill_template_resolve (flag : Bool) {n : Node} (h : n.ForwardsExpressions)
    (hplain : n.forward? = none) :
    fill printer (n.resolve.template ⟨flag⟩) =
      fill (printer ∘ resolve) (n.template ⟨true⟩) := by
  rcases n with ⟨head, shape⟩
  rw [resolve_of_plain hplain]
  cases shape with
  | stringList strings forward =>
    cases hplain
    cases flag <;> simp [resolveParts, template, resolve_ofString, Function.comp_def]
  | dictionary entries =>
    have hentries : entries.map (fun entry => fill printer (Piece.ofEntry entry.resolve)) =
        entries.map fun entry => fill (printer ∘ resolve) (Piece.ofEntry entry) := by
      apply List.map_congr_left
      intro entry hentry
      exact fill_ofEntry_resolve printer (h.of_child (by simpa [Shape.mem_children, Shape.slots]))
    simp only [Function.comp_def] at hentries
    simp [resolveParts, template, hentries, Function.comp_def]
  | comprehension body clauses =>
    have hbody := h.of_child (c := body) (by simp [Shape.mem_children, Shape.slots])
    simp [resolveParts, template, fill_ofBody_resolve printer hbody, fill_ofClause_resolve,
      Function.comp_def]
  | yield value => cases value <;> simp [resolveParts, template]
  | tuple entries =>
    rcases entries with _ | ⟨first, _ | ⟨second, rest⟩⟩ <;>
      simp [resolveParts, template, Function.comp_def]
  | slice start stop step =>
    cases start <;> cases stop <;> cases step <;>
      simp [resolveParts, template, Piece.ofBound]
  | parameter p =>
    rcases p with ⟨ident, category, declared, initial⟩
    simp [resolveParts, template]
  | argument a =>
    rcases a with ⟨value, category, ident⟩
    simp [resolveParts, template]
  | clause c => cases c <;> simp [resolveParts, template]
  | _ =>
    simp [resolveParts, template, resolve_ofName, fill_ofArgument_resolve,
      fill_ofParameter_resolve, Function.comp_def]

end Fill

/-- The recursion is on the size and not on the children: the holes of a template also stand for
children of children. Equal templates are enough, since both prints fill them in one way, however
long the chains are that each of them follows to the left. -/
theorem print_resolve (flag : Bool) {n : Node} (h : n.ForwardsExpressions) :
    n.print ⟨true⟩ = n.resolve.print ⟨flag⟩ := by
  cases hforward : n.forward? with
  | some declared =>
    have hdeclared := h.of_child (forward_mem_children hforward)
    have hprint : n.print ⟨true⟩ = declared.print ⟨true⟩ := by
      obtain ⟨head, strings, rfl⟩ := eq_stringList_of_forward hforward
      rw [print_eq_fill]
      simp [template]
    rw [hprint, resolve_of_forward hforward]
    exact print_resolve flag hdeclared
  | none =>
    rw [print_eq_fill, print_eq_fill, fill_template_resolve _ flag h hforward]
    apply fill_congr
    intro c hc
    have hbelow : c.ForwardsExpressions := fun m hm => h m ((reaches_of_hole hc).trans hm)
    exact print_resolve flag hbelow
termination_by sizeOf n
decreasing_by
  · exact sizeOf_lt_of_hole_mem_template hc
  · exact sizeOf_lt_of_mem_children (forward_mem_children hforward)

/-- To print the annotations in the place of their string lists is to print the resolved tree, with
or without annotations being printed there, since it has none. -/
theorem print_forward_eq_print_resolve (n : Node) (h : n.ForwardsExpressions) :
    n.print ⟨true⟩ = n.resolve.print ⟨false⟩ ∧ n.print ⟨true⟩ = n.resolve.print ⟨true⟩ ∧
      ∀ m, n.resolve.Reaches m → m.forward? = none :=
  ⟨print_resolve false h, print_resolve true h, fun _ => forward?_of_resolve_reaches⟩

section Witness

def quotedItem : Node :=
  mk ⟨4, ⟨0, 0⟩, .fitted⟩ (.stringList [stringAt 0 0 "T"] (some (ofName (nameAt 1 0 "T"))))

def boxOfItem : Node :=
  mk ⟨3, ⟨0, 0⟩, .fitted⟩ (.index (ofName (nameAt 2 0 "Box")) [quotedItem])

def quotedBox : Node :=
  mk ⟨6, ⟨0, 0⟩, .fitted⟩ (.stringList [stringAt 5 0 "Box[...]"] (some boxOfItem))

def quotedMember : Node :=
  mk ⟨8, ⟨0, 0⟩, .fitted⟩ (.memberAccess quotedBox (nameAt 7 0 "item"))

theorem quotedMember_print :
    quotedMember.ForwardsExpressions ∧ quotedMember.print ⟨true⟩ = "Box[T].item" ∧
      quotedMember.resolve.print ⟨false⟩ = "Box[T].item" ∧
      quotedMember.resolve.print ⟨true⟩ = "Box[T].item" := by
  have hname : ∀ part, (ofName part).ForwardsExpressions := by
    intro part
    rw [forwardsExpressions_iff]
    simp [ofName, forward?, Shape.children, Shape.slots]
  have hstring : ∀ part, (ofString part).ForwardsExpressions := by
    intro part
    rw [forwardsExpressions_iff]
    simp [ofString, forward?, Shape.children, Shape.slots]
  have hitem : quotedItem.ForwardsExpressions := by
    rw [forwardsExpressions_iff]
    refine ⟨fun declared hdeclared => ?_, ?_⟩
    · cases hdeclared
      rfl
    · simp [quotedItem, Shape.children, Shape.slots, hname, hstring]
  have hbox : boxOfItem.ForwardsExpressions := by
    rw [forwardsExpressions_iff]
    simp [boxOfItem, forward?, Shape.children, Shape.slots, hname, hitem]
  have hquoted : quotedBox.ForwardsExpressions := by
    rw [forwardsExpressions_iff]
    refine ⟨fun declared hdeclared => ?_, ?_⟩
    · cases hdeclared
      rfl
    · simp [quotedBox, Shape.children, Shape.slots, hbox, hstring]
  have hmember : quotedMember.ForwardsExpressions := by
    rw [forwardsExpressions_iff]
    simp [quotedMember, forward?, Shape.children, Shape.slots, hname, hquoted]
  have hprint : quotedMember.print ⟨true⟩ = "Box[T].item" := by
    simp [print_eq_fill, quotedMember, quotedBox, boxOfItem, quotedItem, template, ofName, nameAt]
    rfl
  obtain ⟨plain, flagged, -⟩ := print_forward_eq_print_resolve quotedMember hmember
  exact ⟨hmember, hprint, plain ▸ hprint, flagged ▸ hprint⟩

end Witness

end SyntaxForest.Node
