import SyntaxForest.Proofs.Construction
import SyntaxForest.Proofs.Samples
import SyntaxForest.Proofs.SpanCheck

/-!
# Constructions that fail

A construction fails on its start or on its length, and on nothing else: spans that are stretched or
fitted over the children pass the check of a span. A start with a length is checked before the
children are adopted, so that a failure leaves no trace; a start alone is checked after that.
-/

namespace SyntaxForest

/-- The span of a node with the given children spans, with a check of every span that is made on
the way. -/
def Extent.settleChecked (children : List Span) (extent : Extent) :
    Except Fault (Span × Placement) := do
  let cover ← Span.coverChecked? children
  match extent, cover with
  | fixed span, _ => return (span, .given)
  | stretched start, none =>
    let base ← Span.ofInts start 0
    return (base, .stretched base.start)
  | stretched start, some cover =>
    let base ← Span.ofInts start 0
    return (← base.extendChecked cover, .stretched base.start)
  | fitted, none => return (← Span.ofInts 0 0, .fitted)
  | fitted, some cover => return (cover, .fitted)

/-- Beyond the check of the start no check ever fails. -/
theorem settleChecked_eq (children : List Span) (extent : Extent) :
    extent.settleChecked children = extent.settle children := by
  rw [Extent.settleChecked, Span.coverChecked?_eq]
  cases hcover : Span.cover? children with
  | none => cases extent <;> simp [Extent.settle, hcover] <;> rfl
  | some cover =>
    cases extent with
    | fixed span => rfl
    | fitted => simp [Extent.settle, hcover]; rfl
    | stretched start =>
      simp only [Extent.settle, hcover, Span.extendChecked_eq]
      rfl

/-! ### When a construction fails -/

lemma hint_of_not_isLeaf {shape : Shape Node} (h : ¬shape.kind.IsLeaf) (hint : Hint) :
    shape.hint hint = hint := by
  unfold Shape.hint
  split
  all_goals first
    | rfl
    | exact absurd (by simp [Kind.IsLeaf, Shape.kind]) h

lemma extent_eq_error_iff {start length : Int} {fault : Fault} :
    Hint.extent ⟨some start, some length⟩ = .error fault ↔
      (start < 0 ∨ length < 0) ∧ fault = Fault.ofRange start length := by
  rw [← Span.ofInts_eq_error_iff, Hint.extent]
  cases Span.ofInts start length <;> simp [Except.map]

/-- A span that is given is kept. -/
lemma settle_given_ne_error {start length : Int} {extent : Extent} {children : List Span}
    {fault : Fault} (h : Hint.extent ⟨some start, some length⟩ = .ok extent) :
    extent.settle children ≠ .error fault := by
  rw [Hint.extent] at h
  cases hspan : Span.ofInts start length with
  | error other =>
    rw [hspan] at h
    cases h
  | ok span =>
    rw [hspan] at h
    cases h
    exact nofun

lemma settle_stretched_eq_error_iff {children : List Span} {start : Int} {fault : Fault} :
    (Extent.stretched start).settle children = .error fault ↔
      start < 0 ∧ fault = Fault.ofRange start 0 := by
  have hchecked := @Span.ofInts_eq_error_iff start 0 fault
  rw [or_iff_left (Int.lt_irrefl 0)] at hchecked
  rw [← hchecked, Extent.settle]
  cases Span.ofInts start 0 <;> simp [bind, Except.bind, pure, Except.pure]

namespace Forest

variable (f : Forest)

/-- A construction fails before it adopts the children, for lack of an extent, or after that, for
lack of a span of this extent. -/
lemma construct_eq_error_iff (hint : Hint) (shape : Shape Node) (fault : Fault) :
    (f.construct hint shape).1 = .error fault ↔
      (shape.hint hint).extent = .error fault ∨
        ∃ extent, (shape.hint hint).extent = .ok extent ∧
          extent.settle (shape.children.map Node.span) = .error fault := by
  unfold construct
  cases (shape.hint hint).extent with
  | error other => simp
  | ok extent =>
    dsimp only
    cases hsettle : extent.settle (shape.children.map Node.span) <;> simp [hsettle]

/-- A node that is placed by its hint fails on a negative start, or on a negative length beside a
start. -/
theorem construct_hinted_eq_error_iff {start length : Option Int} {shape : Shape Node}
    (hkind : ¬shape.kind.IsLeaf) (fault : Fault) :
    (f.construct ⟨start, length⟩ shape).1 = .error fault ↔
      ∃ s, start = some s ∧ (s < 0 ∨ ∃ l, length = some l ∧ l < 0) ∧
        fault = Fault.ofRange s (length.getD 0) := by
  rw [construct_eq_error_iff, hint_of_not_isLeaf hkind]
  cases start with
  | none => simp [Hint.extent, Extent.settle]
  | some s =>
    cases length with
    | none =>
      have hsettle := @settle_stretched_eq_error_iff (shape.children.map Node.span) s fault
      simp [Hint.extent, hsettle]
    | some l =>
      have hgiven : ¬∃ extent, Hint.extent ⟨some s, some l⟩ = .ok extent ∧
          extent.settle (shape.children.map Node.span) = .error fault :=
        fun ⟨extent, hextent, hsettle⟩ => settle_given_ne_error hextent hsettle
      rw [or_iff_left hgiven, extent_eq_error_iff]
      simp

/-! ### What a failure leaves behind -/

/-- What the construction with a number came to. -/
def outcome? (id : Nat) : Option Outcome :=
  f.cells[id]?.map Cell.outcome

lemma outcome?_setParent (parent id i : Nat) :
    (f.setParent parent id).outcome? i = f.outcome? i := by
  unfold outcome? setParent
  rw [Array.getElem?_modify]
  split <;> cases f.cells[i]? <;> rfl

lemma outcome?_adopt (parent : Nat) (children : List Node) (i : Nat) :
    (f.adopt parent children).outcome? i = f.outcome? i := by
  unfold adopt
  induction children generalizing f with
  | nil => rfl
  | cons c rest ih => rw [List.foldl_cons, ih, outcome?_setParent]

lemma cells_perform (r : Request) (i : Nat) :
    (f.perform r).cells[i]? =
      if i = f.size then some ⟨r.outcome f.size, none⟩
      else (f.adopt f.size r.adopted).cells[i]? := by
  have hsize : (f.adopt f.size r.adopted).cells.size = f.size := size_adopt f f.size r.adopted
  rw [perform_eq, push, Array.getElem?_push, hsize]

/-- A construction changes nothing in what earlier constructions came to. -/
lemma outcome?_perform (r : Request) {i : Nat} (hi : i < f.size) :
    (f.perform r).outcome? i = f.outcome? i := by
  rw [outcome?, cells_perform, if_neg (Nat.ne_of_lt hi)]
  exact outcome?_adopt f f.size r.adopted i

section Failure

variable {f} {r : Request} {fault : Fault}

lemma outcome_of_error (h : (f.construct r.hint r.shape).1 = .error fault) :
    r.outcome f.size = .failed r.shape.kind := by
  have hcauses := (f.construct_eq_error_iff r.hint r.shape fault).mp h
  rcases hcauses with hplace | ⟨extent, hplace, hsettle⟩
  · rw [Request.outcome, Request.place, hplace]
  · rw [Request.outcome, Request.place, hplace]
    dsimp only
    rw [hsettle]

/-- A construction that was given a whole span fails before it adopts the children. -/
lemma adopted_of_error_given (hkind : ¬r.shape.kind.IsLeaf)
    (h : (f.construct r.hint r.shape).1 = .error fault) (hlength : r.hint.length.isSome) :
    r.adopted = [] := by
  obtain ⟨start, hstart, -⟩ := (f.construct_hinted_eq_error_iff hkind fault).mp h
  obtain ⟨length, hlength⟩ := Option.isSome_iff_exists.mp hlength
  have hhint : r.hint = ⟨some start, some length⟩ := by rw [← hstart, ← hlength]
  have hplace : (r.shape.hint r.hint).extent = .error fault := by
    have hcauses := (f.construct_eq_error_iff r.hint r.shape fault).mp h
    rcases hcauses with hplace | ⟨extent, hplace, hsettle⟩
    · exact hplace
    · rw [hint_of_not_isLeaf hkind, hhint] at hplace
      exact absurd hsettle (settle_given_ne_error hplace)
  rw [Request.adopted, Request.place, hplace]

/-- A construction that was given no length adopts the children, whatever comes of it. -/
lemma adopted_of_no_length (hkind : ¬r.shape.kind.IsLeaf) (hlength : r.hint.length = none) :
    r.adopted = r.shape.children := by
  have hplace : ∃ extent, (r.shape.hint r.hint).extent = .ok extent := by
    rw [hint_of_not_isLeaf hkind]
    rcases hhint : r.hint with ⟨_ | start, length⟩
    · exact ⟨.fitted, rfl⟩
    · rw [hhint] at hlength
      cases hlength
      exact ⟨.stretched start, rfl⟩
  obtain ⟨extent, hextent⟩ := hplace
  rw [Request.adopted, Request.place, hextent]

end Failure

/-- A construction with children fails exactly on a negative start or on a negative length beside a
start, of which the start is reported first; no check of a span over children fails. Where a whole
span was given, the nodes and links are as before. Where a start alone was given, the children are
linked to the failed node, which has no parent, and nothing else has changed. -/
theorem construct_failure {r : Request} (haccepts : f.Accepts r) (hkind : ¬r.shape.kind.IsLeaf) :
    ((∃ fault, (f.construct r.hint r.shape).1 = .error fault) ↔
      ∃ start, r.hint.start = some start ∧
        (start < 0 ∨ ∃ length, r.hint.length = some length ∧ length < 0)) ∧
    (∀ extent : Extent, extent.settleChecked (r.shape.children.map Node.span) =
      extent.settle (r.shape.children.map Node.span)) ∧
    ∀ fault, (f.construct r.hint r.shape).1 = .error fault →
      (∃ start, r.hint.start = some start ∧
        fault = Fault.ofRange start (r.hint.length.getD 0) ∧
        fault.code = if start < 0 then "R001" else "R002") ∧
      (f.perform r).cells[f.size]? = some ⟨.failed r.shape.kind, none⟩ ∧
      (r.hint.length.isSome → ∀ id < f.size, (f.perform r).cells[id]? = f.cells[id]?) ∧
      (r.hint.length = none → ∀ id < f.size,
        (f.perform r).parent? id =
          (if id ∈ r.shape.children.map Node.id then some f.size else f.parent? id) ∧
        (f.perform r).outcome? id = f.outcome? id) := by
  refine ⟨?_, settleChecked_eq _, ?_⟩
  · constructor
    · rintro ⟨fault, hfault⟩
      obtain ⟨start, hstart, hneg, -⟩ := (f.construct_hinted_eq_error_iff hkind fault).mp hfault
      exact ⟨start, hstart, hneg⟩
    · rintro ⟨start, hstart, hneg⟩
      exact ⟨_, (f.construct_hinted_eq_error_iff hkind _).mpr ⟨start, hstart, hneg, rfl⟩⟩
  · intro fault hfault
    refine ⟨?_, ?_, ?_, ?_⟩
    · obtain ⟨start, hstart, -, rfl⟩ := (f.construct_hinted_eq_error_iff hkind fault).mp hfault
      refine ⟨start, hstart, rfl, ?_⟩
      unfold Fault.ofRange
      split <;> rfl
    · rw [cells_perform, if_pos rfl, outcome_of_error hfault]
    · intro hlength id hid
      rw [cells_perform, if_neg (Nat.ne_of_lt hid), adopted_of_error_given hkind hfault hlength]
      rfl
    · intro hlength id hid
      rw [parent?_perform haccepts, adopted_of_no_length hkind hlength]
      exact ⟨rfl, f.outcome?_perform r hid⟩

section Witness

def oneName : Forest :=
  empty.perform ⟨⟨none, none⟩, firstName.shape⟩

def stretchedTuple : Request :=
  ⟨⟨some (-1), none⟩, .tuple [firstName, firstName]⟩

def shortTuple : Request :=
  ⟨⟨some 2, some (-1)⟩, .tuple [firstName]⟩

theorem oneName_failures :
    oneName.Accepts stretchedTuple ∧ ¬stretchedTuple.shape.kind.IsLeaf ∧
      (oneName.construct stretchedTuple.hint stretchedTuple.shape).1 =
        .error (.negativeStart (-1)) ∧
      (oneName.perform stretchedTuple).parent? 0 = some 1 ∧
      (oneName.perform stretchedTuple).cells[1]? = some ⟨.failed .tuple, none⟩ ∧
      oneName.Accepts shortTuple ∧ ¬shortTuple.shape.kind.IsLeaf ∧
      (oneName.construct shortTuple.hint shortTuple.shape).1 =
        .error (.negativeLength 2 (-1)) ∧
      (oneName.perform shortTuple).cells[0]? = oneName.cells[0]? := by
  have hstretched : oneName.Accepts stretchedTuple := accepts_pair rfl rfl rfl
  have hshort : oneName.Accepts shortTuple := accepts_single rfl rfl
  have hstart : (oneName.construct stretchedTuple.hint stretchedTuple.shape).1 =
      .error (.negativeStart (-1)) := rfl
  have hlength : (oneName.construct shortTuple.hint shortTuple.shape).1 =
      .error (.negativeLength 2 (-1)) := rfl
  obtain ⟨-, -, hfailed⟩ := oneName.construct_failure hstretched (by decide)
  obtain ⟨-, hcell, -, hlinks⟩ := hfailed _ hstart
  obtain ⟨-, -, hrefused⟩ := oneName.construct_failure hshort (by decide)
  obtain ⟨-, -, hsame, -⟩ := hrefused _ hlength
  exact ⟨hstretched, by decide, hstart, (hlinks rfl 0 (by decide)).1, hcell, hshort, by decide,
    hlength, hsame rfl 0 (by decide)⟩

end Witness

end Forest

end SyntaxForest
