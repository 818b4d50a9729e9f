import Mathlib.Tactic.Common
import SyntaxForest.Forest.Run

/-!
# Constructions and runs

A construction does two things to a forest: the nodes that it adopts get a new parent, and one cell
is added at the end. After a run a node is what its own construction came to, and its parent is the
last construction that adopted it.
-/

namespace SyntaxForest

namespace Request

/-- Where the construction is to place its node. -/
def place (r : Request) : Hint :=
  r.shape.hint r.hint

/-- The children that the construction adopts, also if it fails after that. -/
def adopted (r : Request) : List Node :=
  match r.place.extent with
  | .ok _ => r.shape.children
  | .error _ => []

/-- What the construction comes to under the number `id`. -/
def outcome (id : Nat) (r : Request) : Outcome :=
  match r.place.extent with
  | .error _ => .failed r.shape.kind
  | .ok extent =>
    match extent.settle (r.shape.children.map Node.span) with
    | .error _ => .failed r.shape.kind
    | .ok (span, placement) => .built (.mk ⟨id, span, placement⟩ r.shape)

lemma mem_children_of_mem_adopted {r : Request} {c : Node} (h : c ∈ r.adopted) :
    c ∈ r.shape.children := by
  unfold adopted at h
  split at h
  · exact h
  · cases h

/-- A construction that succeeds has adopted all children and settled the span. -/
lemma eq_of_outcome_node? {r : Request} {id : Nat} {n : Node}
    (h : (r.outcome id).node? = some n) :
    n.id = id ∧ n.shape = r.shape ∧ r.adopted = n.children ∧
      ∃ extent, r.place.extent = .ok extent ∧
        extent.settle (n.children.map Node.span) = .ok (n.span, n.head.placement) := by
  unfold outcome at h
  unfold adopted
  split at h
  · cases h
  · rename_i extent hextent
    split at h
    · cases h
    · rename_i span placement hsettle
      cases h
      exact ⟨rfl, rfl, by rw [hextent]; rfl, extent, hextent, hsettle⟩

end Request

namespace Forest

/-! ### What a construction changes -/

lemma perform_eq (f : Forest) (r : Request) :
    f.perform r = (f.adopt f.size r.adopted).push (r.outcome f.size) := by
  unfold perform construct Request.outcome Request.adopted Request.place
  cases (r.shape.hint r.hint).extent with
  | error fault => rfl
  | ok extent =>
    dsimp only
    cases extent.settle (r.shape.children.map Node.span) <;> rfl

lemma size_setParent (f : Forest) (parent id : Nat) : (f.setParent parent id).size = f.size := by
  simp [setParent, size]

lemma size_adopt (f : Forest) (parent : Nat) (children : List Node) :
    (f.adopt parent children).size = f.size := by
  unfold adopt
  induction children generalizing f with
  | nil => rfl
  | cons c rest ih => rw [List.foldl_cons, ih, size_setParent]

lemma node?_setParent (f : Forest) (parent id i : Nat) :
    (f.setParent parent id).node? i = f.node? i := by
  unfold node? setParent
  rw [Array.getElem?_modify]
  split <;> cases f.cells[i]? <;> rfl

lemma node?_adopt (f : Forest) (parent : Nat) (children : List Node) (i : Nat) :
    (f.adopt parent children).node? i = f.node? i := by
  unfold adopt
  induction children generalizing f with
  | nil => rfl
  | cons c rest ih => rw [List.foldl_cons, ih, node?_setParent]

lemma parent?_setParent (f : Forest) (parent : Nat) {id : Nat} (h : id < f.size) (i : Nat) :
    (f.setParent parent id).parent? i = if i = id then some parent else f.parent? i := by
  unfold parent? setParent
  rw [Array.getElem?_modify]
  by_cases hi : i = id
  · subst hi
    rw [if_pos rfl, if_pos rfl, Array.getElem?_eq_getElem h]
    rfl
  · rw [if_neg (Ne.symm hi), if_neg hi]

lemma parent?_adopt (f : Forest) (parent : Nat) {children : List Node}
    (h : ∀ c ∈ children, c.id < f.size) (i : Nat) :
    (f.adopt parent children).parent? i =
      if i ∈ children.map Node.id then some parent else f.parent? i := by
  unfold adopt
  induction children generalizing f with
  | nil => rfl
  | cons c rest ih =>
    have hrest : ∀ d ∈ rest, d.id < (f.setParent parent c.id).size := by
      intro d hd
      rw [size_setParent]
      exact h d (List.mem_cons_of_mem c hd)
    rw [List.foldl_cons, ih _ hrest, parent?_setParent f parent (h c List.mem_cons_self),
      List.map_cons]
    by_cases hi : i ∈ rest.map Node.id
    · rw [if_pos hi, if_pos (List.mem_cons_of_mem _ hi)]
    · simp only [List.mem_cons, hi, or_false, if_false]

lemma node?_push (f : Forest) (outcome : Outcome) (i : Nat) :
    (f.push outcome).node? i = if i = f.size then outcome.node? else f.node? i := by
  unfold node? push size
  rw [Array.getElem?_push]
  split <;> rfl

lemma parent?_push (f : Forest) (outcome : Outcome) (i : Nat) :
    (f.push outcome).parent? i = f.parent? i := by
  unfold parent? push
  rw [Array.getElem?_push]
  by_cases hi : i = f.cells.size
  · rw [if_pos hi, Array.getElem?_eq_none (by omega)]
    rfl
  · rw [if_neg hi]

lemma lt_size_of_node? {f : Forest} {id : Nat} {n : Node} (h : f.node? id = some n) :
    id < f.size := by
  obtain ⟨cell, hcell, -⟩ := Option.bind_eq_some_iff.mp h
  exact (Array.getElem?_eq_some_iff.mp hcell).1

lemma size_perform (f : Forest) (r : Request) : (f.perform r).size = f.size + 1 := by
  rw [perform_eq]
  unfold push size
  rw [Array.size_push]
  exact congrArg (· + 1) (size_adopt f f.size r.adopted)

lemma node?_perform (f : Forest) (r : Request) (i : Nat) :
    (f.perform r).node? i = if i = f.size then (r.outcome f.size).node? else f.node? i := by
  rw [perform_eq, node?_push, size_adopt, node?_adopt]

lemma parent?_perform {f : Forest} {r : Request} (h : f.Accepts r) (i : Nat) :
    (f.perform r).parent? i =
      if i ∈ r.adopted.map Node.id then some f.size else f.parent? i := by
  rw [perform_eq, parent?_push, parent?_adopt]
  intro c hc
  exact lt_size_of_node? (h c (Request.mem_children_of_mem_adopted hc))

/-! ### Runs -/

lemma Run.snoc {f g : Forest} {requests : List Request} {r : Request} (h : Run f requests g)
    (hr : g.Accepts r) : Run f (requests ++ [r]) (g.perform r) := by
  induction h with
  | done f => exact .step hr (.done _)
  | step haccepts _ ih => exact .step haccepts (ih hr)

/-- What holds of the empty forest and passes over every construction holds of all runs. -/
theorem Run.induction_last {motive : ∀ requests f, Run empty requests f → Prop}
    (start : motive [] empty (.done empty))
    (next : ∀ {requests f r} (h : Run empty requests f) (hr : f.Accepts r),
      motive requests f h → motive (requests ++ [r]) (f.perform r) (h.snoc hr))
    {requests : List Request} {f : Forest} (h : Run empty requests f) : motive requests f h := by
  have hfrom : ∀ {g rest f}, Run g rest f → ∀ before (hbefore : Run empty before g),
      motive before g hbefore → ∀ h, motive (before ++ rest) f h := by
    intro g rest f hrest
    induction hrest with
    | done f =>
      intro before hbefore hmotive
      rw [List.append_nil]
      exact fun _ => hmotive
    | step haccepts _ ih =>
      intro before hbefore hmotive
      rw [List.append_cons]
      exact ih _ (hbefore.snoc haccepts) (next hbefore haccepts hmotive)
  exact hfrom h [] (.done empty) start h

variable {requests : List Request} {f : Forest}

lemma Run.size_eq (h : Run empty requests f) : f.size = requests.length := by
  induction h using Run.induction_last with
  | start => rfl
  | next _ _ ih => rw [size_perform, ih, List.length_append, List.length_singleton]

/-- A node is what its construction came to, whatever was constructed later. -/
theorem Run.node?_eq (h : Run empty requests f) (id : Nat) :
    f.node? id = requests[id]?.bind fun r => (r.outcome id).node? := by
  induction h using Run.induction_last with
  | start => rfl
  | @next requests f r hrun _ ih =>
    rw [node?_perform, hrun.size_eq, List.getElem?_append]
    rcases Nat.lt_trichotomy id requests.length with hlt | rfl | hgt
    · rw [if_neg (by omega), if_pos hlt, ih]
    · simp
    · rw [if_neg (by omega), if_neg (by omega), ih, List.getElem?_eq_none (by omega),
        List.getElem?_eq_none (by simp; omega)]

lemma getElem?_snoc_eq_some_iff {requests : List Request} {last r : Request} {i : Nat} :
    (requests ++ [last])[i]? = some r ↔
      requests[i]? = some r ∨ (i = requests.length ∧ last = r) := by
  rcases Nat.lt_trichotomy i requests.length with hlt | rfl | hgt
  · simp [List.getElem?_append_left hlt, Nat.ne_of_lt hlt]
  · simp
  · rw [List.getElem?_eq_none (by simp; omega), List.getElem?_eq_none (Nat.le_of_lt hgt)]
    simp [Nat.ne_of_gt hgt]

/-- The construction with the number `p` in a run adopts the node with the number `id`. -/
def Adopts (requests : List Request) (p id : Nat) : Prop :=
  ∃ r, requests[p]? = some r ∧ id ∈ r.adopted.map Node.id

lemma Adopts.lt {p id : Nat} (h : Adopts requests p id) : p < requests.length := by
  obtain ⟨r, hr, -⟩ := h
  exact (List.getElem?_eq_some_iff.mp hr).1

lemma adopts_snoc (requests : List Request) (r : Request) (p id : Nat) :
    Adopts (requests ++ [r]) p id ↔
      Adopts requests p id ∨ (p = requests.length ∧ id ∈ r.adopted.map Node.id) := by
  unfold Adopts
  simp only [getElem?_snoc_eq_some_iff, or_and_right, exists_or, and_assoc, exists_and_left,
    exists_eq_left']

/-- The parent of a node is the last construction that adopted it. -/
theorem Run.parent?_eq_some_iff (h : Run empty requests f) (id p : Nat) :
    f.parent? id = some p ↔
      Adopts requests p id ∧ ∀ q, Adopts requests q id → q ≤ p := by
  induction h using Run.induction_last with
  | start => simp [parent?, empty, Adopts]
  | @next requests f r hrun haccepts ih =>
    rw [parent?_perform haccepts, hrun.size_eq]
    simp only [adopts_snoc]
    by_cases hid : id ∈ r.adopted.map Node.id
    · rw [if_pos hid, Option.some.injEq]
      constructor
      · rintro rfl
        refine ⟨.inr ⟨rfl, hid⟩, ?_⟩
        rintro q (hq | ⟨rfl, -⟩)
        · exact Nat.le_of_lt hq.lt
        · exact Nat.le_refl _
      · rintro ⟨hp, hlast⟩
        have hle := hlast requests.length (.inr ⟨rfl, hid⟩)
        rcases hp with hp | ⟨rfl, -⟩
        · exact absurd hp.lt (Nat.not_lt.mpr hle)
        · rfl
    · rw [if_neg hid, ih]
      simp only [hid, and_false, or_false]

lemma accepts_single {f : Forest} {r : Request} {c : Node} (hchildren : r.shape.children = [c])
    (hc : f.node? c.id = some c) : f.Accepts r := by
  rw [Accepts, hchildren]
  exact List.forall_mem_singleton.mpr hc

lemma accepts_pair {f : Forest} {r : Request} {b c : Node}
    (hchildren : r.shape.children = [b, c]) (hb : f.node? b.id = some b)
    (hc : f.node? c.id = some c) : f.Accepts r := by
  rw [Accepts, hchildren]
  exact List.forall_mem_cons.mpr ⟨hb, List.forall_mem_singleton.mpr hc⟩

/-- The children of every construction were built before it. -/
theorem Run.accepted (h : Run empty requests f) {id : Nat} {r : Request}
    (hr : requests[id]? = some r) {c : Node} (hc : c ∈ r.shape.children) :
    f.node? c.id = some c ∧ c.id < id := by
  induction h using Run.induction_last with
  | start => cases hr
  | @next requests f last hrun haccepts ih =>
    rw [node?_perform, hrun.size_eq]
    have hbefore : f.node? c.id = some c ∧ c.id < id := by
      rcases getElem?_snoc_eq_some_iff.mp hr with hr | ⟨rfl, rfl⟩
      · exact ih hr
      · have hnode := haccepts c hc
        have hlt := lt_size_of_node? hnode
        rw [hrun.size_eq] at hlt
        exact ⟨hnode, hlt⟩
    have hlt := lt_size_of_node? hbefore.1
    rw [hrun.size_eq] at hlt
    rw [if_neg (by omega)]
    exact hbefore

lemma Run.request_of_node? (h : Run empty requests f) {n : Node} (hn : f.node? n.id = some n) :
    ∃ r, requests[n.id]? = some r ∧ r.shape = n.shape ∧ r.adopted = n.children ∧
      ∃ extent, r.place.extent = .ok extent ∧
        extent.settle (n.children.map Node.span) = .ok (n.span, n.head.placement) := by
  rw [h.node?_eq] at hn
  obtain ⟨r, hr, hbuilt⟩ := Option.bind_eq_some_iff.mp hn
  obtain ⟨-, hshape, hadopted, hsettled⟩ := Request.eq_of_outcome_node? hbuilt
  exact ⟨r, hr, hshape.symm, hadopted, hsettled⟩

lemma Run.node?_of_child (h : Run empty requests f) {n c : Node} (hn : f.node? n.id = some n)
    (hc : c ∈ n.children) : f.node? c.id = some c := by
  obtain ⟨r, hr, hshape, -⟩ := h.request_of_node? hn
  rw [Node.children, ← hshape] at hc
  exact (h.accepted hr hc).1

end Forest

end SyntaxForest
