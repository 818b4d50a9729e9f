import SyntaxForest.Proofs.Ancestors
import SyntaxForest.Proofs.Samples

/-!
# Links to parents

Every construction has a number that is greater than those of its children, and the children are
linked to nothing but to constructions that adopted them. So links go up in the numbers: no node
lies above itself, and a climb ends at a node without a parent before it runs out of nodes.
-/

namespace SyntaxForest.Forest

variable {requests : List Request} {f : Forest}

/-! ### Which links there are -/

lemma Run.id_eq_of_node? (h : Run empty requests f) {id : Nat} {n : Node}
    (hn : f.node? id = some n) : n.id = id := by
  rw [h.node?_eq] at hn
  obtain ⟨r, -, hbuilt⟩ := Option.bind_eq_some_iff.mp hn
  exact (Request.eq_of_outcome_node? hbuilt).1

/-- A construction has the nodes that it adopts among its children. -/
lemma Run.child_of_adopts (h : Run empty requests f) {p id : Nat} (hadopts : Adopts requests p id) :
    ∃ r, requests[p]? = some r ∧ ∃ c ∈ r.shape.children, c.id = id ∧ f.node? id = some c := by
  obtain ⟨r, hr, hid⟩ := hadopts
  obtain ⟨c, hc, rfl⟩ := List.mem_map.mp hid
  have hchild := Request.mem_children_of_mem_adopted hc
  exact ⟨r, hr, c, hchild, rfl, (h.accepted hr hchild).1⟩

/-- The nodes without a parent are those that were never adopted. -/
theorem Run.parent?_eq_none_iff (h : Run empty requests f) (id : Nat) :
    f.parent? id = none ↔ ∀ p, ¬Adopts requests p id := by
  induction h using Run.induction_last with
  | start => simp [parent?, empty, Adopts]
  | @next requests f r hrun haccepts ih =>
    rw [parent?_perform haccepts]
    simp only [adopts_snoc]
    by_cases hid : id ∈ r.adopted.map Node.id
    · rw [if_pos hid]
      simp only [reduceCtorEq, false_iff]
      exact fun hnever => hnever requests.length (.inr ⟨rfl, hid⟩)
    · rw [if_neg hid, ih]
      simp only [hid, and_false, or_false]

/-! ### Climbing -/

/-- The links go up in the numbers, so a climb from a node takes one step less than there are nodes
from this one on. -/
lemma Run.length_climb_lt (h : Run empty requests f) (limit : Nat) {id : Nat} (hid : id < f.size) :
    id + (f.climb limit id).length < f.size := by
  induction limit generalizing id with
  | zero => exact hid
  | succ limit ih =>
    cases hp : f.parent? id with
    | none =>
      rw [climb_of_root hp]
      exact hid
    | some p =>
      obtain ⟨hup, hlt⟩ := h.lt_of_parent? hp
      have hrest := ih hlt
      rw [climb_of_parent? hp, List.length_cons]
      omega

lemma isChain_climb (f : Forest) (limit id : Nat) :
    List.IsChain f.Under (id :: f.climb limit id) := by
  induction limit generalizing id with
  | zero => exact .singleton id
  | succ limit ih =>
    cases hp : f.parent? id with
    | none =>
      rw [climb_of_root hp]
      exact .singleton id
    | some p =>
      rw [climb_of_parent? hp]
      exact .cons_cons hp (ih p)

/-- A climb with room for all nodes ends at a node without a parent. -/
lemma Run.parent?_last_climb (h : Run empty requests f) {limit id : Nat}
    (hlimit : f.size ≤ id + limit) : f.parent? ((f.climb limit id).getLastD id) = none := by
  induction limit generalizing id with
  | zero =>
    rw [Option.eq_none_iff_forall_ne_some]
    intro p hp
    have hlt : id < p ∧ p < f.size := h.lt_of_parent? hp
    omega
  | succ limit ih =>
    cases hp : f.parent? id with
    | none =>
      rw [climb_of_root hp]
      exact hp
    | some p =>
      have hup := (h.lt_of_parent? hp).1
      rw [climb_of_parent? hp, List.getLastD_cons]
      exact ih (by omega)

/-- After any run the links go from each node to the last construction that adopted it, which has it
among its children and a greater number. So a climb meets no node twice: it takes fewer steps than
there are nodes, ends at a node without a parent, and to lie within one another is an order. -/
theorem Run.links_ascend (h : Run empty requests f) :
    f.size = requests.length ∧
    (∀ p r, requests[p]? = some r → ∀ c ∈ r.shape.children,
      c.id < p ∧ f.node? c.id = some c) ∧
    (∀ id n, f.node? id = some n →
      n.id = id ∧ ∃ r, requests[id]? = some r ∧ r.shape = n.shape) ∧
    (∀ id p, f.parent? id = some p →
      id < p ∧ p < f.size ∧
      (∃ r, requests[p]? = some r ∧ ∃ c ∈ r.shape.children, c.id = id ∧ f.node? id = some c) ∧
      Adopts requests p id ∧ ∀ q, Adopts requests q id → q ≤ p) ∧
    (∀ id, f.parent? id = none ↔ ∀ p, ¬Adopts requests p id) ∧
    (∀ id, ¬Relation.TransGen f.Under id id) ∧
    (∀ id < f.size,
      List.IsChain f.Under (id :: f.ancestors id) ∧
      f.parent? ((f.ancestors id).getLastD id) = none ∧
      f.depth id ≤ f.size ∧
      ∀ limit, f.size ≤ limit → f.climb limit id = f.ancestors id) ∧
    (∀ a, ¬f.Within a a) ∧
    (∀ a b, f.Within a b → ¬f.Within b a) ∧
    ∀ a b c, f.Within a b → f.Within b c → f.Within a c := by
  refine ⟨h.size_eq, ?_, ?_, ?_, h.parent?_eq_none_iff, h.not_transGen_self, ?_,
    h.not_within_self, ?_, ?_⟩
  · intro p r hr c hc
    exact (h.accepted hr hc).symm
  · intro id n hn
    obtain rfl := h.id_eq_of_node? hn
    obtain ⟨r, hr, hshape, -⟩ := h.request_of_node? hn
    exact ⟨rfl, r, hr, hshape⟩
  · intro id p hp
    obtain ⟨hup, hlt⟩ := h.lt_of_parent? hp
    obtain ⟨hadopts, hlast⟩ := (h.parent?_eq_some_iff id p).mp hp
    exact ⟨hup, hlt, h.child_of_adopts hadopts, hadopts, hlast⟩
  · intro id hid
    have hlength := h.length_climb_lt f.size hid
    refine ⟨isChain_climb f f.size id, h.parent?_last_climb (Nat.le_add_left _ _), ?_, ?_⟩
    · unfold depth ancestors
      omega
    · intro limit hlimit
      exact h.climb_eq_of_le (Nat.le_add_left_of_le hlimit) (Nat.le_add_left _ _)
  · intro a b
    rw [h.within_iff_transGen, h.within_iff_transGen]
    exact fun hab hba => h.not_transGen_self a (hab.trans hba)
  · intro a b c
    rw [h.within_iff_transGen, h.within_iff_transGen, h.within_iff_transGen]
    exact Relation.TransGen.trans

section Witness

/-- The construction with the number two fails before it adopts the name, the one with the number
three after it has adopted the name and the list. -/
def sharingRequests : List Request :=
  [⟨⟨none, none⟩, firstName.shape⟩, ⟨⟨none, none⟩, pairList.shape⟩,
    ⟨⟨some (-1), some 2⟩, .list [firstName]⟩,
    ⟨⟨some (-1), none⟩, .tuple [firstName, pairList]⟩,
    ⟨⟨none, none⟩, .unpack pairList⟩]

lemma sharing_run : Run empty sharingRequests (sharingRequests.foldl perform empty) :=
  .step nofun (.step (accepts_pair rfl rfl rfl) (.step (accepts_single rfl rfl)
    (.step (accepts_pair rfl rfl rfl) (.step (accepts_single rfl rfl) (.done _)))))

theorem sharing_links :
    Run empty sharingRequests (sharingRequests.foldl perform empty) ∧
      (sharingRequests.foldl perform empty).parent? 0 = some 3 ∧
      Adopts sharingRequests 1 0 ∧ Adopts sharingRequests 3 0 ∧
      (∀ q, Adopts sharingRequests q 0 → q ≤ 3) ∧
      (sharingRequests.foldl perform empty).parent? 1 = some 4 ∧
      (sharingRequests.foldl perform empty).ancestors 0 = [3] ∧
      (sharingRequests.foldl perform empty).parent? 3 = none ∧
      ¬(sharingRequests.foldl perform empty).Within 3 0 := by
  have hparent : (sharingRequests.foldl perform empty).parent? 0 = some 3 := rfl
  have hfirst : Adopts sharingRequests 1 0 := ⟨_, rfl, List.mem_cons_self⟩
  obtain ⟨-, -, -, hlinks, -, -, hclimb, -, hasymm, -⟩ := sharing_run.links_ascend
  obtain ⟨-, -, -, hadopts, hlast⟩ := hlinks 0 3 hparent
  obtain ⟨-, hroot, -⟩ := hclimb 0 (by decide)
  exact ⟨sharing_run, hparent, hfirst, hadopts, hlast, rfl, rfl, hroot,
    hasymm 0 3 (by decide)⟩

end Witness

end SyntaxForest.Forest
