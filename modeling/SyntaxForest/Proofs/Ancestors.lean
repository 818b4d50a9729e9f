import Mathlib.Data.List.Nodup
import SyntaxForest.Forest.Ancestry
import SyntaxForest.Proofs.Construction
import SyntaxForest.Proofs.Descendants

/-!
# Ancestors in a run

A parent is constructed after the nodes that it adopts. So a chain of parents goes up in the
numbers, it ends within the forest, and the bound on the climb is never felt. Links between parents
and children agree in one direction in every run, and in both if no node is adopted twice.
-/

namespace SyntaxForest.Forest

variable {requests : List Request} {f : Forest}

/-! ### Chains of parents -/

lemma Run.lt_of_parent? (h : Run empty requests f) {id p : Nat} (hp : f.parent? id = some p) :
    id < p ∧ p < f.size := by
  obtain ⟨hadopts, -⟩ := (h.parent?_eq_some_iff id p).mp hp
  have hlt := hadopts.lt
  obtain ⟨r, hr, hid⟩ := hadopts
  obtain ⟨c, hc, rfl⟩ := List.mem_map.mp hid
  rw [h.size_eq]
  exact ⟨(h.accepted hr (Request.mem_children_of_mem_adopted hc)).2, hlt⟩

lemma climb_of_parent? {id p : Nat} (hp : f.parent? id = some p) (limit : Nat) :
    f.climb (limit + 1) id = p :: f.climb limit p := by
  simp only [climb, hp]

lemma climb_of_root {id : Nat} (hp : f.parent? id = none) (limit : Nat) :
    f.climb limit id = [] := by
  cases limit with
  | zero => rfl
  | succ limit => simp only [climb, hp]

/-- A climb stops by itself once its limit reaches beyond the last node. -/
lemma Run.climb_eq_of_le (h : Run empty requests f) {limit limit' id : Nat}
    (hlimit : f.size ≤ id + limit) (hlimit' : f.size ≤ id + limit') :
    f.climb limit id = f.climb limit' id := by
  induction limit generalizing id limit' with
  | zero =>
    have hroot : f.parent? id = none := by
      rw [Option.eq_none_iff_forall_ne_some]
      intro p hp
      have := h.lt_of_parent? hp
      omega
    rw [climb_of_root hroot, climb_of_root hroot]
  | succ limit ih =>
    cases hp : f.parent? id with
    | none => rw [climb_of_root hp, climb_of_root hp]
    | some p =>
      obtain ⟨hup, hlt⟩ := h.lt_of_parent? hp
      obtain ⟨rest, rfl⟩ : ∃ rest, limit' = rest + 1 := ⟨limit' - 1, by omega⟩
      rw [climb_of_parent? hp, climb_of_parent? hp,
        ih (show f.size ≤ p + limit by omega) (show f.size ≤ p + rest by omega)]

theorem Run.ancestors_of_parent? (h : Run empty requests f) {id p : Nat}
    (hp : f.parent? id = some p) : f.ancestors id = p :: f.ancestors p := by
  have hlt := h.lt_of_parent? hp
  obtain ⟨size, hsize⟩ : ∃ size, f.size = size + 1 := ⟨f.size - 1, by omega⟩
  rw [ancestors, hsize, climb_of_parent? hp, ancestors,
    h.climb_eq_of_le (show f.size ≤ p + size by omega) (Nat.le_add_left _ _)]

lemma Run.depth_of_parent? (h : Run empty requests f) {id p : Nat} (hp : f.parent? id = some p) :
    f.depth id = f.depth p + 1 := by
  rw [depth, h.ancestors_of_parent? hp, List.length_cons, depth]

/-- The second node is the parent of the first one. -/
def Under (f : Forest) (id p : Nat) : Prop :=
  f.parent? id = some p

lemma under_rightUnique (f : Forest) : Relator.RightUnique f.Under :=
  fun _ _ _ hp hq => Option.some.inj (hp.symm.trans hq)

lemma Run.lt_of_transGen (h : Run empty requests f) {id c : Nat}
    (hc : Relation.TransGen f.Under id c) : id < c := by
  induction hc with
  | single hp => exact (h.lt_of_parent? hp).1
  | tail _ hp ih => exact Nat.lt_trans ih (h.lt_of_parent? hp).1

lemma Run.le_of_reflTransGen (h : Run empty requests f) {id c : Nat}
    (hc : Relation.ReflTransGen f.Under id c) : id ≤ c := by
  rcases Relation.reflTransGen_iff_eq_or_transGen.mp hc with rfl | hc
  · exact Nat.le_refl _
  · exact Nat.le_of_lt (h.lt_of_transGen hc)

/-- To lie within a node is to come to it by one or more links. -/
theorem Run.within_iff_transGen (h : Run empty requests f) (id c : Nat) :
    f.Within id c ↔ Relation.TransGen f.Under id c := by
  constructor
  · unfold Within ancestors
    generalize f.size = limit
    induction limit generalizing id with
    | zero => exact fun hc => absurd hc List.not_mem_nil
    | succ limit ih =>
      cases hp : f.parent? id with
      | none =>
        rw [climb_of_root hp]
        exact fun hc => absurd hc List.not_mem_nil
      | some p =>
        rw [climb_of_parent? hp, List.mem_cons]
        rintro (rfl | hc)
        · exact .single hp
        · exact .head hp (ih p hc)
  · intro hc
    unfold Within
    induction hc using Relation.TransGen.head_induction_on with
    | single hp =>
      rw [h.ancestors_of_parent? hp]
      exact List.mem_cons_self
    | head hp _ ih =>
      rw [h.ancestors_of_parent? hp]
      exact List.mem_cons_of_mem _ ih

/-- Links go up in the numbers, so none of their chains comes back to its start. -/
lemma Run.not_transGen_self (h : Run empty requests f) (id : Nat) :
    ¬Relation.TransGen f.Under id id :=
  fun hid => Nat.lt_irrefl id (h.lt_of_transGen hid)

lemma Run.not_within_self (h : Run empty requests f) (id : Nat) : ¬f.Within id id := by
  rw [h.within_iff_transGen]
  exact h.not_transGen_self id

/-! ### Parents and children -/

/-- A parent has its node among its children. -/
lemma Run.child_of_parent? (h : Run empty requests f) {id : Nat} {m : Node}
    (hp : f.parent? id = some m.id) (hm : f.node? m.id = some m) :
    ∃ n ∈ m.children, n.id = id ∧ f.node? id = some n := by
  obtain ⟨⟨r, hr, hid⟩, -⟩ := (h.parent?_eq_some_iff id m.id).mp hp
  obtain ⟨n, hn, rfl⟩ := List.mem_map.mp hid
  obtain ⟨r', hr', -, hadopted, -⟩ := h.request_of_node? hm
  cases hr.symm.trans hr'
  rw [hadopted] at hn
  exact ⟨n, hn, rfl, h.node?_of_child hm hn⟩

/-- No node is adopted more than once, also not by constructions that fail later. -/
def AdoptedOnce (requests : List Request) : Prop :=
  (requests.flatMap fun r => r.adopted.map Node.id).Nodup

lemma AdoptedOnce.eq (h : AdoptedOnce requests) {p q id : Nat} (hp : Adopts requests p id)
    (hq : Adopts requests q id) : p = q := by
  obtain ⟨r, hr, hid⟩ := hp
  obtain ⟨s, hs, hid'⟩ := hq
  obtain ⟨hplt, rfl⟩ := List.getElem?_eq_some_iff.mp hr
  obtain ⟨hqlt, rfl⟩ := List.getElem?_eq_some_iff.mp hs
  have hdisjoint := List.pairwise_iff_getElem.mp (List.nodup_flatMap.mp h).2
  rcases Nat.lt_trichotomy p q with hlt | heq | hgt
  · exact absurd hid' (hdisjoint p q hplt hqlt hlt hid)
  · exact heq
  · exact absurd hid (hdisjoint q p hqlt hplt hgt hid')

/-- If no node is adopted twice, the children of a node have it as their parent. -/
lemma Run.parent?_of_child (h : Run empty requests f) (honce : AdoptedOnce requests) {m n : Node}
    (hm : f.node? m.id = some m) (hn : n ∈ m.children) : f.parent? n.id = some m.id := by
  obtain ⟨r, hr, -, hadopted, -⟩ := h.request_of_node? hm
  rw [← hadopted] at hn
  have hadopts : Adopts requests m.id n.id := ⟨r, hr, List.mem_map_of_mem hn⟩
  rw [h.parent?_eq_some_iff]
  exact ⟨hadopts, fun q hq => Nat.le_of_eq (honce.eq hq hadopts)⟩

lemma Run.nodup_children (h : Run empty requests f) (honce : AdoptedOnce requests) {n : Node}
    (hn : f.node? n.id = some n) : (n.children.map Node.id).Nodup := by
  obtain ⟨r, hr, -, hadopted, -⟩ := h.request_of_node? hn
  rw [← hadopted]
  exact (List.nodup_flatMap.mp honce).1 r (List.mem_of_getElem? hr)

end SyntaxForest.Forest
