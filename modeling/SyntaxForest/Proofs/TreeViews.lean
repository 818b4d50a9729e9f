import SyntaxForest.Proofs.Ancestors
import SyntaxForest.Proofs.Samples
import SyntaxForest.Proofs.Visits

/-!
# Agreement of the links with the walk

The links to parents look at a tree from below, the walk from above. Whatever lies within a node by
its links is visited by a walk from that node, since parents have their nodes among their children.
The converse needs that no node is adopted twice: an adoption moves the link, but the child stays
among the children of its former parent.
-/

namespace SyntaxForest

namespace Node

/-- The second node is `steps` children below the first one. -/
inductive ReachesIn : Node → Nat → Node → Prop where
  | refl (n : Node) : ReachesIn n 0 n
  | child {n c m : Node} {steps : Nat} :
      c ∈ n.children → ReachesIn c steps m → ReachesIn n (steps + 1) m

lemma Reaches.exists_reachesIn {n m : Node} (h : n.Reaches m) : ∃ steps, n.ReachesIn steps m := by
  induction h using Relation.ReflTransGen.head_induction_on with
  | refl => exact ⟨0, .refl m⟩
  | head hc _ ih =>
    obtain ⟨steps, hsteps⟩ := ih
    exact ⟨steps + 1, .child hc hsteps⟩

end Node

namespace Forest

variable {requests : List Request} {f : Forest}

/-! ### From below -/

lemma Run.node?_of_reaches (h : Run empty requests f) {n m : Node}
    (hn : f.node? n.id = some n) (hm : n.Reaches m) : f.node? m.id = some m := by
  induction hm with
  | refl => exact hn
  | tail _ hc ih => exact h.node?_of_child ih hc

/-- What lies within a node by the links is below it in the tree. -/
theorem Run.reaches_of_within (h : Run empty requests f) {id : Nat} {r : Node}
    (hr : f.node? r.id = some r) (hid : f.Within id r.id) : ∃ n, r.Reaches n ∧ n.id = id := by
  rw [h.within_iff_transGen] at hid
  induction hid using Relation.TransGen.head_induction_on with
  | single hp =>
    obtain ⟨n, hn, hid, -⟩ := h.child_of_parent? hp hr
    exact ⟨n, .single hn, hid⟩
  | head hp _ ih =>
    obtain ⟨m, hm, rfl⟩ := ih
    obtain ⟨n, hn, hid, -⟩ := h.child_of_parent? hp (h.node?_of_reaches hr hm)
    exact ⟨n, hm.tail hn, hid⟩

/-! ### From above -/

/-- A walk goes against the links if no node is adopted twice. -/
theorem Run.under_of_reaches (h : Run empty requests f) (honce : AdoptedOnce requests) {n m : Node}
    (hn : f.node? n.id = some n) (hm : n.Reaches m) :
    Relation.ReflTransGen f.Under m.id n.id := by
  induction hm with
  | refl => exact .refl
  | tail hb hc ih =>
    exact .head (h.parent?_of_child honce (h.node?_of_reaches hn hb) hc) ih

lemma Run.within_of_reaches (h : Run empty requests f) (honce : AdoptedOnce requests) {n m : Node}
    (hn : f.node? n.id = some n) (hm : n.Reaches m) : m.id = n.id ∨ f.Within m.id n.id := by
  rw [h.within_iff_transGen, eq_comm]
  exact Relation.reflTransGen_iff_eq_or_transGen.mp (h.under_of_reaches honce hn hm)

theorem Run.depth_of_reachesIn (h : Run empty requests f) (honce : AdoptedOnce requests)
    {n m : Node} {steps : Nat} (hn : f.node? n.id = some n) (hm : n.ReachesIn steps m) :
    f.depth m.id = f.depth n.id + steps := by
  induction hm with
  | refl n => rfl
  | child hc _ ih =>
    rw [ih (h.node?_of_child hn hc), h.depth_of_parent? (h.parent?_of_child honce hn hc)]
    omega

/-- Siblings do not lie above each other. -/
lemma Run.eq_of_siblings (h : Run empty requests f) {a b p : Nat} (ha : f.parent? a = some p)
    (hb : f.parent? b = some p) (hab : Relation.ReflTransGen f.Under a b) : a = b := by
  rcases Relation.ReflTransGen.cases_head hab with rfl | ⟨q, hq, hqb⟩
  · rfl
  · cases ha.symm.trans hq
    have hle := h.le_of_reflTransGen hqb
    have hlt := (h.lt_of_parent? hb).1
    omega

/-- The subtrees of siblings have no node in common, and no node of one lies within a node of the
other. -/
lemma Run.not_under_of_siblings (h : Run empty requests f) (honce : AdoptedOnce requests)
    {n c d x y : Node} (hn : f.node? n.id = some n) (hc : c ∈ n.children) (hd : d ∈ n.children)
    (hcd : c.id ≠ d.id) (hx : c.Reaches x) (hy : d.Reaches y) :
    ¬Relation.ReflTransGen f.Under x.id y.id := by
  intro hxy
  have hxc := h.under_of_reaches honce (h.node?_of_child hn hc) hx
  have hxd := hxy.trans (h.under_of_reaches honce (h.node?_of_child hn hd) hy)
  have hpc := h.parent?_of_child honce hn hc
  have hpd := h.parent?_of_child honce hn hd
  rcases Relation.ReflTransGen.total_of_right_unique f.under_rightUnique hxc hxd with hup | hup
  · exact hcd (h.eq_of_siblings hpc hpd hup)
  · exact hcd (h.eq_of_siblings hpd hpc hup).symm

/-- In the order of the walk no node comes again, and none lies within a later one. -/
theorem Run.preorder_pairwise (h : Run empty requests f) (honce : AdoptedOnce requests) {n : Node}
    (hn : f.node? n.id = some n) :
    n.preorder.Pairwise fun a b => ¬Relation.ReflTransGen f.Under a.id b.id := by
  induction n using Node.induction with
  | step n ih =>
    rw [Node.preorder_eq, List.pairwise_cons, List.pairwise_flatMap]
    refine ⟨?_, fun c hc => ih c hc (h.node?_of_child hn hc), ?_⟩
    · intro m hm hnm
      obtain ⟨c, hc, hm⟩ := List.mem_flatMap.mp hm
      have hmc := h.under_of_reaches honce (h.node?_of_child hn hc) (Node.mem_preorder.mp hm)
      have hle := h.le_of_reflTransGen (hnm.trans hmc)
      have hlt := (h.lt_of_parent? (h.parent?_of_child honce hn hc)).1
      omega
    · refine (List.pairwise_map.mp (h.nodup_children honce hn)).imp_of_mem ?_
      intro c d hc hd hcd x hx y hy
      exact h.not_under_of_siblings honce hn hc hd hcd (Node.mem_preorder.mp hx)
        (Node.mem_preorder.mp hy)

lemma Run.visited_pairwise (h : Run empty requests f) (honce : AdoptedOnce requests) {n : Node}
    (hn : f.node? n.id = some n) :
    n.visited.Pairwise fun a b => a.id ≠ b.id ∧ ¬f.Within a.id b.id := by
  rw [Node.visited_eq_preorder]
  refine (h.preorder_pairwise honce hn).imp fun {a b} hab => ⟨?_, ?_⟩
  · intro heq
    rw [heq] at hab
    exact hab .refl
  · rw [h.within_iff_transGen]
    exact fun hwithin => hab hwithin.to_reflTransGen

lemma Run.lt_of_within (h : Run empty requests f) (honce : AdoptedOnce requests) {r a d : Node}
    {i j : Nat} (hr : f.node? r.id = some r) (ha : r.visited[i]? = some a)
    (hd : r.visited[j]? = some d) (hwithin : f.Within d.id a.id) : i < j := by
  obtain ⟨hi, rfl⟩ := List.getElem?_eq_some_iff.mp ha
  obtain ⟨hj, rfl⟩ := List.getElem?_eq_some_iff.mp hd
  rcases Nat.lt_trichotomy i j with hlt | rfl | hgt
  · exact hlt
  · exact absurd hwithin (h.not_within_self _)
  · have hpairwise := List.pairwise_iff_getElem.mp (h.visited_pairwise honce hr)
    exact absurd hwithin (hpairwise j i hj hi hgt).2

/-- A walk from a node visits all that lies within it by the links. If no node is adopted twice it
visits nothing else but the node itself, none of it again and the outer before the inner, and the
depth by the links is the depth in the walk. -/
theorem Run.walk_agrees_with_links (h : Run empty requests f) {r : Node}
    (hr : f.node? r.id = some r) :
    (∀ id, f.Within id r.id → ∃ n ∈ r.visited, n.id = id ∧ f.node? id = some n) ∧
    (AdoptedOnce requests →
      (r.visited.map Node.id).Nodup ∧
      (∀ id, id ∈ r.visited.map Node.id ↔ id = r.id ∨ f.Within id r.id) ∧
      (∀ n ∈ r.visited, f.node? n.id = some n) ∧
      (∀ (i j : Nat) (a d : Node), r.visited[i]? = some a → r.visited[j]? = some d →
        f.Within d.id a.id → i < j) ∧
      ∀ n ∈ r.visited, (∃ steps, r.ReachesIn steps n) ∧
        ∀ steps, r.ReachesIn steps n → f.depth n.id = f.depth r.id + steps) := by
  have hvisits : ∀ id, f.Within id r.id → ∃ n ∈ r.visited, n.id = id ∧ f.node? id = some n := by
    intro id hid
    obtain ⟨n, hn, rfl⟩ := h.reaches_of_within hr hid
    exact ⟨n, Node.mem_visited.mpr hn, rfl, h.node?_of_reaches hr hn⟩
  refine ⟨hvisits, fun honce => ⟨?_, ?_, ?_, ?_, ?_⟩⟩
  · exact List.pairwise_map.mpr ((h.visited_pairwise honce hr).imp And.left)
  · intro id
    rw [List.mem_map]
    constructor
    · rintro ⟨n, hn, rfl⟩
      exact h.within_of_reaches honce hr (Node.mem_visited.mp hn)
    · rintro (rfl | hid)
      · exact ⟨r, Node.mem_visited.mpr (.refl r), rfl⟩
      · obtain ⟨n, hn, heq, -⟩ := hvisits id hid
        exact ⟨n, hn, heq⟩
  · exact fun n hn => h.node?_of_reaches hr (Node.mem_visited.mp hn)
  · exact fun i j a d ha hd => h.lt_of_within honce hr ha hd
  · intro n hn
    exact ⟨(Node.mem_visited.mp hn).exists_reachesIn,
      fun steps hsteps => h.depth_of_reachesIn honce hr hsteps⟩

section Witness

def secondName : Node :=
  .ofName (nameAt 1 3 "b")

def innerList : Node :=
  .mk ⟨3, ⟨0, 1⟩, .fitted⟩ (.list [firstName])

def outerTuple : Node :=
  .mk ⟨4, ⟨0, 1⟩, .fitted⟩ (.tuple [innerList])

/-- The third construction fails on its start after it has adopted the second name. -/
def outerRequests : List Request :=
  [⟨⟨none, none⟩, firstName.shape⟩, ⟨⟨none, none⟩, secondName.shape⟩,
    ⟨⟨some (-1), none⟩, .list [secondName]⟩, ⟨⟨none, none⟩, innerList.shape⟩,
    ⟨⟨none, none⟩, outerTuple.shape⟩]

lemma outerTuple_run : Run empty outerRequests (outerRequests.foldl perform empty) := by
  have hsingle : ∀ {f : Forest} {c : Node}, f.node? c.id = some c →
      ∀ d ∈ [c], f.node? d.id = some d :=
    fun h => List.forall_mem_singleton.mpr h
  exact .step nofun (.step nofun (.step (hsingle rfl) (.step (hsingle rfl)
    (.step (hsingle rfl) (.done _)))))

theorem outerTuple_views :
    Run empty outerRequests (outerRequests.foldl perform empty) ∧
      (outerRequests.foldl perform empty).node? outerTuple.id = some outerTuple ∧
      AdoptedOnce outerRequests ∧
      (outerRequests.foldl perform empty).parent? secondName.id = some 2 ∧
      outerTuple.visited.map Node.id = [4, 3, 0] ∧
      [4, 3, 0].Nodup ∧
      (outerRequests.foldl perform empty).Within firstName.id outerTuple.id ∧
      ¬(outerRequests.foldl perform empty).Within secondName.id outerTuple.id ∧
      (outerRequests.foldl perform empty).depth firstName.id =
        (outerRequests.foldl perform empty).depth outerTuple.id + 2 := by
  have hnode : (outerRequests.foldl perform empty).node? outerTuple.id = some outerTuple := rfl
  have honce : AdoptedOnce outerRequests := show [1, 0, 3].Nodup by decide
  have hvisited : outerTuple.visited = [outerTuple, innerList, firstName] := by
    have houter : outerTuple.children = [innerList] := rfl
    have hinner : innerList.children = [firstName] := rfl
    have hleaf : firstName.children = [] := rfl
    simp only [Node.visited_eq_preorder, Node.preorder_eq, houter, hinner, hleaf,
      List.flatMap_singleton, List.flatMap_nil]
  have hids : outerTuple.visited.map Node.id = [4, 3, 0] := congrArg (List.map Node.id) hvisited
  have hsteps : outerTuple.ReachesIn 2 firstName :=
    .child List.mem_cons_self (.child List.mem_cons_self (.refl _))
  obtain ⟨-, hagree⟩ := outerTuple_run.walk_agrees_with_links hnode
  obtain ⟨hnodup, hwithin, -, -, hdepth⟩ := hagree honce
  rw [hids] at hnodup hwithin
  refine ⟨outerTuple_run, hnode, honce, rfl, hids, hnodup, ?_, ?_, ?_⟩
  · exact ((hwithin firstName.id).mp (by decide)).resolve_left (by decide)
  · exact fun h => absurd ((hwithin secondName.id).mpr (.inr h)) (by decide)
  · exact (hdepth firstName (by simp [hvisited])).2 2 hsteps

end Witness

end Forest

end SyntaxForest
