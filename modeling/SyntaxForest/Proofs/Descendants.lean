import Mathlib.Logic.Relation
import Mathlib.Tactic.Common
import SyntaxForest.Node.Children

/-!
# Descendants

What is reached from a node by going from parents to children, in any number of steps, and the list
of it in which children come before their parents.
-/

namespace SyntaxForest

def Span.Within (s t : Span) : Prop :=
  t.start ≤ s.start ∧ s.stop ≤ t.stop

instance (s t : Span) : Decidable (s.Within t) :=
  inferInstanceAs (Decidable (_ ∧ _))

lemma Span.Within.contains {s t : Span} (h : s.Within t) {offset : Int}
    (hs : s.Contains offset) : t.Contains offset := by
  unfold Span.Within at h
  unfold Span.Contains at hs ⊢
  omega

lemma Span.Within.trans {s t u : Span} (hst : s.Within t) (htu : t.Within u) : s.Within u :=
  ⟨Nat.le_trans htu.1 hst.1, Nat.le_trans hst.2 htu.2⟩

namespace Node

/-- The second node is the first one or one of its descendants. -/
def Reaches : Node → Node → Prop :=
  Relation.ReflTransGen fun parent child => child ∈ parent.children

lemma Reaches.refl (n : Node) : n.Reaches n :=
  Relation.ReflTransGen.refl

lemma Reaches.trans {n m d : Node} (h : n.Reaches m) (h' : m.Reaches d) : n.Reaches d :=
  Relation.ReflTransGen.trans h h'

lemma Reaches.of_child {n c m : Node} (hc : c ∈ n.children) (h : c.Reaches m) : n.Reaches m :=
  Relation.ReflTransGen.head hc h

lemma reaches_iff {n m : Node} : n.Reaches m ↔ m = n ∨ ∃ c ∈ n.children, c.Reaches m := by
  unfold Reaches
  rw [Relation.ReflTransGen.cases_head_iff, eq_comm]

/-- What holds everywhere in a tree holds of the node on top and everywhere below its children. -/
lemma forall_reaches_iff {P : Node → Prop} {n : Node} :
    (∀ m, n.Reaches m → P m) ↔ P n ∧ ∀ c ∈ n.children, ∀ m, c.Reaches m → P m := by
  constructor
  · intro h
    exact ⟨h n (.refl n), fun c hc m hm => h m (.of_child hc hm)⟩
  · rintro ⟨hhere, hbelow⟩ m hm
    rcases reaches_iff.mp hm with rfl | ⟨c, hc, hreaches⟩
    · exact hhere
    · exact hbelow c hc m hreaches

/-- A node with everything below it, children before their parents. A shared node is listed each
time it is reached. -/
def postorder (n : Node) : List Node :=
  (n.children.attach.flatMap fun ⟨c, _⟩ => c.postorder) ++ [n]
termination_by n
decreasing_by exact sizeOf_lt_of_mem_children ‹_›

lemma postorder_eq (n : Node) : n.postorder = n.children.flatMap postorder ++ [n] := by
  rw [postorder]
  conv => rhs; rw [← List.attach_map_subtype_val n.children, List.flatMap_map]

lemma mem_postorder {n m : Node} : m ∈ n.postorder ↔ n.Reaches m := by
  induction n using Node.induction with
  | step n ih =>
    rw [postorder_eq, reaches_iff, List.mem_append, List.mem_flatMap, List.mem_singleton, or_comm]
    apply or_congr_right
    constructor
    · rintro ⟨c, hc, hm⟩
      exact ⟨c, hc, (ih c hc).mp hm⟩
    · rintro ⟨c, hc, hm⟩
      exact ⟨c, hc, (ih c hc).mpr hm⟩

/-- The span of every child in the tree lies within the span of its parent. -/
def Nested (n : Node) : Prop :=
  ∀ parent, n.Reaches parent → ∀ child ∈ parent.children, child.span.Within parent.span

lemma Nested.of_reaches {n m : Node} (h : n.Nested) (hm : n.Reaches m) : m.Nested :=
  fun parent hparent => h parent (hm.trans hparent)

lemma Nested.of_child {n c : Node} (h : n.Nested) (hc : c ∈ n.children) : c.Nested :=
  h.of_reaches (.of_child hc (.refl c))

lemma Nested.span_within {n m : Node} (h : n.Nested) (hm : n.Reaches m) :
    m.span.Within n.span := by
  induction hm with
  | refl => exact ⟨Nat.le_refl _, Nat.le_refl _⟩
  | tail hparent hchild ih => exact (h _ hparent _ hchild).trans ih

lemma nested_iff {n : Node} :
    n.Nested ↔ ∀ c ∈ n.children, c.span.Within n.span ∧ c.Nested := by
  unfold Nested
  rw [forall_reaches_iff]
  exact forall₂_and.symm

lemma nested_of_children_eq_nil {n : Node} (h : n.children = []) : n.Nested := by
  rw [nested_iff, h]
  exact fun c hc => absurd hc List.not_mem_nil

end Node

end SyntaxForest
