import SyntaxForest.Node.Find
import SyntaxForest.Proofs.Descendants
import SyntaxForest.Proofs.Samples

/-!
# Search for the node at an offset

The search goes down into the first child that holds the offset and never comes back. Where the
spans of a tree are nested, this finds the first node of the whole tree, children before parents,
that holds the offset.
-/

namespace SyntaxForest.Node

lemma descend_eq (offset : Int) (n : Node) :
    n.descend offset =
      ((n.children.find? fun c => c.span.Contains offset).map (descend offset)).getD n := by
  rw [descend]
  split
  · rename_i c hc
    rw [hc]
    rfl
  · rename_i hnone
    rw [hnone]
    rfl

lemma descend_reaches {offset : Int} {n : Node} (h : n.span.Contains offset) :
    n.Reaches (n.descend offset) ∧ (n.descend offset).span.Contains offset ∧
      ∀ c ∈ (n.descend offset).children, ¬c.span.Contains offset := by
  induction n using Node.induction with
  | step n ih =>
    rw [descend_eq]
    cases hfirst : n.children.find? fun c => c.span.Contains offset with
    | none =>
      refine ⟨.refl n, h, fun c hc => ?_⟩
      simpa using List.find?_eq_none.mp hfirst c hc
    | some c =>
      have hc := List.mem_of_find?_eq_some hfirst
      have hcontains : c.span.Contains offset := by simpa using List.find?_some hfirst
      obtain ⟨hreaches, hend⟩ := ih c hc hcontains
      exact ⟨.of_child hc hreaches, hend⟩

lemma find?_eq_none_iff (n : Node) (offset : Int) :
    n.find? offset = none ↔ offset < n.span.start ∨ n.span.stop < offset := by
  have hnone : n.find? offset = none ↔ ¬n.span.Contains offset := by simp [find?]
  rw [hnone]
  unfold Span.Contains
  omega

/-- Among several trees in which the search agrees with the list in postorder, both come to the
first tree that holds the offset. -/
lemma findSome?_postorder {offset : Int} {nodes : List Node}
    (h : ∀ c ∈ nodes, c.find? offset = c.postorder.find? fun d => d.span.Contains offset) :
    (nodes.findSome? fun c => c.postorder.find? fun d => d.span.Contains offset) =
      (nodes.find? fun c => c.span.Contains offset).map (descend offset) := by
  induction nodes with
  | nil => rfl
  | cons c rest ih =>
    have hrest := ih fun d hd => h d (List.mem_cons_of_mem c hd)
    rw [List.findSome?_cons, List.find?_cons, ← h c List.mem_cons_self, find?, hrest]
    by_cases hc : c.span.Contains offset <;> simp [hc]

lemma find?_postorder_eq (offset : Int) (n : Node) :
    (n.postorder.find? fun c => c.span.Contains offset) =
      (n.children.findSome? fun c => c.postorder.find? fun d => d.span.Contains offset).or
        (if n.span.Contains offset then some n else none) := by
  rw [postorder_eq, List.find?_append, List.find?_flatMap]
  by_cases hn : n.span.Contains offset <;> simp [hn]

/-- The induction is on the tree: below a child that holds the offset the search and the list agree
by hypothesis, and below any other child neither finds a node. -/
lemma find?_eq_find?_postorder {n : Node} (h : n.Nested) (offset : Int) :
    n.find? offset = n.postorder.find? fun c => c.span.Contains offset := by
  induction n using Node.induction with
  | step n ih =>
    by_cases hn : n.span.Contains offset
    · have hchildren := findSome?_postorder fun c hc => ih c hc (h.of_child hc)
      rw [find?_postorder_eq, hchildren, find?, if_pos hn, if_pos hn, descend_eq]
      cases n.children.find? fun c => c.span.Contains offset <;> rfl
    · rw [find?, if_neg hn, eq_comm, List.find?_eq_none]
      intro d hd
      have hwithin := h.span_within (mem_postorder.mp hd)
      simpa using fun hcontains => hn (hwithin.contains hcontains)

/-- The search for an offset fails just outside the span of the node. Otherwise it ends at the node
or a descendant that holds the offset and none of whose children does; and if all spans are nested,
that is the first node of the tree in postorder that holds the offset, with none below it. -/
theorem find?_deepest_first (n : Node) (offset : Int) :
    (n.find? offset = none ↔ offset < n.span.start ∨ n.span.stop < offset) ∧
    (∀ m, n.find? offset = some m →
      n.Reaches m ∧ m.span.Contains offset ∧ ∀ c ∈ m.children, ¬c.span.Contains offset) ∧
    (n.Nested →
      (n.find? offset = n.postorder.find? fun c => c.span.Contains offset) ∧
      ∀ m, n.find? offset = some m →
        ∀ c ∈ m.children, ∀ d, c.Reaches d → ¬d.span.Contains offset) := by
  have hfound : ∀ m, n.find? offset = some m →
      n.Reaches m ∧ m.span.Contains offset ∧ ∀ c ∈ m.children, ¬c.span.Contains offset := by
    intro m hm
    rw [find?] at hm
    by_cases hn : n.span.Contains offset
    · rw [if_pos hn] at hm
      cases hm
      exact descend_reaches hn
    · rw [if_neg hn] at hm
      cases hm
  refine ⟨?_, hfound, fun h => ⟨find?_eq_find?_postorder h offset, ?_⟩⟩
  · rw [find?]
    by_cases hn : n.span.Contains offset
    · rw [if_pos hn]
      unfold Span.Contains at hn
      simp only [reduceCtorEq, false_iff]
      omega
    · rw [if_neg hn]
      unfold Span.Contains at hn
      simp only [true_iff]
      omega
  · intro m hm c hc d hd hcontains
    obtain ⟨hreaches, -, hnone⟩ := hfound m hm
    have hnested := (h.of_reaches hreaches).of_child hc
    exact hnone c hc ((hnested.span_within hd).contains hcontains)

def leftName : Node :=
  ofName (nameAt 0 0 "ab")

def rightName : Node :=
  ofName (nameAt 1 2 "cd")

def touchingNames : Node :=
  mk ⟨2, ⟨0, 4⟩, .fitted⟩ (.list [leftName, rightName])

theorem touchingNames_find? :
    touchingNames.Nested ∧
      (touchingNames.find? 2 = touchingNames.postorder.find? fun c => c.span.Contains 2) ∧
      touchingNames.find? 2 = some leftName ∧ leftName.span.Contains 2 := by
  have hnested : touchingNames.Nested := by
    rw [nested_iff]
    intro c hc
    have hpair : c = leftName ∨ c = rightName := by
      simpa [touchingNames, Shape.children, Shape.slots] using hc
    rcases hpair with rfl | rfl
    · exact ⟨by decide, nested_of_children_eq_nil rfl⟩
    · exact ⟨by decide, nested_of_children_eq_nil rfl⟩
  have hfind : touchingNames.find? 2 = some leftName := by
    have hfirst : (touchingNames.children.find? fun c => c.span.Contains 2) = some leftName := rfl
    have hnone : (leftName.children.find? fun c => c.span.Contains 2) = none := rfl
    rw [find?, if_pos (by decide), descend_eq, hfirst, Option.map_some, descend_eq, hnone]
    rfl
  obtain ⟨-, found, nested⟩ := find?_deepest_first touchingNames 2
  exact ⟨hnested, (nested hnested).1, hfind, (found _ hfind).2.1⟩

end SyntaxForest.Node
