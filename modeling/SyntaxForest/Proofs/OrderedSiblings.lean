import SyntaxForest.Proofs.NodeSearch

/-!
# Search among ordered siblings

Siblings that follow one another may touch, and where they do both of them hold the offset; the
search enters the first one. Behind the start of a node, up to its stop, it has no such rival: the
search for an offset there takes the way to this node, and what stands before it on the way is
passed over, empty siblings included.
-/

namespace SyntaxForest.Node

/-- The children of every node in the tree follow one another: each stops at or before the start of
every later one. -/
def Ordered (n : Node) : Prop :=
  ∀ parent, n.Reaches parent → parent.children.Pairwise fun c d => c.span.Precedes d.span

lemma Ordered.of_child {n c : Node} (h : n.Ordered) (hc : c ∈ n.children) : c.Ordered :=
  fun parent hparent => h parent (.of_child hc hparent)

lemma ordered_iff {n : Node} :
    n.Ordered ↔
      (n.children.Pairwise fun c d => c.span.Precedes d.span) ∧ ∀ c ∈ n.children, c.Ordered := by
  constructor
  · intro h
    exact ⟨h n (.refl n), fun c hc => h.of_child hc⟩
  · rintro ⟨hchildren, hbelow⟩ parent hparent
    rcases reaches_iff.mp hparent with rfl | ⟨c, hc, hreaches⟩
    · exact hchildren
    · exact hbelow c hc parent hreaches

lemma children_of_isLeaf {n : Node} (h : n.kind.IsLeaf) : n.children = [] := by
  rcases n with ⟨head, shape⟩
  cases shape with
  | name | number | string | constant | ellipsis => rfl
  | clause content => cases content <;> simp [Kind.IsLeaf, Shape.kind, Clause.kind] at h
  | _ => simp [Kind.IsLeaf, Shape.kind] at h

lemma descend_of_children_eq_nil {n : Node} (h : n.children = []) (offset : Int) :
    n.descend offset = n := by
  rw [descend_eq, h]
  rfl

section Descent

variable {offset : Int} {n : Node}

/-- No sibling before a node holds an offset behind the start of the node. -/
lemma find?_children_eq_some {siblings : List Node}
    (hordered : siblings.Pairwise fun c d => c.span.Precedes d.span) (hn : n ∈ siblings)
    (hstart : n.span.start < offset) (hstop : offset ≤ n.span.stop) :
    (siblings.find? fun c => c.span.Contains offset) = some n := by
  obtain ⟨before, after, rfl⟩ := List.append_of_mem hn
  rw [List.find?_eq_some_iff_append]
  refine ⟨?_, before, after, rfl, fun c hc => ?_⟩
  · rw [decide_eq_true_iff]
    exact ⟨Int.le_of_lt hstart, hstop⟩
  · have hprec := (List.pairwise_append.mp hordered).2.2 c hc n List.mem_cons_self
    have hmiss : ¬c.span.Contains offset := by
      unfold Span.Precedes at hprec
      unfold Span.Contains
      omega
    simpa using hmiss

/-- The induction is on the way down to the node. Every node on it has the span of the last one
within its own, so the offset is behind its start, too, and it is the child that is entered. -/
lemma descend_eq_of_reaches {root : Node} (hnested : root.Nested) (hordered : root.Ordered)
    (hn : root.Reaches n) (hstart : n.span.start < offset) (hstop : offset ≤ n.span.stop) :
    root.descend offset = n.descend offset := by
  induction hn using Relation.ReflTransGen.head_induction_on with
  | refl => rfl
  | @head parent c hc hreaches ih =>
    have hwithin := (hnested.of_child hc).span_within hreaches
    have hentered : (parent.children.find? fun d => d.span.Contains offset) = some c := by
      unfold Span.Within at hwithin
      exact find?_children_eq_some (hordered parent (.refl parent)) hc (by omega) (by omega)
    rw [descend_eq, hentered]
    exact ih (hnested.of_child hc) (hordered.of_child hc)

end Descent

/-- In a tree whose spans are nested and whose siblings follow one another, every node is found: for
an offset behind its start and not behind its stop the search comes to it and goes on as from there,
to the node itself if it is a leaf. -/
theorem find?_reaches_every_node {root : Node} (hnested : root.Nested) (hordered : root.Ordered)
    {n : Node} (hn : root.Reaches n) {offset : Int} (hstart : n.span.start < offset)
    (hstop : offset ≤ n.span.stop) :
    root.find? offset = n.find? offset ∧
    (∃ m, root.find? offset = some m ∧ n.Reaches m) ∧
    (n.kind.IsLeaf → root.find? offset = some n) := by
  have hinside : n.span.Contains offset := ⟨Int.le_of_lt hstart, hstop⟩
  have hroot : root.find? offset = some (n.descend offset) := by
    rw [find?, if_pos ((hnested.span_within hn).contains hinside),
      descend_eq_of_reaches hnested hordered hn hstart hstop]
  refine ⟨?_, ⟨_, hroot, (descend_reaches hinside).1⟩, ?_⟩
  · rw [hroot, find?, if_pos hinside]
  · intro hleaf
    rw [hroot, descend_of_children_eq_nil (children_of_isLeaf hleaf)]

section Witness

def emptySlice : Node :=
  mk ⟨1, ⟨2, 0⟩, .stretched 2⟩ (.slice none none none)

def lastName : Node :=
  ofName (nameAt 2 2 "cd")

def innerNames : Node :=
  mk ⟨3, ⟨2, 2⟩, .fitted⟩ (.tuple [lastName])

/-- A name, an empty slice and a tuple of another name, all of which touch at the offset two. -/
def crowdedList : Node :=
  mk ⟨4, ⟨0, 4⟩, .fitted⟩ (.list [leftName, emptySlice, innerNames])

lemma ordered_of_children_eq_nil {n : Node} (h : n.children = []) : n.Ordered := by
  rw [ordered_iff, h]
  exact ⟨.nil, fun c hc => absurd hc List.not_mem_nil⟩

theorem crowdedList_find? :
    crowdedList.Nested ∧ crowdedList.Ordered ∧ crowdedList.Reaches lastName ∧
      crowdedList.find? 3 = some lastName ∧
      crowdedList.find? 4 = innerNames.find? 4 ∧
      ∃ m, crowdedList.find? 4 = some m ∧ innerNames.Reaches m := by
  have hchildren : crowdedList.children = [leftName, emptySlice, innerNames] := rfl
  have hinner : innerNames.children = [lastName] := rfl
  have hnested : crowdedList.Nested := by
    rw [nested_iff, hchildren]
    simp only [List.forall_mem_cons, nested_iff (n := innerNames), hinner]
    refine ⟨⟨by decide, nested_of_children_eq_nil rfl⟩, ⟨by decide, nested_of_children_eq_nil rfl⟩,
      ⟨by decide, ⟨by decide, nested_of_children_eq_nil rfl⟩, nofun⟩, nofun⟩
  have hordered : crowdedList.Ordered := by
    rw [ordered_iff, hchildren]
    simp only [List.forall_mem_cons, ordered_iff (n := innerNames), hinner]
    refine ⟨by decide, ordered_of_children_eq_nil rfl, ordered_of_children_eq_nil rfl,
      ⟨by decide, ordered_of_children_eq_nil rfl, nofun⟩, nofun⟩
  have htuple : crowdedList.Reaches innerNames := .of_child (by simp [hchildren]) (.refl _)
  have hname : crowdedList.Reaches lastName :=
    htuple.trans (.of_child (by simp [hinner]) (.refl _))
  obtain ⟨-, -, leaf⟩ := find?_reaches_every_node hnested hordered hname
    (show (2 : Int) < 3 by decide) (show (3 : Int) ≤ 4 by decide)
  obtain ⟨same, found, -⟩ := find?_reaches_every_node hnested hordered htuple
    (show (2 : Int) < 4 by decide) (show (4 : Int) ≤ 4 by decide)
  exact ⟨hnested, hordered, hname, leaf (by decide), same, found⟩

end Witness

end SyntaxForest.Node
