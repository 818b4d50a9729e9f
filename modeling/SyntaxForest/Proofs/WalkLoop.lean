import SyntaxForest.Proofs.Stability

/-!
# The walk as a loop

A walk over the nodes of a forest is a loop on a stack of pending nodes, which may hold the
postponed siblings of many levels, and the same node many times. It comes to an end, and by then it
has shown to the visitor what the recursive walk shows: the same nodes in the same order, each in
the same state of the visitor.
-/

namespace SyntaxForest

variable {σ : Type}

/-- The visitor that does the same and keeps a record of its calls: the nodes that it was shown,
each with the state that it was in. -/
def Visitor.traced (visit : Visitor σ) : Visitor (σ × List (Node × σ)) :=
  fun n (state, calls) => ((visit n state).1, (visit n state).2, calls ++ [(n, state)])

lemma Visitor.length_traced (visit : Visitor σ) (n : Node) (record : σ × List (Node × σ)) :
    (visit.traced n record).2.2.length = record.2.length + 1 :=
  List.length_append

namespace Node

/-! ### Calls of a recursive walk -/

lemma fst_foldl_traverse_traced {visit : Visitor σ} {nodes : List Node}
    (h : ∀ c ∈ nodes, ∀ record, (traverse visit.traced c record).1 = traverse visit c record.1)
    (record : σ × List (Node × σ)) :
    (nodes.foldl (fun record c => traverse visit.traced c record) record).1 =
      nodes.foldl (fun state c => traverse visit c state) record.1 := by
  induction nodes generalizing record with
  | nil => rfl
  | cons c rest ih =>
    rw [List.foldl_cons, List.foldl_cons, ih fun d hd => h d (List.mem_cons_of_mem c hd),
      h c List.mem_cons_self]

/-- The record makes no difference to the visitor. -/
lemma fst_traverse_traced (visit : Visitor σ) (n : Node) (record : σ × List (Node × σ)) :
    (traverse visit.traced n record).1 = traverse visit n record.1 := by
  induction n using Node.induction generalizing record with
  | step n ih =>
    rw [traverse_eq, traverse_eq]
    cases henter : (visit n record.1).1 with
    | true =>
      have htraced : (visit.traced n record).1 = true := henter
      rw [if_pos htraced, if_pos rfl, fst_foldl_traverse_traced ih]
      rfl
    | false =>
      have htraced : (visit.traced n record).1 = false := henter
      rw [htraced]
      rfl

lemma length_foldl_traverse_traced_le {visit : Visitor σ} {nodes : List Node}
    (h : ∀ c ∈ nodes, ∀ record,
      (traverse visit.traced c record).2.length ≤ record.2.length + c.size)
    (record : σ × List (Node × σ)) :
    (nodes.foldl (fun record c => traverse visit.traced c record) record).2.length ≤
      record.2.length + total (nodes.map size) := by
  induction nodes generalizing record with
  | nil => exact Nat.le_add_right _ _
  | cons c rest ih =>
    have hfirst := h c List.mem_cons_self record
    have hrest := ih (fun d hd => h d (List.mem_cons_of_mem c hd)) (traverse visit.traced c record)
    rw [List.foldl_cons, List.map_cons, total_cons]
    omega

/-- A node is shown at most once for each way that leads to it from above. -/
lemma length_traverse_traced_le (visit : Visitor σ) (n : Node) (record : σ × List (Node × σ)) :
    (traverse visit.traced n record).2.length ≤ record.2.length + n.size := by
  induction n using Node.induction generalizing record with
  | step n ih =>
    have hcall := visit.length_traced n record
    have hchildren := length_foldl_traverse_traced_le ih (visit.traced n record).2
    rw [traverse_eq, size_eq]
    split <;> omega

end Node

namespace Forest

/-! ### The loop -/

section Loop

variable (f : Forest) (visit : Visitor σ)

/-- One round of the loop, unless nothing is pending: the last of the pending nodes is taken away
and shown to the visitor. If it is entered, its present children become pending, the first of them
as the last. -/
def round : List Nat × σ → Option (List Nat × σ)
  | (pending, state) => do
    let id ← pending.getLast?
    let n ← f.node? id
    let (enter, state) := visit n state
    let entered := n.slots.reverse.filterMap fun slot => slot.map Node.id
    return (pending.dropLast ++ if enter then entered else [], state)

/-- A number of rounds, if there is something pending for each of them. -/
def rounds : Nat → List Nat × σ → Option (List Nat × σ)
  | 0, moment => some moment
  | count + 1, moment => (f.round visit moment).bind (rounds count)

end Loop

variable {requests : List Request} {f : Forest} {visit : Visitor σ}

lemma rounds_add {first second : Nat} {a b : List Nat × σ} (h : f.rounds visit first a = some b) :
    f.rounds visit (first + second) a = f.rounds visit second b := by
  induction first generalizing a with
  | zero =>
    cases h
    rw [Nat.zero_add]
  | succ first ih =>
    obtain ⟨next, hnext, hrest⟩ := Option.bind_eq_some_iff.mp h
    rw [Nat.add_right_comm, rounds, hnext, Option.bind_some]
    exact ih hrest

lemma round_of_node? (visit : Visitor σ) {n : Node} (hn : f.node? n.id = some n)
    (pending : List Nat) (state : σ) :
    f.round visit (pending ++ [n.id], state) =
      some (pending ++ (if (visit n state).1 then (n.children.map Node.id).reverse else []),
        (visit n state).2) := by
  have hentered : (n.slots.reverse.filterMap fun slot => slot.map Node.id) =
      (n.children.map Node.id).reverse := by
    rw [List.filterMap_reverse, Node.children, Shape.children, List.map_filterMap]
    rfl
  simp only [round, List.getLast?_concat, Option.bind_eq_bind, Option.bind_some, hn,
    List.dropLast_concat, hentered]
  rfl

/-- Every round shows one node. -/
lemma length_of_round_traced {a b : List Nat × (σ × List (Node × σ))}
    (h : f.round visit.traced a = some b) : b.2.2.length = a.2.2.length + 1 := by
  obtain ⟨id, -, h⟩ := Option.bind_eq_some_iff.mp h
  obtain ⟨n, -, h⟩ := Option.bind_eq_some_iff.mp h
  cases h
  exact visit.length_traced n a.2

lemma length_of_rounds_traced {count : Nat} {a b : List Nat × (σ × List (Node × σ))}
    (h : f.rounds visit.traced count a = some b) : b.2.2.length = a.2.2.length + count := by
  induction count generalizing a with
  | zero =>
    cases h
    rfl
  | succ count ih =>
    obtain ⟨next, hnext, hrest⟩ := Option.bind_eq_some_iff.mp h
    have hfirst := length_of_round_traced hnext
    have hlater := ih hrest
    omega

/-- Nodes that are worked off one by one are worked off together. -/
lemma exists_rounds_of_forall {nodes : List Node}
    (h : ∀ c ∈ nodes, ∀ pending state, ∃ count,
      f.rounds visit count (pending ++ [c.id], state) = some (pending, c.traverse visit state))
    (pending : List Nat) (state : σ) :
    ∃ count, f.rounds visit count (pending ++ (nodes.map Node.id).reverse, state) =
      some (pending, nodes.foldl (fun state c => c.traverse visit state) state) := by
  induction nodes generalizing state with
  | nil => exact ⟨0, by rw [List.map_nil, List.reverse_nil, List.append_nil]; rfl⟩
  | cons c rest ih =>
    obtain ⟨first, hfirst⟩ :=
      h c List.mem_cons_self (pending ++ (rest.map Node.id).reverse) state
    obtain ⟨second, hsecond⟩ :=
      ih (fun d hd => h d (List.mem_cons_of_mem c hd)) (c.traverse visit state)
    refine ⟨first + second, ?_⟩
    rw [List.map_cons, List.reverse_cons, ← List.append_assoc, rounds_add hfirst, hsecond]
    rfl

/-- The induction is on the tree below the node. Whatever was pending before the node is pending
again when the loop is done with it and with all that lies below. -/
theorem Run.exists_rounds (h : Run empty requests f) (visit : Visitor σ) {n : Node}
    (hn : f.node? n.id = some n) (pending : List Nat) (state : σ) :
    ∃ count, f.rounds visit count (pending ++ [n.id], state) =
      some (pending, n.traverse visit state) := by
  induction n using Node.induction generalizing pending state with
  | step n ih =>
    have hround := round_of_node? visit hn pending state
    rw [Node.traverse_eq]
    cases henter : (visit n state).1 with
    | true =>
      rw [henter, if_pos rfl] at hround
      obtain ⟨count, hcount⟩ := exists_rounds_of_forall
        (fun c hc => ih c hc (h.node?_of_child hn hc)) pending (visit n state).2
      exact ⟨count + 1, by rw [rounds, hround, Option.bind_some, hcount, if_pos rfl]⟩
    | false =>
      rw [henter, if_neg Bool.false_ne_true, List.append_nil] at hround
      exact ⟨1, by rw [rounds, hround, if_neg Bool.false_ne_true]; rfl⟩

/-- The loop on a stack comes to an end with nothing pending. It makes as many rounds as the
recursive walk makes calls, and its calls are those of the recursive walk: the same nodes in the
same order, each in the same state. Walks from several nodes are walks one after another from those
that are present, with the state carried over. -/
theorem Run.loop_calls_eq_traverse (h : Run empty requests f) {n : Node}
    (hn : f.node? n.id = some n) (visit : Visitor σ) (state : σ) :
    (∃ final calls,
      n.traverse visit.traced (state, []) = (final, calls) ∧
      f.rounds visit.traced calls.length ([n.id], (state, [])) = some ([], (final, calls)) ∧
      n.walk visit.traced (state, []) = (final, calls) ∧
      n.walk visit state = final ∧ calls.length ≤ n.size) ∧
    ∀ nodes : List (Option Node),
      Node.walkAll visit.traced nodes (state, []) =
        nodes.reduceOption.foldl (fun record m => m.traverse visit.traced record) (state, []) ∧
      Node.walkAll visit nodes state =
        nodes.reduceOption.foldl (fun state m => m.traverse visit state) state := by
  refine ⟨⟨_, _, rfl, ?_, ?_, ?_, ?_⟩, fun nodes => ⟨?_, ?_⟩⟩
  · obtain ⟨count, hcount⟩ := h.exists_rounds visit.traced hn [] (state, [])
    have hlength := length_of_rounds_traced hcount
    rw [List.length_nil, Nat.zero_add] at hlength
    rw [hlength]
    exact hcount
  · exact Node.walk_eq_traverse _ n _
  · rw [Node.walk_eq_traverse, Node.fst_traverse_traced]
  · have hle := Node.length_traverse_traced_le visit n (state, [])
    rwa [List.length_nil, Nat.zero_add] at hle
  · exact Node.walkAll_eq_foldl _ nodes _
  · exact Node.walkAll_eq_foldl visit nodes state

/-- Counts its calls and enters the nodes of the first two. -/
def enterTwice : Visitor Nat :=
  fun _ count => (decide (count < 2), count + 1)

theorem pairList_calls :
    Run empty pairRequests pairForest ∧ pairForest.node? pairList.id = some pairList ∧
      pairForest.rounds enterTwice.traced 3 ([pairList.id], (0, [])) =
        some ([], (3, [(pairList, 0), (firstName, 1), (firstName, 2)])) ∧
      pairList.walk enterTwice 0 = 3 ∧
      Node.walkAll enterTwice [some firstName, none, some pairList] 0 = 4 := by
  have hrun : Run empty pairRequests pairForest :=
    .step nofun (.step (accepts_pair rfl rfl rfl) (.done _))
  have hnode : pairForest.node? pairList.id = some pairList := rfl
  have hchildren : pairList.children = [firstName, firstName] := rfl
  have hleaf : firstName.children = [] := rfl
  have hname : ∀ (τ : Type) (visit : Visitor τ) (state : τ),
      firstName.traverse visit state = (visit firstName state).2 := by
    intro τ visit state
    rw [Node.traverse_eq, hleaf, List.foldl_nil, ite_self]
  have htraverse : pairList.traverse enterTwice.traced (0, []) =
      (3, [(pairList, 0), (firstName, 1), (firstName, 2)]) := by
    rw [Node.traverse_eq, hchildren]
    simp only [List.foldl_cons, List.foldl_nil, hname]
    rfl
  obtain ⟨⟨final, calls, hcalls, hloop, -, hwalk, -⟩, hall⟩ :=
    hrun.loop_calls_eq_traverse hnode enterTwice 0
  cases htraverse.symm.trans hcalls
  refine ⟨hrun, hnode, hloop, hwalk, ?_⟩
  have hlist : pairList.traverse enterTwice 1 = 4 := by
    rw [Node.traverse_eq, hchildren]
    simp only [List.foldl_cons, List.foldl_nil, hname]
    rfl
  rw [(hall _).2]
  simp only [List.reduceOption_cons_of_some, List.reduceOption_cons_of_none, List.reduceOption_nil,
    List.foldl_cons, List.foldl_nil, hname]
  exact hlist

end Forest

end SyntaxForest
