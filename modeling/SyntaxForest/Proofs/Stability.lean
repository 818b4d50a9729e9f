import Mathlib.Data.List.Find
import SyntaxForest.Node.Find
import SyntaxForest.Proofs.NodeSearch
import SyntaxForest.Proofs.Printing
import SyntaxForest.Proofs.TreeViews

/-!
# Stability of the view from above

A query that looks down from a node comes by nodes that the forest holds under their own numbers. It
may look each of them up when it gets there: what it finds is what the node was built from, and no
later construction changes that, though it may give any of these nodes another parent.
-/

namespace SyntaxForest.Forest

/-! ### Queries that look every node up -/

section Queries

variable (f : Forest)

/-- The node that the forest holds now under the number of a node. -/
def held (n : Node) : Node :=
  (f.node? n.id).getD n

/-- A layer with those parts looked up that its template takes apart. Its other parts stand in the
holes of the template. -/
def refresh : Shape Node → Shape Node
  | .call callee arguments =>
    .call callee
      (arguments.map fun part => (f.held (.ofArgument part)).asArgument?.getD part)
  | .lambda parameters body =>
    .lambda (parameters.map fun part => (f.held (.ofParameter part)).asParameter?.getD part) body
  | .dictionary entries => .dictionary (entries.map f.held)
  | .comprehension body clauses =>
    .comprehension (f.held body)
      (clauses.map fun part => (f.held (.ofClause part)).asClause?.getD part)
  | shape => shape

/-- The text of a node up to a depth. Every node is looked up where a hole is filled with it. -/
def printWithin (options : PrintOptions) : Nat → Nat → String
  | 0, _ => ""
  | limit + 1, id =>
    match f.node? id with
    | some n =>
      fill (fun c => printWithin options limit c.id)
        ((Node.mk n.head (f.refresh n.shape)).template options)
    | none => ""

/-- The text of the node with a number. A tree in a forest is no deeper than there are nodes. -/
def print (options : PrintOptions) (id : Nat) : String :=
  f.printWithin options f.size id

/-- A walk up to a depth that looks every node up before it shows it to the visitor. -/
def walkWithin {σ : Type} (visit : Visitor σ) : Nat → Nat → σ → σ
  | 0, _, state => state
  | limit + 1, id, state =>
    match f.node? id with
    | some n =>
      if (visit n state).1 then
        n.children.foldl (fun state c => walkWithin visit limit c.id state) (visit n state).2
      else (visit n state).2
    | none => state

def walk {σ : Type} (visit : Visitor σ) (id : Nat) (state : σ) : σ :=
  f.walkWithin visit f.size id state

/-- A search up to a depth. The spans of the children are looked up, too. -/
def descendWithin (offset : Int) : Nat → Nat → Option Nat
  | 0, _ => none
  | limit + 1, id =>
    match f.node? id with
    | some n =>
      match n.children.find? fun c => (f.held c).span.Contains offset with
      | some c => descendWithin offset limit c.id
      | none => some id
    | none => none

def find? (id : Nat) (offset : Int) : Option Nat :=
  match f.node? id with
  | some n => if n.span.Contains offset then f.descendWithin offset f.size id else none
  | none => none

end Queries

/-! ### What the queries come by -/

variable {requests more : List Request} {f g : Forest}

lemma Run.append {e : Forest} (h : Run e requests f) (hmore : Run f more g) :
    Run e (requests ++ more) g := by
  induction h with
  | done f => exact hmore
  | step haccepts _ ih => exact .step haccepts (ih hmore)

/-- A construction leaves every node as it was. -/
lemma node?_perform_of_node? (r : Request) {id : Nat} {n : Node} (hn : f.node? id = some n) :
    (f.perform r).node? id = some n := by
  rw [node?_perform, if_neg (Nat.ne_of_lt (lt_size_of_node? hn))]
  exact hn

theorem Run.node?_of_node? (h : Run f more g) {id : Nat} {n : Node} (hn : f.node? id = some n) :
    g.node? id = some n := by
  induction h with
  | done f => exact hn
  | @step f g r rest _ _ ih => exact ih (node?_perform_of_node? r hn)

lemma Run.lt_of_child (h : Run empty requests f) {n c : Node} (hn : f.node? n.id = some n)
    (hc : c ∈ n.children) : c.id < n.id := by
  obtain ⟨r, hr, hshape, -⟩ := h.request_of_node? hn
  rw [Node.children, ← hshape] at hc
  exact (h.accepted hr hc).2

lemma held_of_node? {n : Node} (hn : f.node? n.id = some n) : f.held n = n := by
  rw [held, hn, Option.getD_some]

lemma map_eq_self {α : Type} {l : List α} {g : α → α} (h : ∀ a ∈ l, g a = a) : l.map g = l := by
  rw [List.map_congr_left h]
  exact List.map_id l

/-- Where the forest holds all parts of a layer, looking them up changes nothing. -/
lemma refresh_eq {shape : Shape Node} (h : ∀ c ∈ shape.children, f.node? c.id = some c) :
    f.refresh shape = shape := by
  have hheld : ∀ c, some c ∈ shape.slots → f.held c = c :=
    fun c hc => held_of_node? (h c (Shape.mem_children.mpr hc))
  unfold refresh
  split
  · rename_i callee arguments
    have harguments : ∀ part ∈ arguments,
        (f.held (.ofArgument part)).asArgument?.getD part = part := by
      intro part hpart
      rw [hheld _ (List.mem_cons_of_mem _ (List.mem_map_of_mem hpart))]
      rfl
    rw [map_eq_self harguments]
  · rename_i parameters body
    have hparameters : ∀ part ∈ parameters,
        (f.held (.ofParameter part)).asParameter?.getD part = part := by
      intro part hpart
      rw [hheld _ (List.mem_append_left _ (List.mem_map_of_mem hpart))]
      rfl
    rw [map_eq_self hparameters]
  · rename_i entries
    rw [map_eq_self fun entry hentry => hheld entry (List.mem_map_of_mem hentry)]
  · rename_i body clauses
    have hclauses : ∀ part ∈ clauses,
        (f.held (.ofClause part)).asClause?.getD part = part := by
      intro part hpart
      rw [hheld _ (List.mem_cons_of_mem _ (List.mem_map_of_mem hpart))]
      rfl
    rw [hheld body List.mem_cons_self, map_eq_self hclauses]
  · rfl

/-- The limit is on the depth: every hole stands for a node below, which has a smaller number. -/
lemma Run.printWithin_eq (h : Run empty requests f) (options : PrintOptions) {limit : Nat}
    {n : Node} (hn : f.node? n.id = some n) (hlimit : n.id < limit) :
    f.printWithin options limit n.id = n.print options := by
  induction limit generalizing n with
  | zero => exact absurd hlimit (Nat.not_lt_zero _)
  | succ limit ih =>
    have hrefresh : f.refresh n.shape = n.shape := refresh_eq fun c => h.node?_of_child hn
    have hnode : Node.mk n.head n.shape = n := by cases n; rfl
    simp only [printWithin, hn, hrefresh, hnode]
    rw [Node.print_eq_fill]
    apply fill_congr
    intro c hc
    rcases Node.mem_children_of_hole_mem_template hc with hc | ⟨d, hd, hc⟩
    · have hlt := h.lt_of_child hn hc
      exact ih (h.node?_of_child hn hc) (by omega)
    · have hdn := h.node?_of_child hn hd
      have hlt := h.lt_of_child hn hd
      have hlt' := h.lt_of_child hdn hc
      exact ih (h.node?_of_child hdn hc) (by omega)

lemma Run.walkWithin_eq {σ : Type} (h : Run empty requests f) (visit : Visitor σ) {limit : Nat}
    {n : Node} (hn : f.node? n.id = some n) (hlimit : n.id < limit) (state : σ) :
    f.walkWithin visit limit n.id state = n.traverse visit state := by
  induction limit generalizing n state with
  | zero => exact absurd hlimit (Nat.not_lt_zero _)
  | succ limit ih =>
    have hchildren : ∀ state, ∀ c ∈ n.children,
        f.walkWithin visit limit c.id state = c.traverse visit state := by
      intro state c hc
      have hlt := h.lt_of_child hn hc
      exact ih (h.node?_of_child hn hc) (by omega) state
    simp only [walkWithin, hn]
    rw [Node.traverse_eq, List.foldl_ext _ _ _ hchildren]

lemma Run.descendWithin_eq (h : Run empty requests f) (offset : Int) {limit : Nat} {n : Node}
    (hn : f.node? n.id = some n) (hlimit : n.id < limit) :
    f.descendWithin offset limit n.id = some (n.descend offset).id := by
  induction limit generalizing n with
  | zero => exact absurd hlimit (Nat.not_lt_zero _)
  | succ limit ih =>
    have hfind : (n.children.find? fun c => (f.held c).span.Contains offset) =
        n.children.find? fun c => c.span.Contains offset := by
      apply List.find?_congr
      intro c hc
      rw [held_of_node? (h.node?_of_child hn hc)]
    rw [Node.descend_eq]
    simp only [descendWithin, hn, hfind]
    cases hfirst : n.children.find? fun c => c.span.Contains offset with
    | none => rfl
    | some c =>
      have hc := List.mem_of_find?_eq_some hfirst
      have hlt := h.lt_of_child hn hc
      exact ih (h.node?_of_child hn hc) (by omega)

/-! ### Queries after any run -/

section Run

variable (h : Run empty requests f) {n : Node} (hn : f.node? n.id = some n)

include h hn

theorem Run.print_eq (options : PrintOptions) : f.print options n.id = n.print options :=
  h.printWithin_eq options hn (lt_size_of_node? hn)

theorem Run.walk_eq {σ : Type} (visit : Visitor σ) (state : σ) :
    f.walk visit n.id state = n.walk visit state := by
  rw [walk, h.walkWithin_eq visit hn (lt_size_of_node? hn), Node.walk_eq_traverse]

theorem Run.find?_eq (offset : Int) : f.find? n.id offset = (n.find? offset).map Node.id := by
  simp only [find?, hn, Node.find?]
  by_cases hcontains : n.span.Contains offset
  · rw [if_pos hcontains, if_pos hcontains, h.descendWithin_eq offset hn (lt_size_of_node? hn)]
    rfl
  · rw [if_neg hcontains, if_neg hcontains]
    rfl

end Run

/-- Whatever is constructed after a node, each query that looks down from it has the answer that it
had before, though it looks up every node that it comes by: all of these are held unchanged. -/
theorem Run.downward_queries_stable (h : Run empty requests f) (hmore : Run f more g) {n : Node}
    (hn : f.node? n.id = some n) :
    (∀ m, n.Reaches m → f.node? m.id = some m ∧ g.node? m.id = some m) ∧
    (∀ options, f.print options n.id = n.print options ∧
      g.print options n.id = n.print options) ∧
    (∀ (σ : Type) (visit : Visitor σ) (state : σ),
      f.walk visit n.id state = n.walk visit state ∧
      g.walk visit n.id state = n.walk visit state) ∧
    ∀ offset, f.find? n.id offset = (n.find? offset).map Node.id ∧
      g.find? n.id offset = (n.find? offset).map Node.id := by
  have hall := h.append hmore
  have hlater := hmore.node?_of_node? hn
  refine ⟨?_, ?_, ?_, ?_⟩
  · intro m hm
    exact ⟨h.node?_of_reaches hn hm, hall.node?_of_reaches hlater hm⟩
  · intro options
    exact ⟨h.print_eq hn options, hall.print_eq hlater options⟩
  · intro σ visit state
    exact ⟨h.walk_eq hn visit state, hall.walk_eq hlater visit state⟩
  · intro offset
    exact ⟨h.find?_eq hn offset, hall.find?_eq hlater offset⟩

section Witness

def pairRequests : List Request :=
  [⟨⟨none, none⟩, firstName.shape⟩, ⟨⟨none, none⟩, pairList.shape⟩]

/-- The first of these constructions fails after it has adopted the name and the list. -/
def laterRequests : List Request :=
  [⟨⟨some (-1), none⟩, .tuple [firstName, pairList]⟩, ⟨⟨none, none⟩, .unpack firstName⟩]

def pairForest : Forest :=
  pairRequests.foldl perform empty

def laterForest : Forest :=
  laterRequests.foldl perform pairForest

theorem pairList_queries :
    Run empty pairRequests pairForest ∧ Run pairForest laterRequests laterForest ∧
      pairForest.node? pairList.id = some pairList ∧
      pairForest.parent? firstName.id = some 1 ∧ laterForest.parent? firstName.id = some 3 ∧
      pairForest.print ⟨true⟩ pairList.id = "[a, a]" ∧
      laterForest.print ⟨true⟩ pairList.id = "[a, a]" ∧
      pairForest.find? pairList.id 1 = some 0 ∧ laterForest.find? pairList.id 1 = some 0 ∧
      (laterForest.walk (Visitor.record fun _ => true) pairList.id #[]).toList =
        [pairList, firstName, firstName] := by
  have hrun : Run empty pairRequests pairForest :=
    .step nofun (.step (accepts_pair rfl rfl rfl) (.done _))
  have hlater : Run pairForest laterRequests laterForest :=
    .step (accepts_pair rfl rfl rfl) (.step (accepts_single rfl rfl) (.done _))
  have hnode : pairForest.node? pairList.id = some pairList := rfl
  have hchildren : pairList.children = [firstName, firstName] := rfl
  have hleaf : firstName.children = [] := rfl
  have hprint : pairList.print ⟨true⟩ = "[a, a]" := by
    simp [Node.print_eq_fill, pairList, firstName, nameAt, Node.ofName, NameToken.ofValue,
      Node.template]
  have hfind : pairList.find? 1 = some firstName := by
    have hfirst : (pairList.children.find? fun c => c.span.Contains 1) = some firstName := rfl
    have hnone : (firstName.children.find? fun c => c.span.Contains 1) = none := rfl
    rw [Node.find?, if_pos (by decide), Node.descend_eq, hfirst, Option.map_some,
      Node.descend_eq, hnone]
    rfl
  have hvisited : pairList.visited = [pairList, firstName, firstName] := by
    simp only [Node.visited_eq_preorder, Node.preorder_eq, hchildren, hleaf, List.flatMap_cons,
      List.flatMap_nil, List.append_nil, List.singleton_append]
  obtain ⟨-, hprints, hwalks, hfinds⟩ := hrun.downward_queries_stable hlater hnode
  obtain ⟨hbefore, hafter⟩ := hprints ⟨true⟩
  obtain ⟨hfound, hfound'⟩ := hfinds 1
  rw [hfind] at hfound hfound'
  refine ⟨hrun, hlater, hnode, rfl, rfl, hbefore.trans hprint, hafter.trans hprint, hfound,
    hfound', ?_⟩
  rw [(hwalks _ _ _).2]
  exact hvisited

end Witness

end SyntaxForest.Forest
