import SyntaxForest.Proofs.Construction
import SyntaxForest.Proofs.Samples
import SyntaxForest.Proofs.SpanCover

/-!
# Spans of nodes

A construction looks at the spans of the immediate children only. Over a whole tree the spans that
are not given come down to those that are: the span of a node is the cover of what its subtree
contributes.
-/

namespace SyntaxForest

/-- A start and a length are both given. -/
def Hint.Exact (hint : Hint) : Prop :=
  hint.start.isSome ∧ hint.length.isSome

instance (hint : Hint) : Decidable hint.Exact :=
  inferInstanceAs (Decidable (_ ∧ _))

namespace Forest

variable {requests : List Request} {f : Forest}

/-- Where a node of a run was to be placed by the construction that made it. -/
def placeOf? (requests : List Request) (n : Node) : Option Hint :=
  requests[n.id]?.map Request.place

/-- The spans that the span of a node goes back to. A node with a span of its own gives this span
and hides what is below it; one with a start alone gives the empty span there, and one with neither
a start nor a child the empty span at the beginning of the text. -/
def contributions (requests : List Request) (n : Node) : List Span :=
  let below := n.children.attach.flatMap fun ⟨c, _⟩ => contributions requests c
  match placeOf? requests n with
  | some ⟨some _, some _⟩ => [n.span]
  | some ⟨some start, none⟩ => ⟨start.toNat, 0⟩ :: below
  | _ => if n.children.isEmpty then [⟨0, 0⟩] else below
termination_by n
decreasing_by exact Node.sizeOf_lt_of_mem_children ‹_›

/-- What a node adds to the spans of its children if its span is to be found: a start alone is an
empty span, and so is the beginning of the text if there is neither a start nor a child. -/
def ownPart (hint : Hint) (children : List Node) : List Span :=
  match hint.start with
  | some start => [⟨start.toNat, 0⟩]
  | none => if children.isEmpty then [⟨0, 0⟩] else []

lemma contributions_of_exact {n : Node} {hint : Hint} (h : placeOf? requests n = some hint)
    (hexact : hint.Exact) : contributions requests n = [n.span] := by
  obtain ⟨start, hstart⟩ := Option.isSome_iff_exists.mp hexact.1
  obtain ⟨length, hlength⟩ := Option.isSome_iff_exists.mp hexact.2
  rcases hint with ⟨_, _⟩
  cases hstart
  cases hlength
  rw [contributions]
  simp only [h]

lemma contributions_of_not_exact {n : Node} {hint : Hint} (h : placeOf? requests n = some hint)
    (hexact : ¬hint.Exact) :
    contributions requests n =
      ownPart hint n.children ++ n.children.flatMap (contributions requests) := by
  rw [contributions]
  simp only [List.flatMap_subtype, List.unattach_attach]
  rcases hint with ⟨_ | start, _ | length⟩
  · simp only [h, ownPart]
    cases n.children <;> rfl
  · simp only [h, ownPart]
    cases n.children <;> rfl
  · simp only [h, ownPart, List.singleton_append]
  · exact absurd ⟨rfl, rfl⟩ hexact

/-! ### One construction -/

lemma eq_of_ofInts {start length : Int} {s : Span} (h : Span.ofInts start length = .ok s) :
    (s.start : Int) = start ∧ (s.length : Int) = length := by
  unfold Span.ofInts at h
  split at h
  · cases h
    exact ⟨rfl, rfl⟩
  · cases h

section Settle

variable {extent : Extent} {children : List Node} {s : Span} {placement : Placement}

lemma eq_of_settle {start length : Int}
    (hextent : Hint.extent ⟨some start, some length⟩ = .ok extent)
    (hsettle : extent.settle (children.map Node.span) = .ok (s, placement)) :
    (s.start : Int) = start ∧ (s.length : Int) = length := by
  simp only [Hint.extent] at hextent
  cases hspan : Span.ofInts start length with
  | error fault =>
    rw [hspan] at hextent
    cases hextent
  | ok given =>
    rw [hspan] at hextent
    cases hextent
    cases hsettle
    exact eq_of_ofInts hspan

lemma isCover_of_stretched {start : Int}
    (h : (Extent.stretched start).settle (children.map Node.span) = .ok (s, placement)) :
    s.IsCover ([⟨start.toNat, 0⟩] ++ children.map Node.span) := by
  simp only [Extent.settle] at h
  cases hbase : Span.ofInts start 0 with
  | error fault =>
    rw [hbase] at h
    cases h
  | ok base =>
    have hown : base = ⟨start.toNat, 0⟩ := by
      obtain ⟨hstart, hlength⟩ := eq_of_ofInts hbase
      rw [← hstart, Int.toNat_natCast, Span.mk.injEq]
      exact ⟨rfl, Int.ofNat.inj hlength⟩
    rw [hbase] at h
    subst hown
    cases hcover : Span.cover? (children.map Node.span) with
    | none =>
      cases children with
      | nil =>
        cases h
        exact Span.isCover_singleton _
      | cons c rest => cases hcover
    | some cover =>
      rw [hcover] at h
      cases h
      exact (Span.isCover_singleton _).extend (Span.isCover_of_cover? hcover)

/-- The span of a node that has none of its own covers what the node adds and its children, no more
than that. -/
lemma isCover_of_settle {hint : Hint} (hexact : ¬hint.Exact) (hextent : hint.extent = .ok extent)
    (hsettle : extent.settle (children.map Node.span) = .ok (s, placement)) :
    s.IsCover (ownPart hint children ++ children.map Node.span) := by
  rcases hint with ⟨_ | start, length⟩
  · cases hextent
    cases hsettle
    cases children with
    | nil => exact Span.isCover_singleton _
    | cons c rest => exact Span.isCover_foldl_extend c.span (rest.map Node.span)
  · cases length with
    | some length => exact absurd ⟨rfl, rfl⟩ hexact
    | none =>
      cases hextent
      exact isCover_of_stretched hsettle

end Settle

/-! ### Whole trees -/

/-- The node was built with a span of its own. -/
def PlacedExactly (requests : List Request) (n : Node) : Prop :=
  ∃ hint, placeOf? requests n = some hint ∧ hint.Exact

/-- A node of a run has the place that its construction asked for, settled with the spans of its
children. -/
lemma Run.placeOf?_of_node? (h : Run empty requests f) {n : Node} (hn : f.node? n.id = some n) :
    ∃ hint extent, placeOf? requests n = some hint ∧ hint.extent = .ok extent ∧
      extent.settle (n.children.map Node.span) = .ok (n.span, n.head.placement) := by
  obtain ⟨r, hr, -, -, extent, hextent, hsettle⟩ := h.request_of_node? hn
  refine ⟨r.place, extent, ?_, hextent, hsettle⟩
  rw [placeOf?, hr, Option.map_some]

/-- The children had their spans before the node was built, so that the covers of the children's
contributions can be put together to one. -/
theorem Run.span_isCover_contributions (h : Run empty requests f) {n : Node}
    (hn : f.node? n.id = some n) : n.span.IsCover (contributions requests n) := by
  induction n using Node.induction with
  | step n ih =>
    obtain ⟨hint, extent, hplace, hextent, hsettle⟩ := h.placeOf?_of_node? hn
    by_cases hexact : hint.Exact
    · rw [contributions_of_exact hplace hexact]
      exact Span.isCover_singleton n.span
    · rw [contributions_of_not_exact hplace hexact]
      exact (isCover_of_settle hexact hextent hsettle).flatMap
        fun c hc => ih c hc (h.node?_of_child hn hc)

lemma Run.span_within_of_child (h : Run empty requests f) {n c : Node}
    (hn : f.node? n.id = some n) (hexact : ¬PlacedExactly requests n) (hc : c ∈ n.children) :
    c.span.Within n.span := by
  obtain ⟨hint, extent, hplace, hextent, hsettle⟩ := h.placeOf?_of_node? hn
  have hcover := isCover_of_settle (fun hhint => hexact ⟨hint, hplace, hhint⟩) hextent hsettle
  exact hcover.covers _ (List.mem_append_right _ (List.mem_map_of_mem hc))

section Witness

def farName : Node :=
  .ofName (nameAt 0 4 "ab")

def emptyList : Node :=
  .mk ⟨1, ⟨0, 0⟩, .fitted⟩ (.list [])

def lateList : Node :=
  .mk ⟨2, ⟨0, 9⟩, .stretched 9⟩ (.list [farName, emptyList])

def looseTuple : Node :=
  .mk ⟨3, ⟨0, 9⟩, .fitted⟩ (.tuple [lateList])

def looseRequests : List Request :=
  [⟨⟨none, none⟩, farName.shape⟩, ⟨⟨none, none⟩, emptyList.shape⟩,
    ⟨⟨some 9, none⟩, lateList.shape⟩, ⟨⟨none, some (-5)⟩, looseTuple.shape⟩]

lemma looseTuple_run : Run empty looseRequests (looseRequests.foldl perform empty) := by
  refine .step ?_ (.step ?_ (.step ?_ (.step ?_ (.done _))))
  · intro c hc
    cases hc
  · intro c hc
    cases hc
  · intro c hc
    have hpair : c = farName ∨ c = emptyList := by
      simpa [lateList, Node.shape, Shape.children, Shape.slots] using hc
    rcases hpair with rfl | rfl <;> rfl
  · intro c hc
    have hsingle : c = lateList := by
      simpa [looseTuple, Node.shape, Shape.children, Shape.slots] using hc
    rw [hsingle]
    rfl

end Witness

end Forest

end SyntaxForest
