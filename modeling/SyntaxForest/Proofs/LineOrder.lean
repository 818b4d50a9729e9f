import Mathlib.Data.List.Basic
import Mathlib.Tactic.Common
import SyntaxForest.LineIndex

/-!
# Order of the lines of an index

The check of given spans compares neighbours only. Since no span stops before it starts, neighbours
in order put all spans in order, and then the first one starts and the last one stops before all
others do.
-/

namespace SyntaxForest.LineIndex

/-- The spans with the numbers `k` and `k + 1` are out of order: the second one starts before the
first one stops. -/
def BreaksAt (spans : List Span) (k : Nat) (s t : Span) : Prop :=
  spans[k]? = some s ∧ spans[k + 1]? = some t ∧ t.start < s.stop

/-- The neighbours that are reported are those with the smallest number at which the order
breaks. -/
lemma firstOverlap?_eq_some_iff {spans : List Span} {s t : Span} :
    firstOverlap? spans = some (s, t) ↔
      ∃ k, BreaksAt spans k s t ∧ ∀ i < k, ∀ u v, ¬BreaksAt spans i u v := by
  fun_induction firstOverlap? spans with
  | case1 a b rest hab ih =>
    -- The order does not break at zero here, and all other numbers are one smaller in the rest.
    rw [ih]
    constructor
    · rintro ⟨k, hk, hfirst⟩
      refine ⟨k + 1, hk, fun i hi u v hbreak => ?_⟩
      cases i with
      | zero =>
        obtain ⟨hu, hv, hlt⟩ := hbreak
        cases hu
        cases hv
        exact Nat.not_lt.mpr hab hlt
      | succ i => exact hfirst i (by omega) u v hbreak
    · rintro ⟨k, hk, hfirst⟩
      cases k with
      | zero =>
        obtain ⟨hs, ht, hlt⟩ := hk
        cases hs
        cases ht
        exact absurd hlt (Nat.not_lt.mpr hab)
      | succ k => exact ⟨k, hk, fun i hi => hfirst (i + 1) (by omega)⟩
  | case2 a b rest hab =>
    have hbreak : BreaksAt (a :: b :: rest) 0 a b := ⟨rfl, rfl, Nat.not_le.mp hab⟩
    constructor
    · intro h
      cases h
      exact ⟨0, hbreak, fun i hi => absurd hi (Nat.not_lt_zero i)⟩
    · rintro ⟨k, hk, hfirst⟩
      cases k with
      | zero =>
        obtain ⟨hs, ht, -⟩ := hk
        cases hs
        cases ht
        rfl
      | succ k => exact absurd hbreak (hfirst 0 (Nat.succ_pos k) a b)
  | case3 spans hshort =>
    simp only [reduceCtorEq, false_iff]
    rintro ⟨k, ⟨-, ht, -⟩, -⟩
    obtain ⟨hlt, -⟩ := List.getElem?_eq_some_iff.mp ht
    match spans with
    | [] => exact absurd hlt (Nat.not_lt_zero _)
    | [a] => exact absurd hlt (by simp)
    | a :: b :: rest => exact hshort a b rest rfl

lemma pairwise_precedes_iff {spans : List Span} :
    spans.Pairwise Span.Precedes ↔
      ∀ (i j : Nat) (s t : Span), i < j → spans[i]? = some s → spans[j]? = some t →
        s.stop ≤ t.start := by
  rw [List.pairwise_iff_getElem]
  constructor
  · intro h i j s t hij hs ht
    obtain ⟨hi, rfl⟩ := List.getElem?_eq_some_iff.mp hs
    obtain ⟨hj, rfl⟩ := List.getElem?_eq_some_iff.mp ht
    exact h i j hi hj hij
  · intro h i j hi hj hij
    exact h i j _ _ hij (List.getElem?_eq_getElem hi) (List.getElem?_eq_getElem hj)

lemma firstOverlap?_eq_none {spans : List Span} (h : spans.Pairwise Span.Precedes) :
    firstOverlap? spans = none := by
  rw [Option.eq_none_iff_forall_ne_some]
  rintro ⟨s, t⟩ hfirst
  obtain ⟨k, ⟨hs, ht, hlt⟩, -⟩ := firstOverlap?_eq_some_iff.mp hfirst
  have hle := pairwise_precedes_iff.mp h k (k + 1) s t (Nat.lt_succ_self k) hs ht
  omega

lemma ofSpans_of_pairwise {spans : List Span} (h : spans.Pairwise Span.Precedes) :
    ofSpans spans = .ok ⟨spans.toArray, by simpa using h⟩ := by
  unfold ofSpans
  split
  · rename_i s t hoverlap
    rw [firstOverlap?_eq_none h] at hoverlap
    cases hoverlap
  · rfl

lemma toList_of_ofSpans {spans : List Span} {index : LineIndex} (h : ofSpans spans = .ok index) :
    index.spans.toList = spans := by
  unfold ofSpans at h
  split at h
  · cases h
  · cases h
    rfl

lemma ofSpans_eq_error_iff {spans : List Span} {fault : Fault} :
    ofSpans spans = .error fault ↔
      ∃ s t, firstOverlap? spans = some (s, t) ∧ fault = .unorderedLines s.stop t.start := by
  unfold ofSpans
  split
  · rename_i s t hoverlap
    simp only [hoverlap, Except.error.injEq, Option.some.injEq, Prod.mk.injEq]
    constructor
    · rintro rfl
      exact ⟨s, t, ⟨rfl, rfl⟩, rfl⟩
    · rintro ⟨_, _, ⟨rfl, rfl⟩, rfl⟩
      rfl
  · rename_i hnone
    simp [hnone]

lemma exists_ofSpans_iff {spans : List Span} :
    (∃ index, ofSpans spans = .ok index) ↔ spans.Pairwise Span.Precedes := by
  constructor
  · rintro ⟨index, h⟩
    rw [← toList_of_ofSpans h]
    exact index.ordered
  · exact fun h => ⟨_, ofSpans_of_pairwise h⟩

/-! ### The ends of an index -/

lemma start_of_toList {index : LineIndex} {first : Span} {rest : List Span}
    (h : index.spans.toList = first :: rest) : index.start = first.start := by
  have hfirst : index.spans[0]? = some first := by
    rw [← Array.getElem?_toList, h]
    rfl
  unfold start
  rw [hfirst]

lemma stop_of_toList {index : LineIndex} {front : List Span} {last : Span}
    (h : index.spans.toList = front ++ [last]) : index.stop = last.stop := by
  have hlast : index.spans.back? = some last := by
    rw [← Array.getLast?_toList, h, List.getLast?_concat]
  unfold stop
  rw [hlast]

lemma start_le_of_mem (index : LineIndex) {s : Span} (hs : s ∈ index.spans.toList) :
    index.start ≤ s.start := by
  obtain ⟨first, rest, heq⟩ := List.exists_cons_of_ne_nil (List.ne_nil_of_mem hs)
  have hordered := index.ordered
  rw [heq] at hs hordered
  rw [start_of_toList heq]
  rcases List.mem_cons.mp hs with rfl | hs
  · exact Nat.le_refl _
  · have hprec := (List.pairwise_cons.mp hordered).1 s hs
    exact Nat.le_trans (Nat.le_add_right _ _) hprec

lemma stop_le_of_mem (index : LineIndex) {s : Span} (hs : s ∈ index.spans.toList) :
    s.stop ≤ index.stop := by
  obtain ⟨front, last, heq⟩ :=
    (List.eq_nil_or_concat' index.spans.toList).resolve_left (List.ne_nil_of_mem hs)
  have hordered := index.ordered
  rw [heq] at hs hordered
  rw [stop_of_toList heq]
  rcases List.mem_append.mp hs with hs | hs
  · have hprec := (List.pairwise_append.mp hordered).2.2 s hs last List.mem_cons_self
    exact Nat.le_trans hprec (Nat.le_add_right _ _)
  · obtain rfl := List.mem_singleton.mp hs
    exact Nat.le_refl _

lemma min?_start (index : LineIndex) (h : index.spans.toList ≠ []) :
    (index.spans.toList.map Span.start).min? = some index.start := by
  obtain ⟨first, rest, heq⟩ := List.exists_cons_of_ne_nil h
  rw [List.min?_eq_some_iff, List.forall_mem_map]
  refine ⟨?_, fun s => index.start_le_of_mem⟩
  rw [start_of_toList heq, heq]
  exact List.mem_cons_self

lemma max?_stop (index : LineIndex) (h : index.spans.toList ≠ []) :
    (index.spans.toList.map Span.stop).max? = some index.stop := by
  obtain ⟨front, last, heq⟩ := (List.eq_nil_or_concat' index.spans.toList).resolve_left h
  rw [List.max?_eq_some_iff, List.forall_mem_map]
  refine ⟨?_, fun s => index.stop_le_of_mem⟩
  rw [stop_of_toList heq, heq]
  exact List.mem_map_of_mem (List.mem_append_right _ List.mem_cons_self)

/-- An index is built from exactly those spans of which every one stops at or before the start of
each later one. Otherwise the fault tells the stop of the first span that the next one starts
before, and the start of this next one. An index that has lines starts and stops with the outermost
of them. -/
theorem ofSpans_accepts_ordered (spans : List Span) :
    ((∃ index, ofSpans spans = .ok index) ↔
      ∀ (i j : Nat) (s t : Span), i < j → spans[i]? = some s → spans[j]? = some t →
        s.stop ≤ t.start) ∧
    (∀ fault, ofSpans spans = .error fault ↔
      ∃ (k : Nat) (s t : Span), BreaksAt spans k s t ∧ (∀ i < k, ∀ u v, ¬BreaksAt spans i u v) ∧
        fault = .unorderedLines s.stop t.start ∧ fault.code = "R003" ∧ fault.offset = t.start ∧
        fault.message = "Line starting at " ++ toString t.start ++
          " begins before the previous line ends at " ++ toString s.stop) ∧
    (∀ index, ofSpans spans = .ok index →
      index.spans.toList = spans ∧
      (spans ≠ [] →
        (spans.map Span.start).min? = some index.start ∧
        (spans.map Span.stop).max? = some index.stop)) := by
  refine ⟨exists_ofSpans_iff.trans pairwise_precedes_iff, ?_, ?_⟩
  · intro fault
    rw [ofSpans_eq_error_iff]
    constructor
    · rintro ⟨s, t, hfirst, rfl⟩
      obtain ⟨k, hbreak, hbefore⟩ := firstOverlap?_eq_some_iff.mp hfirst
      exact ⟨k, s, t, hbreak, hbefore, rfl, rfl, rfl, rfl⟩
    · rintro ⟨k, s, t, hbreak, hbefore, hfault, -⟩
      exact ⟨s, t, firstOverlap?_eq_some_iff.mpr ⟨k, hbreak, hbefore⟩, hfault⟩
  · rintro index h
    obtain rfl := toList_of_ofSpans h
    exact ⟨rfl, fun hne => ⟨index.min?_start hne, index.max?_stop hne⟩⟩

def crossedSpans : List Span :=
  [⟨0, 2⟩, ⟨2, 0⟩, ⟨5, 2⟩, ⟨3, 4⟩, ⟨0, 1⟩]

def touchingSpans : List Span :=
  [⟨1, 2⟩, ⟨3, 0⟩, ⟨3, 0⟩, ⟨5, 2⟩]

theorem crossedSpans_refused :
    (¬∃ index, ofSpans crossedSpans = .ok index) ∧
      ofSpans crossedSpans = .error (.unorderedLines 7 3) ∧
      ∃ index, ofSpans touchingSpans = .ok index ∧ index.start = 1 ∧ index.stop = 7 := by
  obtain ⟨accepts, refuses, -⟩ := ofSpans_accepts_ordered crossedSpans
  obtain ⟨accepts', -, ends⟩ := ofSpans_accepts_ordered touchingSpans
  have hbreak : BreaksAt crossedSpans 2 ⟨5, 2⟩ ⟨3, 4⟩ := ⟨rfl, rfl, by decide⟩
  have hbefore : ∀ i < 2, ∀ u v, ¬BreaksAt crossedSpans i u v := by
    rintro i hi u v ⟨hu, hv, hlt⟩
    have hi : i = 0 ∨ i = 1 := by omega
    rcases hi with rfl | rfl
    · cases hu
      cases hv
      exact absurd hlt (by decide)
    · cases hu
      cases hv
      exact absurd hlt (by decide)
  refine ⟨?_, (refuses _).mpr ⟨2, _, _, hbreak, hbefore, rfl, rfl, rfl, rfl⟩, ?_⟩
  · rw [accepts]
    intro h
    exact absurd (h 2 3 _ _ (by decide) rfl rfl) (by decide)
  · obtain ⟨index, hindex⟩ := accepts'.mpr (pairwise_precedes_iff.mp (by decide))
    obtain ⟨-, hends⟩ := ends index hindex
    obtain ⟨hmin, hmax⟩ := hends nofun
    exact ⟨index, hindex, (Option.some.inj hmin).symm, (Option.some.inj hmax).symm⟩

end SyntaxForest.LineIndex
