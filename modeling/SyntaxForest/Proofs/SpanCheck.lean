import Mathlib.Tactic.Common
import SyntaxForest.Span

/-!
# Checks of spans

The check of a caller's span fails on a negative start or a negative length, and on nothing else. So
the spans that are computed from offsets in order, or from other spans, always pass it.
-/

namespace SyntaxForest.Span

lemma ofInts_of_nonneg {start length : Int} (hstart : 0 ≤ start) (hlength : 0 ≤ length) :
    ofInts start length = .ok ⟨start.toNat, length.toNat⟩ := by
  obtain ⟨a, rfl⟩ := Int.eq_ofNat_of_zero_le hstart
  obtain ⟨b, rfl⟩ := Int.eq_ofNat_of_zero_le hlength
  rfl

lemma ofInts_of_neg {start length : Int} (h : start < 0 ∨ length < 0) :
    ofInts start length = .error (Fault.ofRange start length) := by
  unfold ofInts
  split
  · rename_i a b
    simp only [Int.ofNat_eq_natCast] at h
    omega
  · rfl

lemma ofInts_eq_error_iff {start length : Int} {fault : Fault} :
    ofInts start length = .error fault ↔
      (start < 0 ∨ length < 0) ∧ fault = Fault.ofRange start length := by
  by_cases h : start < 0 ∨ length < 0
  · rw [ofInts_of_neg h, Except.error.injEq, eq_comm]
    exact (and_iff_right h).symm
  · obtain ⟨hstart, hlength⟩ : 0 ≤ start ∧ 0 ≤ length := by omega
    rw [ofInts_of_nonneg hstart hlength]
    simp [h]

/-- The span between two offsets, checked like the span of a caller. -/
def betweenChecked (start stop : Nat) : Except Fault Span :=
  ofInts start (stop - start)

lemma betweenChecked_add (start length : Nat) :
    betweenChecked start (start + length) = .ok ⟨start, length⟩ := by
  rw [betweenChecked, ofInts_of_nonneg (by omega) (by omega), Except.ok.injEq, Span.mk.injEq]
  omega

/-- The span over two spans, checked like the span of a caller. -/
def extendChecked (s t : Span) : Except Fault Span :=
  let start := min (s.start : Int) t.start
  ofInts start (max (s.stop : Int) t.stop - start)

/-- What covers two spans is a span. -/
lemma extendChecked_eq (s t : Span) : s.extendChecked t = .ok (s.extend t) := by
  have hstart : (0 : Int) ≤ min (s.start : Int) t.start := by omega
  have hlength : (0 : Int) ≤ max (s.stop : Int) t.stop - min (s.start : Int) t.start := by
    unfold stop
    omega
  have hchecked := ofInts_of_nonneg hstart hlength
  rw [extendChecked, hchecked, extend, Except.ok.injEq, Span.mk.injEq]
  omega

/-- The span over all spans of a list, checked at each of them. -/
def coverChecked? : List Span → Except Fault (Option Span)
  | [] => .ok none
  | s :: rest => some <$> rest.foldlM extendChecked s

lemma foldlM_extendChecked_eq (s : Span) (rest : List Span) :
    rest.foldlM extendChecked s = .ok (rest.foldl extend s) := by
  induction rest generalizing s with
  | nil => rfl
  | cons t rest ih =>
    rw [List.foldlM_cons, extendChecked_eq]
    exact ih (s.extend t)

lemma coverChecked?_eq (spans : List Span) : coverChecked? spans = .ok (cover? spans) := by
  cases spans with
  | nil => rfl
  | cons s rest =>
    rw [coverChecked?, foldlM_extendChecked_eq]
    rfl

end SyntaxForest.Span
