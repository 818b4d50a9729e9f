import Mathlib.Tactic.Common
import SyntaxForest.Proofs.Descendants

/-!
# Covers

Spans are ordered by lying within one another. A span is the cover of some spans if it is the
smallest one that they all lie within; so it lies within a span exactly if all of them do.
-/

namespace SyntaxForest

namespace Span

/-- The smallest span that all spans of a list lie within. -/
structure IsCover (s : Span) (parts : List Span) : Prop where
  covers : ∀ t ∈ parts, t.Within s
  least : ∀ u : Span, (∀ t ∈ parts, t.Within u) → s.Within u

lemma Within.refl (s : Span) : s.Within s :=
  ⟨Nat.le_refl _, Nat.le_refl _⟩

lemma isCover_iff {s : Span} {parts : List Span} :
    s.IsCover parts ↔ ∀ u : Span, s.Within u ↔ ∀ t ∈ parts, t.Within u := by
  constructor
  · intro h u
    exact ⟨fun hs t ht => (h.covers t ht).trans hs, h.least u⟩
  · intro h
    exact ⟨(h s).mp (.refl s), fun u => (h u).mpr⟩

lemma isCover_singleton (s : Span) : s.IsCover [s] :=
  isCover_iff.mpr fun _ => by simp

lemma extend_within_iff (s t u : Span) :
    (s.extend t).Within u ↔ s.Within u ∧ t.Within u := by
  unfold Within extend stop
  dsimp only
  omega

lemma IsCover.extend {s t : Span} {parts others : List Span} (hs : s.IsCover parts)
    (ht : t.IsCover others) : (s.extend t).IsCover (parts ++ others) := by
  rw [isCover_iff] at *
  intro u
  rw [extend_within_iff, hs u, ht u, List.forall_mem_append]

lemma isCover_foldl_extend (s : Span) (rest : List Span) :
    (rest.foldl extend s).IsCover (s :: rest) := by
  rw [isCover_iff]
  intro u
  induction rest generalizing s with
  | nil => simp
  | cons t rest ih =>
    rw [List.foldl_cons, ih]
    simp only [List.forall_mem_cons, extend_within_iff, and_assoc]

lemma isCover_of_cover? {s : Span} {parts : List Span} (h : cover? parts = some s) :
    s.IsCover parts := by
  cases parts with
  | nil => cases h
  | cons t rest =>
    cases h
    exact isCover_foldl_extend t rest

/-- Parts may be replaced by what they cover. -/
lemma IsCover.flatMap {α : Type} {s : Span} {own : List Span} {items : List α} {span : α → Span}
    {parts : α → List Span} (h : s.IsCover (own ++ items.map span))
    (hitems : ∀ a ∈ items, (span a).IsCover (parts a)) :
    s.IsCover (own ++ items.flatMap parts) := by
  rw [isCover_iff] at *
  intro u
  rw [h u, List.forall_mem_append, List.forall_mem_append]
  apply and_congr_right
  intro _
  simp only [List.forall_mem_map, List.mem_flatMap, forall_exists_index, and_imp]
  constructor
  · intro hu t a ha ht
    exact (isCover_iff.mp (hitems a ha) u).mp (hu a ha) t ht
  · intro hu a ha
    exact (isCover_iff.mp (hitems a ha) u).mpr fun t ht => hu t a ha ht

end Span

end SyntaxForest
