import SyntaxForest.Forest
import SyntaxForest.Proofs.SpanCheck
import SyntaxForest.Proofs.SpanCover

/-!
# Extending spans over spans

One span is extended over another to the smallest that both lie within. Which span this is depends
on nothing but how spans lie within one another. So it makes no difference in which order spans are
taken, nor how often one of them comes.
-/

namespace SyntaxForest

namespace Span

lemma Within.antisymm {s t : Span} (hst : s.Within t) (hts : t.Within s) : s = t := by
  rcases s with ⟨start, length⟩
  rcases t with ⟨start', length'⟩
  simp only [Within, stop] at hst hts
  rw [Span.mk.injEq]
  omega

/-- The smallest span is the only one: the same spans have one cover, however they are listed. -/
lemma IsCover.unique {s t : Span} {parts others : List Span} (hs : s.IsCover parts)
    (ht : t.IsCover others) (h : ∀ part, part ∈ parts ↔ part ∈ others) : s = t := by
  apply Within.antisymm
  · apply hs.least
    intro part hpart
    exact ht.covers part ((h part).mp hpart)
  · apply ht.least
    intro part hpart
    exact hs.covers part ((h part).mpr hpart)

lemma isCover_extend (s t : Span) : (s.extend t).IsCover [s, t] :=
  (isCover_singleton s).extend (isCover_singleton t)

lemma extend_comm (s t : Span) : s.extend t = t.extend s := by
  apply (isCover_extend s t).unique (isCover_extend t s)
  exact fun part => (List.Perm.swap t s []).mem_iff

lemma extend_assoc (s t u : Span) : (s.extend t).extend u = s.extend (t.extend u) := by
  have hleft : ((s.extend t).extend u).IsCover [s, t, u] :=
    (isCover_extend s t).extend (isCover_singleton u)
  have hright : (s.extend (t.extend u)).IsCover [s, t, u] :=
    (isCover_singleton s).extend (isCover_extend t u)
  exact hleft.unique hright fun _ => Iff.rfl

lemma extend_self (s : Span) : s.extend s = s := by
  apply (isCover_extend s s).unique (isCover_singleton s)
  intro part
  simp only [List.mem_cons, List.not_mem_nil, or_false, or_self]

lemma foldl_extend_eq {s t : Span} {rest others : List Span}
    (h : ∀ part, part ∈ t :: others ↔ part ∈ s :: rest) :
    others.foldl extend t = rest.foldl extend s :=
  (isCover_foldl_extend t others).unique (isCover_foldl_extend s rest) h

/-- The spans that cover spans are found without a failed check, and each is the smallest there is.
So it does not matter how two or three spans are taken together, and spans that are folded into one
give the same one in any order, however often each is repeated. -/
theorem extend_smallest :
    (∀ s t : Span, s.extendChecked t = .ok (s.extend t) ∧ (s.extend t).IsCover [s, t]) ∧
    (∀ s t : Span, s.extend t = t.extend s) ∧
    (∀ s t u : Span, (s.extend t).extend u = s.extend (t.extend u)) ∧
    (∀ s : Span, s.extend s = s) ∧
    ∀ (s : Span) (rest : List Span),
      rest.foldlM extendChecked s = .ok (rest.foldl extend s) ∧
        (rest.foldl extend s).IsCover (s :: rest) ∧
        ∀ (t : Span) (others : List Span), (∀ part, part ∈ t :: others ↔ part ∈ s :: rest) →
          others.foldl extend t = rest.foldl extend s := by
  refine ⟨fun s t => ⟨extendChecked_eq s t, isCover_extend s t⟩, extend_comm, extend_assoc,
    extend_self, fun s rest => ⟨?_, ?_, ?_⟩⟩
  · exact foldlM_extendChecked_eq s rest
  · exact isCover_foldl_extend s rest
  · exact fun t others h => foldl_extend_eq h

/-- Empty spans count, too: the one at 9 lies beyond the two others. -/
theorem shuffledSpans_extend :
    [⟨9, 0⟩, ⟨4, 1⟩].foldlM extendChecked ⟨2, 3⟩ = .ok ⟨2, 7⟩ ∧
      [⟨2, 3⟩, ⟨4, 1⟩, ⟨9, 0⟩, ⟨2, 3⟩].foldl extend ⟨4, 1⟩ = ⟨2, 7⟩ := by
  obtain ⟨-, -, -, -, hfold⟩ := extend_smallest
  obtain ⟨hchecked, -, hsame⟩ := hfold ⟨2, 3⟩ [⟨9, 0⟩, ⟨4, 1⟩]
  refine ⟨hchecked, hsame ⟨4, 1⟩ [⟨2, 3⟩, ⟨4, 1⟩, ⟨9, 0⟩, ⟨2, 3⟩] fun part => ?_⟩
  simp only [List.mem_cons, List.not_mem_nil, or_false]
  tauto

lemma cover?_eq {parts others : List Span} (h : ∀ part, part ∈ parts ↔ part ∈ others) :
    cover? parts = cover? others := by
  cases parts with
  | nil =>
    have hnil : others = [] := List.eq_nil_iff_forall_not_mem.mpr fun part hpart => by
      cases (h part).mpr hpart
    rw [hnil]
  | cons s rest =>
    cases others with
    | nil => cases (h s).mp List.mem_cons_self
    | cons t others => exact congrArg some (foldl_extend_eq h)

end Span

/-- What the children take up matters for the span of a node, and not their order. A node that is a
child twice counts once. -/
theorem Extent.settle_eq {parts others : List Span} (h : ∀ part, part ∈ parts ↔ part ∈ others)
    (extent : Extent) : extent.settle parts = extent.settle others := by
  cases extent with
  | fixed span => rfl
  | stretched start => rw [settle, settle, Span.cover?_eq h]
  | fitted => rw [settle, settle, Span.cover?_eq h]

end SyntaxForest
