import SyntaxForest.Proofs.LineOrder

/-!
# Search in a line index

The lines of an index never start before an earlier one does, so the lines that start at or before
an offset come first, and the binary search counts them. The line that an offset belongs to is the
last of them if there is any such line at all.
-/

namespace SyntaxForest.LineIndex

lemma precedes_of_lt (index : LineIndex) {i j : Nat} {s t : Span} (hs : index.spans[i]? = some s)
    (ht : index.spans[j]? = some t) (hij : i < j) : s.Precedes t := by
  rw [← Array.getElem?_toList] at hs ht
  exact pairwise_precedes_iff.mp index.ordered i j s t hij hs ht

lemma start_le_start_of_le (index : LineIndex) {i j : Nat} {s t : Span}
    (hs : index.spans[i]? = some s) (ht : index.spans[j]? = some t) (hij : i ≤ j) :
    s.start ≤ t.start := by
  rcases Nat.eq_or_lt_of_le hij with rfl | hlt
  · rw [hs] at ht
    cases ht
    exact Nat.le_refl _
  · have hst := index.precedes_of_lt hs ht hlt
    unfold Span.Precedes Span.stop at hst
    omega

/-- What the binary search comes to, whenever no line behind `low` starts after the offset and
none from `high` on starts at or before it. -/
theorem lt_firstBehind_iff (index : LineIndex) (offset : Int) (low high : Nat)
    (h : high ≤ index.spans.size) (hle : low ≤ high)
    (hlow : ∀ i s, index.spans[i]? = some s → i < low → s.start ≤ offset)
    (hhigh : ∀ i s, index.spans[i]? = some s → high ≤ i → offset < s.start) :
    firstBehind index.spans offset low high h ≤ high ∧
      ∀ i s, index.spans[i]? = some s →
        (i < firstBehind index.spans offset low high h ↔ s.start ≤ offset) := by
  fun_induction firstBehind index.spans offset low high h with
  | case1 low high h hlt middle hbehind ih =>
    have hm : index.spans[middle]? = some index.spans[middle] := Array.getElem?_eq_getElem _
    have hupper : ∀ i s, index.spans[i]? = some s → middle ≤ i → offset < s.start := by
      intro i s hs hi
      have := index.start_le_start_of_le hm hs hi
      omega
    obtain ⟨hbound, hcount⟩ := ih (by omega) hlow hupper
    exact ⟨by omega, hcount⟩
  | case2 low high h hlt middle hbefore ih =>
    have hm : index.spans[middle]? = some index.spans[middle] := Array.getElem?_eq_getElem _
    have hlower : ∀ i s, index.spans[i]? = some s → i < middle + 1 → s.start ≤ offset := by
      intro i s hs hi
      have := index.start_le_start_of_le hs hm (by omega)
      omega
    exact ih (by omega) hlower hhigh
  | case3 low high h hlt =>
    refine ⟨hle, fun i s hs => ?_⟩
    constructor
    · intro hi
      exact hlow i s hs hi
    · intro hi
      by_contra hge
      have := hhigh i s hs (by omega)
      omega

/-- The search over all lines. -/
lemma lt_firstBehind_all_iff (index : LineIndex) (offset : Int) :
    firstBehind index.spans offset 0 index.spans.size (Nat.le_refl _) ≤ index.spans.size ∧
      ∀ i s, index.spans[i]? = some s →
        (i < firstBehind index.spans offset 0 index.spans.size (Nat.le_refl _) ↔
          s.start ≤ offset) := by
  apply index.lt_firstBehind_iff offset 0 index.spans.size (Nat.le_refl _) (Nat.zero_le _)
  · intro i s _ hi
    exact absurd hi (Nat.not_lt_zero i)
  · intro i s hs hi
    obtain ⟨hlt, -⟩ := Array.getElem?_eq_some_iff.mp hs
    omega

/-- The line found for an offset starts at or before it, and all later lines start behind it. -/
theorem lineAt?_eq_some_iff (index : LineIndex) (offset : Int) (line : Nat) :
    index.lineAt? offset = some line ↔
      ∃ s, index.spans[line]? = some s ∧ s.start ≤ offset ∧
        ∀ i t, index.spans[i]? = some t → line < i → offset < t.start := by
  obtain ⟨hbound, hcount⟩ := index.lt_firstBehind_all_iff offset
  unfold lineAt?
  generalize firstBehind index.spans offset 0 index.spans.size (Nat.le_refl _) = count at *
  have hfetch : ∀ i, i < index.spans.size → index.spans[i]? = some index.spans[i]! := by
    intro i hi
    simp [hi]
  cases count with
  | zero =>
    simp only [reduceCtorEq, false_iff]
    rintro ⟨s, hs, hstart, -⟩
    exact absurd ((hcount line s hs).mpr hstart) (Nat.not_lt_zero _)
  | succ last =>
    simp only [Option.some.injEq]
    constructor
    · rintro rfl
      have hs := hfetch last (by omega)
      refine ⟨_, hs, (hcount last _ hs).mp (Nat.lt_succ_self _), ?_⟩
      intro i t ht hi
      by_contra hge
      have := (hcount i t ht).mpr (by omega)
      omega
    · rintro ⟨s, hs, hstart, hlater⟩
      have hle := (hcount line s hs).mpr hstart
      by_contra hne
      have ht := hfetch last (by omega)
      have hbehind := hlater last _ ht (by omega)
      have hbefore := (hcount last _ ht).mp (Nat.lt_succ_self _)
      omega

end SyntaxForest.LineIndex
