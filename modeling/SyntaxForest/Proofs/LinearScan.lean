import SyntaxForest.Proofs.Conversion

/-!
# Looking at every line

What the binary search of a line index finds, said by looking at each of its spans: how many of them
start at or before an offset, and which of them holds it.
-/

namespace SyntaxForest.LineIndex

/-- The number of a line that was found, and minus one if there is none. -/
def number : Option Nat → Int
  | some line => line
  | none => -1

lemma number_eq_natCast_iff {found : Option Nat} {line : Nat} :
    number found = line ↔ found = some line := by
  cases found with
  | none => simp only [number, reduceCtorEq]
  | some found => simp only [number, Option.some.injEq, Int.ofNat_inj]

lemma number_eq_neg_one_iff {found : Option Nat} : number found = -1 ↔ found = none := by
  cases found with
  | none => simp only [number]
  | some found => simp only [number, reduceCtorEq]

/-- An offset belongs to the line with the given number if it lies in the span of the line, the stop
excluded, or if it is the stop of the last line. -/
def BelongsTo (spans : List Span) (offset : Int) (line : Nat) : Prop :=
  ∃ s, spans[line]? = some s ∧
    ((s.start ≤ offset ∧ offset < s.stop) ∨ (line + 1 = spans.length ∧ offset = s.stop))

/-- Where a predicate holds of the first `count` items of a list and of no other, it holds of
`count` items. -/
lemma countP_eq_of_lt_iff {α : Type} {p : α → Bool} {l : List α} {count : Nat}
    (hcount : count ≤ l.length) (h : ∀ i a, l[i]? = some a → (i < count ↔ p a)) :
    l.countP p = count := by
  have hbefore : (l.take count).countP p = count := by
    rw [List.countP_eq_length.mpr, List.length_take, Nat.min_eq_left hcount]
    intro a ha
    obtain ⟨i, hi⟩ := List.mem_iff_getElem?.mp ha
    rw [List.getElem?_take] at hi
    split at hi
    · exact (h i a hi).mp ‹_›
    · cases hi
  have hbehind : (l.drop count).countP p = 0 := by
    rw [List.countP_eq_zero]
    intro a ha hp
    obtain ⟨i, hi⟩ := List.mem_iff_getElem?.mp ha
    rw [List.getElem?_drop] at hi
    have hlt := (h (count + i) a hi).mpr hp
    omega
  calc l.countP p = (l.take count).countP p + (l.drop count).countP p := by
        rw [← List.countP_append, List.take_append_drop]
    _ = count := by rw [hbefore, hbehind, Nat.add_zero]

/-- The line found for an offset is the last of those that start at or before it. -/
lemma number_lineAt? (index : LineIndex) (offset : Int) :
    number (index.lineAt? offset) =
      (index.spans.toList.countP fun s => s.start ≤ offset : Nat) - 1 := by
  obtain ⟨hbound, hcount⟩ := index.lt_firstBehind_all_iff offset
  have heq : (index.spans.toList.countP fun s => s.start ≤ offset) =
      firstBehind index.spans offset 0 index.spans.size (Nat.le_refl _) := by
    apply countP_eq_of_lt_iff hbound
    intro i s hs
    rw [Array.getElem?_toList] at hs
    rw [hcount i s hs, decide_eq_true_iff]
  rw [heq]
  unfold lineAt?
  generalize firstBehind index.spans offset 0 index.spans.size (Nat.le_refl _) = count
  cases count with
  | zero => rfl
  | succ line =>
    simp only [number]
    omega

lemma belongsTo_iff (index : LineIndex) (offset : Int) (line : Nat) :
    BelongsTo index.spans.toList offset line ↔
      ∃ s, index.lineHolding? offset = some (line, s) := by
  simp only [BelongsTo, lineHolding?_eq_some_iff, Array.getElem?_toList, Holds, size,
    Array.length_toList]

lemma lineHoldingVia_eq_lineHolding? {fetch : Fetch} {index : LineIndex} (hf : fetch.Faithful index)
    (offset : Int) : lineHoldingVia fetch index offset = .ok (index.lineHolding? offset) := by
  unfold lineHolding?
  rw [lineHoldingVia_eq hf, lineHoldingVia_eq index.get_faithful]
  rfl

/-- The search in an index of given spans agrees with a look at each of them. It finds the last span
that starts at or before the offset; and the line that the offset belongs to, of which there is at
most one, exactly if there is one. It looks for no line that is not there. -/
theorem search_eq_scan {spans : List Span} {index : LineIndex} (h : ofSpans spans = .ok index)
    (offset : Int) :
    number (index.lineAt? offset) = (spans.countP fun s => s.start ≤ offset : Nat) - 1 ∧
    (∀ fetch : Fetch, fetch.Faithful index →
      lineHoldingVia fetch index offset = .ok (index.lineHolding? offset)) ∧
    (∀ line : Nat, number ((index.lineHolding? offset).map Prod.fst) = line ↔
      BelongsTo spans offset line) ∧
    (∀ i j, BelongsTo spans offset i → BelongsTo spans offset j → i = j) ∧
    (number ((index.lineHolding? offset).map Prod.fst) = -1 ↔
      ∀ line, ¬BelongsTo spans offset line) := by
  obtain rfl := toList_of_ofSpans h
  have hbelongs : ∀ line, BelongsTo index.spans.toList offset line ↔
      (index.lineHolding? offset).map Prod.fst = some line := by
    intro line
    rw [belongsTo_iff, Option.map_eq_some_iff]
    simp
  refine ⟨index.number_lineAt? offset, fun fetch hf => lineHoldingVia_eq_lineHolding? hf offset,
    ?_, ?_, ?_⟩
  · intro line
    rw [number_eq_natCast_iff, hbelongs]
  · intro i j hi hj
    rw [hbelongs] at hi hj
    exact Option.some.inj (hi.symm.trans hj)
  · rw [number_eq_neg_one_iff, Option.eq_none_iff_forall_ne_some]
    simp only [hbelongs, ne_eq]

def touchingLines : LineIndex :=
  ⟨touchingSpans.toArray, by decide⟩

theorem touchingLines_scan :
    ofSpans touchingSpans = .ok touchingLines ∧
      number (touchingLines.lineAt? 3) = 2 ∧
      number ((touchingLines.lineHolding? 3).map Prod.fst) = -1 ∧
      BelongsTo touchingSpans 7 3 ∧
      number ((touchingLines.lineHolding? 7).map Prod.fst) = 3 := by
  have hindex : ofSpans touchingSpans = .ok touchingLines := rfl
  obtain ⟨starts, -, -, -, misses⟩ := search_eq_scan hindex 3
  obtain ⟨-, -, holds, -, -⟩ := search_eq_scan hindex 7
  have hlast : BelongsTo touchingSpans 7 3 := ⟨⟨5, 2⟩, rfl, .inr ⟨rfl, rfl⟩⟩
  refine ⟨hindex, starts, misses.mpr ?_, hlast, (holds 3).mpr hlast⟩
  rintro line ⟨s, hs, hoffset⟩
  match line with
  | 0 | 1 | 2 | 3 =>
    cases hs
    exact absurd hoffset (by decide)
  | line + 4 => cases hs

end SyntaxForest.LineIndex
