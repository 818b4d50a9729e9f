import SyntaxForest.Proofs.LineSearch

/-!
# Offsets and positions

The two conversions of a line index undo each other and keep the order. They ask for lines by
numbers that lines have, so that no lookup fails.
-/

namespace SyntaxForest.LineIndex

/-! ### Lookups -/

/-- A way to fetch lines that is right about the numbers of lines. About negative numbers and
numbers past the last line it may say anything. -/
def Fetch.Faithful (fetch : Fetch) (index : LineIndex) : Prop :=
  ∀ line : Int, 0 ≤ line → line < index.size → fetch line = index.get line

lemma get_faithful (index : LineIndex) : Fetch.Faithful index.get index :=
  fun _ _ _ => rfl

lemma get_of_getElem? (index : LineIndex) {line : Nat} {s : Span}
    (hs : index.spans[line]? = some s) : index.get line = .ok s := by
  have hline : ¬(line : Int) < 0 := by omega
  simp [get, hline, hs]

lemma Fetch.Faithful.apply {fetch : Fetch} {index : LineIndex} (hf : fetch.Faithful index)
    {line : Nat} {s : Span} (hs : index.spans[line]? = some s) : fetch line = .ok s := by
  obtain ⟨hlt, -⟩ := Array.getElem?_eq_some_iff.mp hs
  rw [hf line (by omega) (by unfold size; omega)]
  exact index.get_of_getElem? hs

lemma exists_span (index : LineIndex) {line : Nat} (h : line < index.size) :
    ∃ s, index.spans[line]? = some s :=
  ⟨_, Array.getElem?_eq_getElem h⟩

lemma exists_span_of_lineAt? (index : LineIndex) {offset : Int} {line : Nat}
    (h : index.lineAt? offset = some line) : ∃ s, index.spans[line]? = some s := by
  obtain ⟨s, hs, -⟩ := (index.lineAt?_eq_some_iff offset line).mp h
  exact ⟨s, hs⟩

lemma lineHoldingVia_eq {fetch : Fetch} {index : LineIndex} (hf : fetch.Faithful index)
    (offset : Int) :
    lineHoldingVia fetch index offset =
      .ok ((index.lineAt? offset).bind fun line => index.spans[line]?.bind fun s =>
        if index.Holds line s offset then some (line, s) else none) := by
  unfold lineHoldingVia
  cases hline : index.lineAt? offset with
  | none => rfl
  | some line =>
    obtain ⟨s, hs⟩ := index.exists_span_of_lineAt? hline
    simp only [hf.apply hs, hs, Option.bind_some]
    rfl

lemma offsetVia_eq {fetch : Fetch} {index : LineIndex} (hf : fetch.Faithful index)
    (p : Position) : offsetVia fetch index p = .ok (index.offsetOf? p) := by
  unfold offsetOf? offsetVia
  by_cases hguard : p.line < 0 ∨ p.column < 0 ∨ (index.size : Int) ≤ p.line
  · rw [if_pos hguard, if_pos hguard]
    rfl
  · obtain ⟨line, hline⟩ := Int.eq_ofNat_of_zero_le (show 0 ≤ p.line by omega)
    obtain ⟨s, hs⟩ := index.exists_span (show line < index.size by omega)
    rw [if_neg hguard, if_neg hguard, hline, hf.apply hs, index.get_of_getElem? hs]
    rfl

lemma positionVia_eq {fetch : Fetch} {index : LineIndex} (hf : fetch.Faithful index)
    (offset : Int) : positionVia fetch index offset = .ok (index.positionOf? offset) := by
  unfold positionOf? positionVia
  rw [lineHoldingVia_eq hf, lineHoldingVia_eq index.get_faithful]
  by_cases hguard : offset < index.start ∨ index.stop < offset
  · rw [if_pos hguard]
    rfl
  · rw [if_neg hguard]
    rfl

/-! ### One relation for both directions -/

/-- A position stands for an offset if its line holds the offset and its column is the distance
from the start of the line. -/
def Places (index : LineIndex) (p : Position) (offset : Int) : Prop :=
  ∃ (line : Nat) (s : Span), index.spans[line]? = some s ∧ index.Holds line s offset ∧
    p = ⟨line, offset - s.start⟩

lemma lineAt?_of_holds (index : LineIndex) {offset : Int} {line : Nat} {s : Span}
    (hs : index.spans[line]? = some s) (h : index.Holds line s offset) :
    index.lineAt? offset = some line := by
  rw [lineAt?_eq_some_iff]
  refine ⟨s, hs, ?_, ?_⟩
  · rcases h with ⟨hstart, -⟩ | ⟨-, rfl⟩
    · exact hstart
    · unfold Span.stop
      omega
  · intro i t ht hi
    have hst := index.precedes_of_lt hs ht hi
    obtain ⟨hlt, -⟩ := Array.getElem?_eq_some_iff.mp ht
    unfold Span.Precedes at hst
    rcases h with ⟨-, hstop⟩ | ⟨hlast, -⟩
    · omega
    · unfold size at hlast
      omega

lemma lineHolding?_eq_some_iff (index : LineIndex) (offset : Int) (line : Nat) (s : Span) :
    index.lineHolding? offset = some (line, s) ↔
      index.spans[line]? = some s ∧ index.Holds line s offset := by
  have hvia : index.lineHolding? offset = (index.lineAt? offset).bind fun line =>
      index.spans[line]?.bind fun s =>
        if index.Holds line s offset then some (line, s) else none := by
    unfold lineHolding?
    rw [lineHoldingVia_eq index.get_faithful]
    rfl
  rw [hvia]
  constructor
  · intro h
    obtain ⟨line', -, h⟩ := Option.bind_eq_some_iff.mp h
    obtain ⟨s', hs, h⟩ := Option.bind_eq_some_iff.mp h
    by_cases hholds : index.Holds line' s' offset
    · rw [if_pos hholds] at h
      cases h
      exact ⟨hs, hholds⟩
    · rw [if_neg hholds] at h
      cases h
  · rintro ⟨hs, hholds⟩
    rw [index.lineAt?_of_holds hs hholds, Option.bind_some, hs, Option.bind_some, if_pos hholds]

lemma bounds_of_holds (index : LineIndex) {offset : Int} {line : Nat} {s : Span}
    (hs : index.spans[line]? = some s) (h : index.Holds line s offset) :
    index.start ≤ offset ∧ offset ≤ index.stop := by
  have hmem : s ∈ index.spans.toList := Array.mem_toList_iff.mpr (Array.mem_of_getElem? hs)
  have hstart := index.start_le_of_mem hmem
  have hstop := index.stop_le_of_mem hmem
  unfold Holds Span.stop at h
  unfold Span.stop at hstop
  omega

theorem positionOf?_eq_some_iff (index : LineIndex) (offset : Int) (p : Position) :
    index.positionOf? offset = some p ↔ index.Places p offset := by
  have hvia : index.positionOf? offset =
      if offset < index.start ∨ index.stop < offset then none
      else (index.lineHolding? offset).map fun held => ⟨held.1, offset - held.2.start⟩ := by
    unfold positionOf? positionVia lineHolding?
    rw [lineHoldingVia_eq index.get_faithful]
    by_cases hguard : offset < index.start ∨ index.stop < offset
    · rw [if_pos hguard, if_pos hguard]
      rfl
    · rw [if_neg hguard, if_neg hguard]
      rfl
  rw [hvia]
  constructor
  · intro h
    by_cases hguard : offset < index.start ∨ index.stop < offset
    · rw [if_pos hguard] at h
      cases h
    · rw [if_neg hguard] at h
      obtain ⟨⟨line, s⟩, hholding, rfl⟩ := Option.map_eq_some_iff.mp h
      obtain ⟨hs, hholds⟩ := (index.lineHolding?_eq_some_iff offset line s).mp hholding
      exact ⟨line, s, hs, hholds, rfl⟩
  · rintro ⟨line, s, hs, hholds, rfl⟩
    obtain ⟨hlow, hhigh⟩ := index.bounds_of_holds hs hholds
    rw [if_neg (by omega), (index.lineHolding?_eq_some_iff offset line s).mpr ⟨hs, hholds⟩]
    rfl

theorem offsetOf?_eq_some_iff (index : LineIndex) (p : Position) (offset : Nat) :
    index.offsetOf? p = some offset ↔ index.Places p offset := by
  unfold offsetOf? offsetVia
  by_cases hguard : p.line < 0 ∨ p.column < 0 ∨ (index.size : Int) ≤ p.line
  · rw [if_pos hguard]
    simp only [Except.toOption, Option.join_some, reduceCtorEq, false_iff]
    rintro ⟨line, s, hs, hholds, rfl⟩
    obtain ⟨hlt, -⟩ := Array.getElem?_eq_some_iff.mp hs
    unfold Holds Span.stop at hholds
    unfold size at hguard
    dsimp only at hguard
    omega
  · obtain ⟨line, hline⟩ := Int.eq_ofNat_of_zero_le (show 0 ≤ p.line by omega)
    obtain ⟨s, hs⟩ := index.exists_span (show line < index.size by omega)
    obtain ⟨column, hcolumn⟩ := Int.eq_ofNat_of_zero_le (show 0 ≤ p.column by omega)
    have hp : p = ⟨line, column⟩ := by rw [← hline, ← hcolumn]
    rw [if_neg hguard, hline, hcolumn, index.get_of_getElem? hs, hp]
    change (if (s.length : Int) < column ∨
        ((column : Int) = s.length ∧ (line : Int) + 1 ≠ index.size)
      then none else some (s.start + (column : Int).toNat)) = some offset ↔ _
    constructor
    · intro h
      by_cases hpast : (s.length : Int) < column ∨
          ((column : Int) = s.length ∧ (line : Int) + 1 ≠ index.size)
      · rw [if_pos hpast] at h
        cases h
      · rw [if_neg hpast] at h
        cases h
        refine ⟨line, s, hs, ?_, ?_⟩
        · unfold Holds Span.stop
          omega
        · rw [Position.mk.injEq]
          omega
    · rintro ⟨line', s', hs', hholds, hplace⟩
      rw [Position.mk.injEq] at hplace
      obtain ⟨hsame, hdistance⟩ := hplace
      cases Int.ofNat.inj hsame
      rw [hs] at hs'
      cases hs'
      unfold Holds Span.stop at hholds
      rw [if_neg (by omega), Option.some.injEq]
      omega

/-- Of two places the one that is read first has the smaller offset: a line ends before the next
one starts, and the last line is the only one that holds its end. -/
lemma precedes_iff_of_places (index : LineIndex) {p q : Position} {a b : Int}
    (hp : index.Places p a) (hq : index.Places q b) : p.Precedes q ↔ a < b := by
  obtain ⟨i, s, hs, hholds, rfl⟩ := hp
  obtain ⟨j, t, ht, hholds', rfl⟩ := hq
  obtain ⟨hi, -⟩ := Array.getElem?_eq_some_iff.mp hs
  obtain ⟨hj, -⟩ := Array.getElem?_eq_some_iff.mp ht
  unfold Position.Precedes
  unfold Holds size Span.stop at hholds hholds'
  dsimp only
  rcases Nat.lt_trichotomy i j with hlt | rfl | hgt
  · have hst := index.precedes_of_lt hs ht hlt
    unfold Span.Precedes Span.stop at hst
    omega
  · rw [hs] at ht
    cases ht
    omega
  · have hts := index.precedes_of_lt ht hs hgt
    unfold Span.Precedes Span.stop at hts
    omega

/-- Between offsets and positions of a line index there is a partial correspondence that is one to
one and keeps the order. Neither direction asks for a line that is not there, nor counts lines from
the end: a way to fetch lines that is right about the numbers of lines serves both of them, whatever
it does on other numbers. -/
theorem conversions_inverse_and_ordered (index : LineIndex) :
    (∀ (p : Position) (offset : Int),
      index.positionOf? offset = some p ↔ (index.offsetOf? p).map Int.ofNat = some offset) ∧
    (∀ (p q : Position) (a b : Nat), index.offsetOf? p = some a → index.offsetOf? q = some b →
      (p.Precedes q ↔ a < b)) ∧
    (∀ fetch : Fetch, fetch.Faithful index →
      (∀ p, offsetVia fetch index p = .ok (index.offsetOf? p)) ∧
      ∀ offset, positionVia fetch index offset = .ok (index.positionOf? offset)) := by
  refine ⟨?_, ?_, ?_⟩
  · intro p offset
    rw [positionOf?_eq_some_iff, Option.map_eq_some_iff]
    constructor
    · intro h
      obtain ⟨line, s, hs, hholds, -⟩ := id h
      have hnonneg := (index.bounds_of_holds hs hholds).1
      obtain ⟨n, rfl⟩ := Int.eq_ofNat_of_zero_le (show 0 ≤ offset by omega)
      exact ⟨n, (index.offsetOf?_eq_some_iff p n).mpr h, rfl⟩
    · rintro ⟨n, hn, rfl⟩
      exact (index.offsetOf?_eq_some_iff p n).mp hn
  · intro p q a b hp hq
    have h := index.precedes_iff_of_places ((index.offsetOf?_eq_some_iff p a).mp hp)
      ((index.offsetOf?_eq_some_iff q b).mp hq)
    rw [h]
    exact Int.ofNat_lt
  · intro fetch hf
    exact ⟨offsetVia_eq hf, positionVia_eq hf⟩

/-- Fetches lines by their numbers and refuses any other number. -/
def strictFetch (index : LineIndex) : Fetch :=
  fun line => if 0 ≤ line ∧ line < index.size then index.get line else .error .outOfRange

lemma strictFetch_faithful (index : LineIndex) : index.strictFetch.Faithful index :=
  fun _ hnonneg hlt => if_pos ⟨hnonneg, hlt⟩

def gappedLines : LineIndex :=
  ⟨#[⟨0, 3⟩, ⟨3, 0⟩, ⟨5, 2⟩, ⟨9, 0⟩], by decide⟩

theorem gappedLines_conversions :
    gappedLines.offsetOf? ⟨2, 1⟩ = some 6 ∧ gappedLines.positionOf? 6 = some ⟨2, 1⟩ ∧
      gappedLines.offsetOf? ⟨3, 0⟩ = some 9 ∧ ((⟨2, 1⟩ : Position).Precedes ⟨3, 0⟩ ↔ 6 < 9) ∧
      gappedLines.strictFetch.Faithful gappedLines ∧
      positionVia gappedLines.strictFetch gappedLines 4 = .ok (gappedLines.positionOf? 4) := by
  obtain ⟨inverse, ordered, total⟩ := conversions_inverse_and_ordered gappedLines
  have hfaithful := gappedLines.strictFetch_faithful
  refine ⟨rfl, ?_, rfl, ?_, hfaithful, ?_⟩
  · exact (inverse ⟨2, 1⟩ 6).mpr rfl
  · exact ordered ⟨2, 1⟩ ⟨3, 0⟩ 6 9 rfl rfl
  · exact (total gappedLines.strictFetch hfaithful).2 4

end SyntaxForest.LineIndex
