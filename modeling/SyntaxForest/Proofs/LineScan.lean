import Mathlib.Tactic.Common
import SyntaxForest.Proofs.Conversion

/-!
# Positions by scanning the text

The position of an offset can be read off the text without an index: the line is the number of
terminators that lie before the offset, and the column is the distance to the last of them. In the
index of a text the conversion gives this position to every offset of the text.
-/

namespace SyntaxForest

namespace Text

/-- Whether the character with the index `i` is the last one of a line terminator: a line feed, or a
carriage return that no line feed follows. So a carriage return with its line feed is one terminator
and ends with the line feed. -/
def EndsLine (text : List Char) (i : Nat) : Prop :=
  text[i]? = some '\n' ∨ (text[i]? = some '\r' ∧ text[i + 1]? ≠ some '\n')

instance (text : List Char) (i : Nat) : Decidable (EndsLine text i) :=
  inferInstanceAs (Decidable (_ ∨ _))

/-- The last characters of the line terminators that lie before an offset, in order. -/
def endsBefore (text : List Char) (offset : Nat) : List Nat :=
  (List.range offset).filter fun i => EndsLine text i

/-- Where the last of some line terminators ends; at the beginning of the text if there is none. -/
def startAfter (ends : List Nat) : Nat :=
  (ends.getLast?.map (· + 1)).getD 0

/-- The position of an offset as a plain scan of the text finds it. -/
def scan (text : List Char) (offset : Nat) : Position :=
  ⟨(endsBefore text offset).length, offset - startAfter (endsBefore text offset)⟩

/-! ### Terminators and lines -/

lemma flatten_pushFront (c : Char) (rows : List (List Char)) :
    (pushFront c rows).flatten = c :: rows.flatten := by
  cases rows <;> rfl

lemma flatten_lines (text : List Char) : (lines text).flatten = text := by
  fun_induction lines text with
  | case1 => rfl
  | case2 rest ih => simp [ih]
  | case3 c rest _ _ ih => simp [ih]
  | case4 c rest _ _ ih => rw [flatten_pushFront, ih]

lemma endsLine_cons_succ (c : Char) (rest : List Char) (i : Nat) :
    EndsLine (c :: rest) (i + 1) ↔ EndsLine rest i := by
  simp [EndsLine]

lemma endsBefore_cons (c : Char) (rest : List Char) (offset : Nat) :
    endsBefore (c :: rest) (offset + 1) =
      (if EndsLine (c :: rest) 0 then [0] else []) ++ (endsBefore rest offset).map (· + 1) := by
  unfold endsBefore
  rw [List.range_succ_eq_map, List.filter_cons, List.filter_map]
  have htail : ((fun i => decide (EndsLine (c :: rest) i)) ∘ Nat.succ) =
      fun i => decide (EndsLine rest i) := by
    funext i
    simp [endsLine_cons_succ]
  rw [htail]
  split <;> simp_all

lemma endsBefore_succ (text : List Char) (offset : Nat) :
    endsBefore text (offset + 1) =
      endsBefore text offset ++ if EndsLine text offset then [offset] else [] := by
  unfold endsBefore
  rw [List.range_succ, List.filter_append]
  by_cases h : EndsLine text offset <;> simp [h]

/-- A pair of a carriage return and a line feed is one terminator: the offset inside it is on the
line of the pair, the offset behind it begins the next one. -/
lemma scan_of_pair {text : List Char} {i : Nat} (hcr : text[i]? = some '\r')
    (hlf : text[i + 1]? = some '\n') :
    scan text (i + 1) = ⟨(scan text i).line, (scan text i).column + 1⟩ ∧
      scan text (i + 2) = ⟨(scan text i).line + 1, 0⟩ := by
  have hinner : ¬EndsLine text i := by simp [EndsLine, hcr, hlf]
  have hbreak : EndsLine text (i + 1) := .inl hlf
  have hbefore : endsBefore text (i + 1) = endsBefore text i := by
    rw [endsBefore_succ, if_neg hinner, List.append_nil]
  have hafter : endsBefore text (i + 2) = endsBefore text i ++ [i + 1] := by
    rw [endsBefore_succ, if_pos hbreak, hbefore]
  unfold scan
  rw [hbefore, hafter]
  constructor
  · simp only [Position.mk.injEq, true_and]
    omega
  · simp [startAfter]
    omega

end Text

namespace LineIndex

open Text

/-- Among the spans of the given rows, which follow one another from `start` on, the span with as
many others before it as there are terminators begins behind the last of them and holds the offset.
Offsets and terminators count from `start`. -/
def Locates (start : Nat) (rows : List (List Char)) (ends : List Nat) (offset : Nat) : Prop :=
  ∃ s, (spansFrom start (rows.map List.length))[ends.length]? = some s ∧
    s.start = start + startAfter ends ∧ s.start ≤ start + offset ∧
    (start + offset < s.stop ∨ (ends.length + 1 = rows.length ∧ start + offset = s.stop))

lemma locates_first {row : List Char} {offset : Nat} (h : offset < row.length) (start : Nat)
    (rows : List (List Char)) : Locates start (row :: rows) [] offset := by
  refine ⟨⟨start, row.length⟩, rfl, rfl, Nat.le_add_right _ _, .inl ?_⟩
  unfold Span.stop
  exact Nat.add_lt_add_left h start

lemma startAfter_map (k : Nat) {ends : List Nat} (h : ends ≠ []) :
    startAfter (ends.map (· + k)) = startAfter ends + k := by
  unfold startAfter
  rw [List.getLast?_map, List.getLast?_eq_some_getLast h]
  simp only [Option.map_some, Option.getD_some]
  omega

lemma startAfter_cons_map (k : Nat) (ends : List Nat) :
    startAfter (k :: ends.map (· + (k + 1))) = startAfter ends + (k + 1) := by
  cases ends with
  | nil => simp [startAfter]
  | cons first ends =>
    rw [← startAfter_map (k + 1) (List.cons_ne_nil first ends)]
    rfl

lemma Locates.behind {start : Nat} {row : List Char} {rows : List (List Char)} {ends : List Nat}
    {offset k : Nat} (hrow : row.length = k + 1) (h : Locates (start + (k + 1)) rows ends offset) :
    Locates start (row :: rows) (k :: ends.map (· + (k + 1))) (offset + (k + 1)) := by
  obtain ⟨s, hs, hstart, hle, hstop⟩ := h
  refine ⟨s, ?_, ?_, by omega, ?_⟩
  · simpa [spansFrom, hrow] using hs
  · rw [startAfter_cons_map]
    omega
  · simp only [List.length_cons, List.length_map]
    omega

lemma Locates.pushFront {start : Nat} {rows : List (List Char)} {ends : List Nat} {offset : Nat}
    (h : Locates (start + 1) rows ends offset) (c : Char) :
    Locates start (Text.pushFront c rows) (ends.map (· + 1)) (offset + 1) := by
  obtain ⟨s, hs, hstart, hle, hstop⟩ := h
  cases rows with
  | nil => cases hs
  | cons row rows =>
    cases ends with
    | nil =>
      cases hs
      refine ⟨⟨start, row.length + 1⟩, rfl, rfl, Nat.le_add_right _ _, ?_⟩
      simp only [Span.stop, List.length_nil, List.length_cons, Text.pushFront, List.map_nil]
        at hstop ⊢
      omega
    | cons first ends =>
      have hshift : start + 1 + row.length = start + (row.length + 1) := by omega
      refine ⟨s, ?_, ?_, by omega, ?_⟩
      · simpa [spansFrom, Text.pushFront, hshift] using hs
      · rw [startAfter_map 1 (List.cons_ne_nil first ends)]
        omega
      · simp only [List.length_map, List.length_cons, Text.pushFront] at hstop ⊢
        omega

/-- The induction follows the division into lines: a line ends and the rest is searched from there
on, or one character is put in front of the first line. -/
lemma locates_lines (text : List Char) (start offset : Nat) (h : offset ≤ text.length) :
    Locates start (lines text) (endsBefore text offset) offset := by
  fun_induction lines text generalizing start offset with
  | case1 =>
    obtain rfl : offset = 0 := by simpa using h
    exact ⟨⟨start, 0⟩, rfl, rfl, Nat.le_refl _, .inr ⟨rfl, rfl⟩⟩
  | case2 rest ih =>
    rcases offset with _ | _ | offset
    · exact locates_first (by simp) start _
    · exact locates_first (by simp) start _
    · have hends : endsBefore ('\r' :: '\n' :: rest) (offset + 2) =
          1 :: (endsBefore rest offset).map (· + 2) := by
        simp [endsBefore_cons, EndsLine]
      rw [hends]
      exact (ih (start + 2) offset (by simpa using h)).behind rfl
  | case3 c rest hlone hc ih =>
    cases offset with
    | zero => exact locates_first (by simp) start _
    | succ offset =>
      have hbreak : EndsLine (c :: rest) 0 := by
        rcases hc with rfl | rfl
        · exact .inl rfl
        · refine .inr ⟨rfl, fun hnext => ?_⟩
          obtain ⟨tail, rfl⟩ : ∃ tail, rest = '\n' :: tail := by
            cases rest with
            | nil => cases hnext
            | cons d tail => exact ⟨tail, by simpa using hnext⟩
          exact hlone tail rfl rfl
      rw [endsBefore_cons, if_pos hbreak]
      exact (ih (start + 1) offset (by simpa using h)).behind rfl
  | case4 c rest hlone hc ih =>
    cases offset with
    | zero =>
      obtain ⟨row, rows, hrows⟩ : ∃ row rows, pushFront c (lines rest) = (c :: row) :: rows := by
        cases lines rest with
        | nil => exact ⟨[], [], rfl⟩
        | cons row rows => exact ⟨row, rows, rfl⟩
      rw [hrows]
      exact locates_first (by simp) start _
    | succ offset =>
      have hinner : ¬EndsLine (c :: rest) 0 := by
        unfold EndsLine
        simp_all
      rw [endsBefore_cons, if_neg hinner]
      exact (ih (start + 1) offset (by simpa using h)).pushFront c

lemma length_spansFrom (start : Nat) (lengths : List Nat) :
    (spansFrom start lengths).length = lengths.length := by
  induction lengths generalizing start with
  | nil => rfl
  | cons length rest ih => rw [spansFrom, List.length_cons, List.length_cons, ih]

lemma stop_le_of_mem_spansFrom {start : Nat} {rows : List (List Char)} {s : Span}
    (h : s ∈ spansFrom start (rows.map List.length)) : s.stop ≤ start + rows.flatten.length := by
  induction rows generalizing start with
  | nil => cases h
  | cons row rest ih =>
    rw [List.flatten_cons, List.length_append]
    rcases List.mem_cons.mp h with rfl | h
    · change start + row.length ≤ _
      omega
    · have := ih h
      omega

/-! ### The index of a text -/

section OfText

variable (text : String)

lemma getElem?_spans_ofText (line : Nat) :
    (ofText text).spans[line]? =
      (spansFrom 0 ((lines text.toList).map List.length))[line]? := by
  rw [ofText, List.getElem?_toArray]

lemma size_ofText : (ofText text).size = (lines text.toList).length := by
  change (spansFrom 0 ((lines text.toList).map List.length)).length = _
  rw [length_spansFrom, List.length_map]

lemma places_scan (offset : Nat) (h : offset ≤ text.length) :
    (ofText text).Places (scan text.toList offset) offset := by
  have hle : offset ≤ text.toList.length := by rwa [String.length_toList]
  obtain ⟨s, hs, hstart, hfrom, hstop⟩ := locates_lines text.toList 0 offset hle
  rw [Nat.zero_add] at hstart hfrom hstop
  rw [← getElem?_spans_ofText] at hs
  refine ⟨_, s, hs, ?_, ?_⟩
  · unfold Holds
    rw [size_ofText]
    omega
  · rw [scan, hstart]

lemma bounds_of_places {p : Position} {offset : Int} (h : (ofText text).Places p offset) :
    0 ≤ offset ∧ offset ≤ text.length := by
  obtain ⟨line, s, hs, hholds, -⟩ := h
  rw [getElem?_spans_ofText] at hs
  have hstop := stop_le_of_mem_spansFrom (List.mem_of_getElem? hs)
  rw [flatten_lines, String.length_toList] at hstop
  unfold Holds at hholds
  omega

lemma positionOf?_ofText (offset : Int) :
    (ofText text).positionOf? offset =
      if 0 ≤ offset ∧ offset ≤ text.length then some (scan text.toList offset.toNat) else none := by
  by_cases hin : 0 ≤ offset ∧ offset ≤ text.length
  · rw [if_pos hin, positionOf?_eq_some_iff]
    have hplaces := places_scan text offset.toNat (by omega)
    rwa [Int.toNat_of_nonneg hin.1] at hplaces
  · rw [if_neg hin, Option.eq_none_iff_forall_ne_some]
    intro p hp
    exact hin (bounds_of_places text ((positionOf?_eq_some_iff _ _ _).mp hp))

end OfText

/-- In the index of a text an offset has a position exactly if it is an offset of the text, and it
is the position that a scan finds. The offset inside a pair of a carriage return and a line feed is
on the line that the pair ends. -/
theorem positionVia_ofText_eq_scan (text : String) :
    (∀ offset : Int, positionVia (ofText text).get (ofText text) offset =
      .ok (if 0 ≤ offset ∧ offset ≤ text.length
        then some (scan text.toList offset.toNat) else none)) ∧
    ∀ i : Nat, text.toList[i]? = some '\r' → text.toList[i + 1]? = some '\n' →
      ∃ line column, (ofText text).positionOf? i = some ⟨line, column⟩ ∧
        (ofText text).positionOf? (i + 1) = some ⟨line, column + 1⟩ ∧
        (ofText text).positionOf? (i + 2) = some ⟨line + 1, 0⟩ := by
  constructor
  · intro offset
    rw [positionVia_eq (get_faithful _), positionOf?_ofText]
  · intro i hcr hlf
    have hlt : i + 1 < text.length := by
      rw [← String.length_toList]
      exact (List.getElem?_eq_some_iff.mp hlf).1
    have hplace : ∀ offset ≤ text.length,
        (ofText text).positionOf? offset = some (scan text.toList offset) := by
      intro offset hle
      rw [positionOf?_ofText, if_pos (by omega), Int.toNat_natCast]
    obtain ⟨hsame, hnext⟩ := scan_of_pair hcr hlf
    exact ⟨_, _, hplace i (by omega), (hplace (i + 1) (by omega)).trans (congrArg some hsame),
      (hplace (i + 2) (by omega)).trans (congrArg some hnext)⟩

def mixedBreaks : String := "a\r\n\rb\n"

theorem mixedBreaks_positions :
    mixedBreaks.toList[1]? = some '\r' ∧ mixedBreaks.toList[2]? = some '\n' ∧
      (ofText mixedBreaks).positionOf? 1 = some ⟨0, 1⟩ ∧
      (ofText mixedBreaks).positionOf? 2 = some ⟨0, 2⟩ ∧
      (ofText mixedBreaks).positionOf? 3 = some ⟨1, 0⟩ := by
  have hcr : mixedBreaks.toList[1]? = some '\r' := by decide
  have hlf : mixedBreaks.toList[2]? = some '\n' := by decide
  obtain ⟨scanned, inside⟩ := positionVia_ofText_eq_scan mixedBreaks
  obtain ⟨line, column, hfirst, hsecond, hthird⟩ := inside 1 hcr hlf
  have hstart : (ofText mixedBreaks).positionOf? (1 : Nat) = some ⟨0, 1⟩ := by
    rw [positionOf?_ofText]
    decide
  cases hstart.symm.trans hfirst
  exact ⟨hcr, hlf, hstart, hsecond, hthird⟩

end LineIndex

end SyntaxForest
