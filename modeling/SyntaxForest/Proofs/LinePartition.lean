import SyntaxForest.Proofs.LineOrder
import SyntaxForest.Proofs.LineScan
import SyntaxForest.Proofs.SpanCheck

/-!
# Partition of a text into lines

The spans in the index of a text follow one another from its beginning to its end. Each but the last
covers a piece without line breaks and one terminator, the last one a piece without line breaks, and
no other list of spans is like this. Every text is built up from such lines, so what is said here is
proved by induction on the lines of a text.
-/

namespace SyntaxForest

/-- The piece of a text that a span covers. -/
def Span.slice (s : Span) (text : List Char) : List Char :=
  (text.drop s.start).take s.length

namespace Text

def Unbroken (piece : List Char) : Prop :=
  '\n' ∉ piece ∧ '\r' ∉ piece

/-- A line terminator with the text that follows it. Before a line feed a carriage return is only
the first half of one. -/
inductive Terminates : List Char → List Char → Prop where
  | lineFeed (rest : List Char) : Terminates ['\n'] rest
  | pair (rest : List Char) : Terminates ['\r', '\n'] rest
  | carriageReturn {rest : List Char} : rest.head? ≠ some '\n' → Terminates ['\r'] rest

/-! ### Induction on the lines of a text -/

lemma unbroken_nil : Unbroken [] :=
  ⟨List.not_mem_nil, List.not_mem_nil⟩

lemma unbroken_cons {c : Char} {piece : List Char} :
    Unbroken (c :: piece) ↔ ¬(c = '\n' ∨ c = '\r') ∧ Unbroken piece := by
  unfold Unbroken
  simp only [List.mem_cons, not_or, eq_comm (b := c)]
  tauto

lemma length_pos_of_terminates {terminator rest : List Char} (h : Terminates terminator rest) :
    0 < terminator.length := by
  cases h <;> exact Nat.succ_pos _

/-- The first line break of a text, if there is one, is or begins a terminator. -/
lemma unbroken_or_line (text : List Char) :
    Unbroken text ∨ ∃ body terminator rest, text = body ++ (terminator ++ rest) ∧
      Unbroken body ∧ Terminates terminator rest := by
  induction text with
  | nil => exact .inl unbroken_nil
  | cons c text ih =>
    by_cases hc : c = '\n' ∨ c = '\r'
    · right
      rcases hc with rfl | rfl
      · exact ⟨[], ['\n'], text, rfl, unbroken_nil, .lineFeed text⟩
      · by_cases hnext : text.head? = some '\n'
        · obtain ⟨rest, rfl⟩ := List.head?_eq_some_iff.mp hnext
          exact ⟨[], ['\r', '\n'], rest, rfl, unbroken_nil, .pair rest⟩
        · exact ⟨[], ['\r'], text, rfl, unbroken_nil, .carriageReturn hnext⟩
    · rcases ih with hplain | ⟨body, terminator, rest, rfl, hbody, hterminator⟩
      · exact .inl (unbroken_cons.mpr ⟨hc, hplain⟩)
      · exact .inr ⟨c :: body, terminator, rest, rfl, unbroken_cons.mpr ⟨hc, hbody⟩, hterminator⟩

/-- What holds of texts without line breaks, and of a text whenever it holds of the text behind its
first terminator, holds of all texts. -/
theorem line_induction {motive : List Char → Prop}
    (unbroken : ∀ body, Unbroken body → motive body)
    (line : ∀ body terminator rest, Unbroken body → Terminates terminator rest → motive rest →
      motive (body ++ (terminator ++ rest))) (text : List Char) : motive text := by
  rcases unbroken_or_line text with h | ⟨body, terminator, rest, htext, hbody, hterminator⟩
  · exact unbroken text h
  · rw [htext]
    exact line body terminator rest hbody hterminator (line_induction unbroken line rest)
termination_by text.length
decreasing_by
  have := length_pos_of_terminates hterminator
  rw [htext, List.length_append, List.length_append]
  omega

/-! ### The lines of a text -/

lemma lines_ne_nil (text : List Char) : lines text ≠ [] := by
  fun_cases lines text with
  | case1 => exact List.cons_ne_nil _ _
  | case2 rest => exact List.cons_ne_nil _ _
  | case3 c rest _ _ => exact List.cons_ne_nil _ _
  | case4 c rest _ _ => cases lines rest <;> exact List.cons_ne_nil _ _

lemma pushFront_eq_modifyHead (c : Char) {rows : List (List Char)} (h : rows ≠ []) :
    pushFront c rows = rows.modifyHead (c :: ·) := by
  cases rows with
  | nil => exact absurd rfl h
  | cons row rows => rfl

/-- Text without line breaks goes to the front of the first line of what follows it. -/
lemma lines_unbroken_append {body : List Char} (h : Unbroken body) (rest : List Char) :
    lines (body ++ rest) = (lines rest).modifyHead (body ++ ·) := by
  induction body with
  | nil =>
    cases hrows : lines rest with
    | nil => exact absurd hrows (lines_ne_nil rest)
    | cons row rows => simp [hrows]
  | cons c body ih =>
    obtain ⟨hc, hbody⟩ := unbroken_cons.mp h
    have hcons : lines (c :: (body ++ rest)) = pushFront c (lines (body ++ rest)) := by
      rw [lines, if_neg hc]
      rintro tail rfl
      exact absurd (.inr rfl) hc
    rw [List.cons_append, hcons, pushFront_eq_modifyHead c (lines_ne_nil _), ih hbody,
      List.modifyHead_modifyHead]
    rfl

lemma lines_of_unbroken {body : List Char} (h : Unbroken body) : lines body = [body] := by
  have hlines := lines_unbroken_append h []
  rwa [List.append_nil, show lines [] = [[]] from rfl, List.modifyHead_cons,
    List.append_nil] at hlines

lemma lines_terminator {terminator rest : List Char} (h : Terminates terminator rest) :
    lines (terminator ++ rest) = terminator :: lines rest := by
  cases h with
  | lineFeed => simp [lines]
  | pair => simp [lines]
  | carriageReturn hnext =>
    cases rest with
    | nil => simp [lines]
    | cons d rest =>
      have hd : d ≠ '\n' := by simpa using hnext
      simp [lines, hd]

lemma lines_line {body terminator rest : List Char} (hbody : Unbroken body)
    (hterminator : Terminates terminator rest) :
    lines (body ++ (terminator ++ rest)) = (body ++ terminator) :: lines rest := by
  rw [lines_unbroken_append hbody, lines_terminator hterminator, List.modifyHead_cons]

end Text

namespace LineIndex

open Text

/-- A span that covers a piece without line breaks and the one terminator behind it. -/
def CoversLine (text : List Char) (s : Span) : Prop :=
  ∃ body terminator, s.slice text = body ++ terminator ∧ Unbroken body ∧
    Terminates terminator (text.drop s.stop)

/-- Spans that cut a text into lines from an offset on. They follow one another up to the end of the
text, and all but the last cover lines with their terminators. -/
structure Partitions (text : List Char) (start : Nat) (spans : List Span) : Prop where
  starts : spans.head?.map Span.start = some start
  contiguous : spans.IsChain fun s t => s.stop = t.start
  stops : spans.getLast?.map Span.stop = some text.length
  terminated : ∀ s ∈ spans.dropLast, CoversLine text s
  unbroken : ∀ s ∈ spans.getLast?, Unbroken (s.slice text)

/-! ### One list of spans for each text -/

section Partitions

variable {text : List Char} {start : Nat} {s t : Span} {rest spans : List Span}

lemma partitions_singleton :
    Partitions text start [s] ↔
      s.start = start ∧ s.stop = text.length ∧ Unbroken (s.slice text) := by
  constructor
  · intro h
    exact ⟨by simpa using h.starts, by simpa using h.stops, h.unbroken s rfl⟩
  · rintro ⟨hstart, hstop, hpiece⟩
    exact ⟨by simpa using hstart, .singleton s, by simpa using hstop, by simp,
      by simpa using hpiece⟩

lemma partitions_cons_cons :
    Partitions text start (s :: t :: rest) ↔
      s.start = start ∧ CoversLine text s ∧ Partitions text s.stop (t :: rest) := by
  constructor
  · intro h
    obtain ⟨hnext, hchain⟩ := List.isChain_cons_cons.mp h.contiguous
    refine ⟨by simpa using h.starts, h.terminated s (by simp), ?_⟩
    refine ⟨by simp [hnext], hchain, by simpa using h.stops, ?_, by simpa using h.unbroken⟩
    intro u hu
    apply h.terminated
    rw [List.dropLast_cons_cons]
    exact List.mem_cons_of_mem s hu
  · rintro ⟨hstart, hline, h⟩
    have hnext : s.stop = t.start := by simpa [eq_comm] using h.starts
    refine ⟨by simpa using hstart, .cons_cons hnext h.contiguous, by simpa using h.stops, ?_,
      by simpa using h.unbroken⟩
    rw [List.dropLast_cons_cons]
    exact List.forall_mem_cons.mpr ⟨hline, h.terminated⟩

lemma Partitions.start_le (h : Partitions text start spans) : start ≤ text.length := by
  induction spans generalizing start with
  | nil => simpa using h.starts
  | cons s rest ih =>
    have hstop : s.stop ≤ text.length := by
      cases rest with
      | nil => exact Nat.le_of_eq (partitions_singleton.mp h).2.1
      | cons t rest => exact ih (partitions_cons_cons.mp h).2.2
    have hstart : s.start = start := by simpa using h.starts
    unfold Span.stop at hstop
    omega

lemma append_drop_of_slice {piece : List Char} (h : s.slice text = piece) :
    text.drop s.start = piece ++ text.drop s.stop := by
  rw [← h, Span.slice, Span.stop, ← List.drop_drop, List.take_append_drop]

lemma length_slice (h : s.stop ≤ text.length) : (s.slice text).length = s.length := by
  unfold Span.stop at h
  rw [Span.slice, List.length_take, List.length_drop]
  omega

/-- The induction is on the spans: behind the first of them the rest cuts the rest of the text. -/
theorem Partitions.eq_spansFrom (h : Partitions text start spans) :
    spans = spansFrom start ((lines (text.drop start)).map List.length) := by
  induction spans generalizing start with
  | nil => simpa using h.starts
  | cons s rest ih =>
    cases rest with
    | nil =>
      -- the last span covers all that is left of the text
      obtain ⟨rfl, hstop, hpiece⟩ := partitions_singleton.mp h
      have hdrop : text.drop s.start = s.slice text ++ text.drop s.stop := append_drop_of_slice rfl
      rw [List.drop_of_length_le (Nat.le_of_eq hstop.symm), List.append_nil] at hdrop
      rw [hdrop, lines_of_unbroken hpiece, List.map_singleton, length_slice (Nat.le_of_eq hstop)]
      rfl
    | cons t rest =>
      obtain ⟨rfl, ⟨body, terminator, hslice, hbody, hterminator⟩, hrest⟩ :=
        partitions_cons_cons.mp h
      have hlength := length_slice hrest.start_le
      rw [append_drop_of_slice hslice, List.append_assoc, lines_line hbody hterminator,
        List.map_cons, spansFrom, ← hslice, hlength, ih hrest]
      rfl

/-- The induction is on the lines of the text behind `front`. -/
theorem partitions_spansFrom (front rest : List Char) :
    Partitions (front ++ rest) front.length
      (spansFrom front.length ((lines rest).map List.length)) := by
  induction rest using line_induction generalizing front with
  | unbroken body hbody =>
    rw [lines_of_unbroken hbody]
    exact partitions_singleton.mpr ⟨rfl, by simp [Span.stop], by simpa [Span.slice] using hbody⟩
  | line body terminator rest hbody hterminator ih =>
    rw [lines_line hbody hterminator, List.map_cons, spansFrom]
    have hrest := ih (front ++ (body ++ terminator))
    have htext : front ++ (body ++ (terminator ++ rest)) =
        front ++ (body ++ terminator) ++ rest := by simp
    have hlength : (front ++ (body ++ terminator)).length =
        front.length + (body ++ terminator).length := List.length_append
    rw [← htext, hlength] at hrest
    -- there is a next span, since even the empty text has a line
    cases hspans : spansFrom (front.length + (body ++ terminator).length)
        ((lines rest).map List.length) with
    | nil =>
      rw [hspans] at hrest
      simpa using hrest.starts
    | cons t spans =>
      rw [hspans] at hrest
      refine partitions_cons_cons.mpr ⟨rfl, ⟨body, terminator, ?_, hbody, ?_⟩, hrest⟩
      · rw [Span.slice, List.drop_left, ← List.append_assoc, List.take_left]
      · rw [htext, Span.stop, ← hlength, List.drop_left]
        exact hterminator

end Partitions

/-- The pieces that the spans of some rows cover are these rows. -/
lemma slices_spansFrom (front : List Char) (rows : List (List Char)) :
    (spansFrom front.length (rows.map List.length)).map (Span.slice · (front ++ rows.flatten)) =
      rows := by
  induction rows generalizing front with
  | nil => rfl
  | cons row rows ih =>
    have hrest := ih (front ++ row)
    rw [List.length_append, List.append_assoc] at hrest
    rw [List.map_cons, spansFrom, List.map_cons, List.flatten_cons, hrest]
    simp [Span.slice]

/-! ### Checked spans -/

/-- The spans of the lines of a text in one pass over its characters, which knows the offset where
the current line starts and the offset of the next character. Every span is checked when its line
ends. -/
def spansChecked (lineStart offset : Nat) : List Char → Except Fault (List Span)
  | [] => do return [← Span.betweenChecked lineStart offset]
  | '\r' :: '\n' :: rest => do
    let s ← Span.betweenChecked lineStart (offset + 2)
    return s :: (← spansChecked (offset + 2) (offset + 2) rest)
  | c :: rest =>
    if c = '\n' ∨ c = '\r' then do
      let s ← Span.betweenChecked lineStart (offset + 1)
      return s :: (← spansChecked (offset + 1) (offset + 1) rest)
    else spansChecked lineStart (offset + 1) rest

/-- The index of a text with all checks that an index of given spans has to pass. -/
def ofTextChecked (text : String) : Except Fault LineIndex := do
  ofSpans (← spansChecked 0 0 text.toList)

lemma spansChecked_unbroken_append {body : List Char} (h : Unbroken body) (rest : List Char)
    (lineStart offset : Nat) :
    spansChecked lineStart offset (body ++ rest) =
      spansChecked lineStart (offset + body.length) rest := by
  induction body generalizing offset with
  | nil => rfl
  | cons c body ih =>
    obtain ⟨hc, hbody⟩ := unbroken_cons.mp h
    have hcons : spansChecked lineStart offset (c :: (body ++ rest)) =
        spansChecked lineStart (offset + 1) (body ++ rest) := by
      rw [spansChecked, if_neg hc]
      rintro tail rfl
      exact absurd (.inr rfl) hc
    rw [List.cons_append, hcons, ih hbody, List.length_cons, Nat.add_right_comm, Nat.add_assoc]

lemma spansChecked_terminator {terminator rest : List Char} (h : Terminates terminator rest)
    (lineStart offset : Nat) :
    spansChecked lineStart offset (terminator ++ rest) = (do
      let s ← Span.betweenChecked lineStart (offset + terminator.length)
      return s ::
        (← spansChecked (offset + terminator.length) (offset + terminator.length) rest)) := by
  cases h with
  | lineFeed => simp [spansChecked]
  | pair => simp [spansChecked]
  | carriageReturn hnext =>
    cases rest with
    | nil => simp [spansChecked]
    | cons d rest =>
      have hd : d ≠ '\n' := by simpa using hnext
      simp [spansChecked, hd]

/-- A line starts where the offset is when it starts, so that no length is negative. -/
theorem spansChecked_eq (start : Nat) (text : List Char) :
    spansChecked start start text = .ok (spansFrom start ((lines text).map List.length)) := by
  induction text using line_induction generalizing start with
  | unbroken body hbody =>
    have hchecked := spansChecked_unbroken_append hbody [] start start
    rw [List.append_nil] at hchecked
    rw [hchecked, lines_of_unbroken hbody, spansChecked, Span.betweenChecked_add]
    rfl
  | line body terminator rest hbody hterminator ih =>
    rw [spansChecked_unbroken_append hbody, spansChecked_terminator hterminator, Nat.add_assoc,
      ← List.length_append, Span.betweenChecked_add, ih, lines_line hbody hterminator]
    rfl

theorem ofTextChecked_eq (text : String) : ofTextChecked text = .ok (ofText text) := by
  rw [ofTextChecked, spansChecked_eq]
  exact ofSpans_of_pairwise (pairwise_precedes_spansFrom 0 _)

/-! ### The index of a text -/

lemma toList_spans_ofText (text : String) :
    (ofText text).spans.toList = spansFrom 0 ((lines text.toList).map List.length) :=
  rfl

/-- The spans in the index of a text cut it into its lines and are the only ones that do, the pieces
that they cover make up the text, and none of them fails a check. -/
theorem partitions_iff_eq_ofText (text : String) :
    (∀ spans, Partitions text.toList 0 spans ↔ spans = (ofText text).spans.toList) ∧
    ((ofText text).spans.toList.map (Span.slice · text.toList)).flatten = text.toList ∧
    ofTextChecked text = .ok (ofText text) := by
  refine ⟨fun spans => ⟨fun h => h.eq_spansFrom, ?_⟩, ?_, ofTextChecked_eq text⟩
  · rintro rfl
    exact partitions_spansFrom [] text.toList
  · have hslices := slices_spansFrom [] (lines text.toList)
    rw [List.nil_append, List.length_nil, flatten_lines] at hslices
    rw [toList_spans_ofText, hslices, flatten_lines]

example : (ofText "\r\r\n\n\ra\r").spans.toList =
    [⟨0, 1⟩, ⟨1, 2⟩, ⟨3, 1⟩, ⟨4, 1⟩, ⟨5, 2⟩, ⟨7, 0⟩] := by decide

end LineIndex

end SyntaxForest
