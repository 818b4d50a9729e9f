import SyntaxForest.Proofs.LinePartition

/-!
# Splitting a text

The index of a text can be put together from the indices of the two parts of a cut. The line that
the cut goes through is the last line of the one part and the first of the other; if the cut goes
through a pair of a carriage return and a line feed, each part takes its half for a terminator of
its own, and the whole text has one line less than it would have otherwise.
-/

namespace SyntaxForest

namespace Span

/-- The span with some more text at its end. -/
def lengthen (s : Span) (count : Nat) : Span :=
  ⟨s.start, s.length + count⟩

/-- The span in a text with some more text in front. -/
def shift (s : Span) (count : Nat) : Span :=
  ⟨s.start + count, s.length⟩

end Span

namespace Text

/-- Whether the cut between two parts of a text goes through a pair of a carriage return and a line
feed. -/
def SplitsPair (a b : List Char) : Prop :=
  a.getLast? = some '\r' ∧ b.head? = some '\n'

instance (a b : List Char) : Decidable (SplitsPair a b) :=
  inferInstanceAs (Decidable (_ ∧ _))

/-! ### Lines on the two sides of a cut -/

lemma SplitsPair.append_left {a b : List Char} (h : SplitsPair a b) (front : List Char) :
    SplitsPair (front ++ a) b := by
  refine ⟨?_, h.2⟩
  rw [List.getLast?_append, h.1]
  rfl

/-- A terminator stays one when text is added behind what follows it, unless it is the half of a
pair that the cut splits. -/
lemma Terminates.append {terminator rest b : List Char} (h : Terminates terminator rest)
    (hcut : ¬SplitsPair (terminator ++ rest) b) : Terminates terminator (rest ++ b) := by
  cases h with
  | lineFeed => exact .lineFeed _
  | pair => exact .pair _
  | carriageReturn hnext =>
    apply Terminates.carriageReturn
    cases rest with
    | nil => exact fun hfeed => hcut ⟨rfl, hfeed⟩
    | cons d rest => exact hnext

lemma lines_append {a b : List Char} (h : ¬SplitsPair a b) :
    ∃ before last first after, lines a = before ++ [last] ∧ lines b = first :: after ∧
      lines (a ++ b) = before ++ (last ++ first) :: after := by
  induction a using line_induction with
  | unbroken body hbody =>
    obtain ⟨first, after, hb⟩ := List.exists_cons_of_ne_nil (lines_ne_nil b)
    refine ⟨[], body, first, after, lines_of_unbroken hbody, hb, ?_⟩
    rw [lines_unbroken_append hbody, hb]
    rfl
  | line body terminator rest hbody hterminator ih =>
    have hrest : ¬SplitsPair (terminator ++ rest) b := fun hcut => h (hcut.append_left body)
    obtain ⟨before, last, first, after, ha, hb, hab⟩ :=
      ih fun hcut => hrest (hcut.append_left terminator)
    refine ⟨(body ++ terminator) :: before, last, first, after, ?_, hb, ?_⟩
    · rw [lines_line hbody hterminator, ha, List.cons_append]
    · rw [List.append_assoc, List.append_assoc, lines_line hbody (hterminator.append hrest), hab,
        List.cons_append]

/-- The line that ends with the split pair is put together like any other; only the empty line
behind the carriage return and the first line of the second part disappear. -/
lemma lines_append_of_splitsPair {a b : List Char} (h : SplitsPair a b) :
    ∃ before last after, lines a = before ++ [last, []] ∧ lines b = ['\n'] :: after ∧
      lines (a ++ b) = before ++ (last ++ ['\n']) :: after := by
  obtain ⟨front, rfl⟩ := List.getLast?_eq_some_iff.mp h.1
  obtain ⟨rest, rfl⟩ := List.head?_eq_some_iff.mp h.2
  have hb : lines ('\n' :: rest) = ['\n'] :: lines rest := lines_terminator (.lineFeed rest)
  have hend : lines ['\r'] = [['\r'], []] := rfl
  have hpair : lines ('\r' :: '\n' :: rest) = ['\r', '\n'] :: lines rest :=
    lines_terminator (.pair rest)
  have hfirst : ∀ text, ¬SplitsPair front ('\r' :: text) := by
    intro text hcut
    exact absurd hcut.2 (by simp)
  -- the cut in front of the carriage return splits no pair, with and without the second part
  obtain ⟨before, last, first, after, hfront, hcr, hline⟩ := lines_append (hfirst [])
  obtain ⟨before', last', first', after', hfront', hcrlf, hwhole⟩ :=
    lines_append (hfirst ('\n' :: rest))
  obtain ⟨rfl, hlast⟩ := List.append_inj' (hfront.symm.trans hfront') rfl
  cases hlast
  cases hend.symm.trans hcr
  cases hpair.symm.trans hcrlf
  refine ⟨before, last ++ ['\r'], lines rest, hline, hb, ?_⟩
  rw [List.append_assoc, List.append_assoc]
  exact hwhole

end Text

namespace LineIndex

open Text

/-! ### Spans on the two sides of a cut -/

lemma spansFrom_append (start : Nat) (rows rows' : List (List Char)) :
    spansFrom start ((rows ++ rows').map List.length) =
      spansFrom start (rows.map List.length) ++
        spansFrom (start + rows.flatten.length) (rows'.map List.length) := by
  induction rows generalizing start with
  | nil => rfl
  | cons row rows ih =>
    rw [List.cons_append, List.map_cons, spansFrom, ih, List.map_cons, spansFrom, List.cons_append,
      List.flatten_cons, List.length_append, Nat.add_assoc]

lemma spansFrom_add (start count : Nat) (lengths : List Nat) :
    spansFrom (start + count) lengths = (spansFrom start lengths).map (Span.shift · count) := by
  induction lengths generalizing start with
  | nil => rfl
  | cons length rest ih =>
    rw [spansFrom, spansFrom, List.map_cons, Nat.add_right_comm, ih]
    rfl

/-- Rows behind a changed row begin where they did, counted from the end of the text in front. -/
lemma spansFrom_of_cut {before after : List (List Char)} {row : List Char} {cut count : Nat}
    (h : before.flatten.length + row.length = cut + count) :
    spansFrom 0 ((before ++ row :: after).map List.length) =
      spansFrom 0 (before.map List.length) ++ ⟨before.flatten.length, row.length⟩ ::
        (spansFrom count (after.map List.length)).map (Span.shift · cut) := by
  rw [spansFrom_append, List.map_cons, spansFrom, Nat.zero_add, h, Nat.add_comm cut, spansFrom_add]

lemma length_eq_of_lines {text : String} {before after : List (List Char)}
    (h : lines text.toList = before ++ after) :
    text.length = before.flatten.length + after.flatten.length := by
  rw [← String.length_toList, ← List.length_append, ← List.flatten_append, ← h, flatten_lines]

section Append

variable (a b : String)

lemma spans_append (h : ¬SplitsPair a.toList b.toList) :
    ∃ before last first after, (ofText a).spans.toList = before ++ [last] ∧
      (ofText b).spans.toList = first :: after ∧
      (ofText (a ++ b)).spans.toList =
        before ++ last.lengthen first.length :: after.map (Span.shift · a.length) := by
  obtain ⟨before, last, first, after, ha, hb, hab⟩ := lines_append h
  have hlength := length_eq_of_lines ha
  simp only [List.flatten_singleton] at hlength
  refine ⟨spansFrom 0 (before.map List.length), ⟨before.flatten.length, last.length⟩,
    ⟨0, first.length⟩, spansFrom first.length (after.map List.length), ?_, ?_, ?_⟩
  · rw [toList_spans_ofText, ha, spansFrom_append, Nat.zero_add]
    rfl
  · rw [toList_spans_ofText, hb, List.map_cons, spansFrom, Nat.zero_add]
  · rw [toList_spans_ofText, String.toList_append, hab,
      spansFrom_of_cut (show _ = a.length + first.length by rw [List.length_append]; omega),
      List.length_append]
    rfl

lemma spans_append_of_splitsPair (h : SplitsPair a.toList b.toList) :
    ∃ before ended empty first after, (ofText a).spans.toList = before ++ [ended, empty] ∧
      (ofText b).spans.toList = first :: after ∧
      (ofText (a ++ b)).spans.toList =
        before ++ ended.lengthen 1 :: after.map (Span.shift · a.length) := by
  obtain ⟨before, last, after, ha, hb, hab⟩ := lines_append_of_splitsPair h
  have hlength := length_eq_of_lines ha
  simp only [List.flatten_cons, List.flatten_nil, List.append_nil] at hlength
  refine ⟨spansFrom 0 (before.map List.length), ⟨before.flatten.length, last.length⟩,
    ⟨a.length, 0⟩, ⟨0, 1⟩, spansFrom 1 (after.map List.length), ?_, ?_, ?_⟩
  · rw [toList_spans_ofText, ha, spansFrom_append, Nat.zero_add, hlength]
    rfl
  · rw [toList_spans_ofText, hb]
    rfl
  · rw [toList_spans_ofText, String.toList_append, hab,
      spansFrom_of_cut (show _ = a.length + 1 by
        rw [List.length_append, List.length_singleton]
        omega),
      List.length_append]
    rfl

end Append

lemma size_eq_length (index : LineIndex) : index.size = index.spans.toList.length :=
  rfl

/-- The index of a text from the indices of the parts of any cut. If the cut splits no pair of a
carriage return and a line feed, the last line of the first part goes on with the first line of the
second one. If it does, the line that ends with the carriage return takes the line feed, and the
empty line behind it is gone. The remaining lines of the second part move to their place. -/
theorem spans_ofText_append (a b : String) :
    (¬SplitsPair a.toList b.toList →
      (∃ before last first after, (ofText a).spans.toList = before ++ [last] ∧
        (ofText b).spans.toList = first :: after ∧
        (ofText (a ++ b)).spans.toList =
          before ++ last.lengthen first.length :: after.map (Span.shift · a.length)) ∧
      (ofText (a ++ b)).size = (ofText a).size + (ofText b).size - 1) ∧
    (SplitsPair a.toList b.toList →
      (∃ before ended empty first after, (ofText a).spans.toList = before ++ [ended, empty] ∧
        (ofText b).spans.toList = first :: after ∧
        (ofText (a ++ b)).spans.toList =
          before ++ ended.lengthen 1 :: after.map (Span.shift · a.length)) ∧
      (ofText (a ++ b)).size = (ofText a).size + (ofText b).size - 2) := by
  constructor
  · intro hcut
    have hspans := spans_append a b hcut
    refine ⟨hspans, ?_⟩
    obtain ⟨before, last, first, after, ha, hb, hab⟩ := hspans
    simp only [size_eq_length, ha, hb, hab, List.length_append, List.length_cons, List.length_map,
      List.length_nil]
    omega
  · intro hcut
    have hspans := spans_append_of_splitsPair a b hcut
    refine ⟨hspans, ?_⟩
    obtain ⟨before, ended, empty, first, after, ha, hb, hab⟩ := hspans
    simp only [size_eq_length, ha, hb, hab, List.length_append, List.length_cons, List.length_map,
      List.length_nil]
    omega

theorem halvedPair_spans :
    SplitsPair "a\r".toList "\n\rb".toList ∧
      (ofText "a\r").spans.toList = [⟨0, 2⟩, ⟨2, 0⟩] ∧
      (ofText "\n\rb").spans.toList = [⟨0, 1⟩, ⟨1, 1⟩, ⟨2, 1⟩] ∧
      (ofText ("a\r" ++ "\n\rb")).spans.toList = [⟨0, 3⟩, ⟨3, 1⟩, ⟨4, 1⟩] ∧
      (ofText ("a\r" ++ "\n\rb")).size = 2 + 3 - 2 ∧
      ¬SplitsPair "\n\rb".toList "a\r".toList ∧
      (ofText ("\n\rb" ++ "a\r")).spans.toList = [⟨0, 1⟩, ⟨1, 1⟩, ⟨2, 3⟩, ⟨5, 0⟩] ∧
      (ofText ("\n\rb" ++ "a\r")).size = 3 + 2 - 1 := by
  have hcut : SplitsPair "a\r".toList "\n\rb".toList := by decide
  have hwhole : ¬SplitsPair "\n\rb".toList "a\r".toList := by decide
  have ha : (ofText "a\r").spans.toList = [⟨0, 2⟩, ⟨2, 0⟩] := by decide
  have hb : (ofText "\n\rb").spans.toList = [⟨0, 1⟩, ⟨1, 1⟩, ⟨2, 1⟩] := by decide
  obtain ⟨⟨before, ended, empty, first, after, ha', hb', hab⟩, hsize⟩ :=
    (spans_ofText_append "a\r" "\n\rb").2 hcut
  obtain ⟨⟨before', last, first', after', hb'', ha'', hba⟩, hsize'⟩ :=
    (spans_ofText_append "\n\rb" "a\r").1 hwhole
  have hends : [] ++ [⟨0, 2⟩, ⟨2, 0⟩] = before ++ [ended, empty] := ha.symm.trans ha'
  have hlast : [⟨0, 1⟩, ⟨1, 1⟩] ++ [⟨2, 1⟩] = before' ++ [last] := hb.symm.trans hb''
  obtain ⟨rfl, hends⟩ := List.append_inj' hends rfl
  obtain ⟨rfl, hlast⟩ := List.append_inj' hlast rfl
  cases hends
  cases hlast
  cases hb.symm.trans hb'
  cases ha.symm.trans ha''
  exact ⟨hcut, ha, hb, hab, hsize, hwhole, hba, hsize'⟩

end LineIndex

end SyntaxForest
