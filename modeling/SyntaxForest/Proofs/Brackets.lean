import Mathlib.Tactic.Common

/-!
# Matching brackets

A text in which brackets match is put together of characters that are no brackets and of pairs of
brackets with such texts in between. It is recognised in one pass that keeps the open brackets in
mind, the last one first, and this shows that a matching text may be put in anywhere.
-/

namespace SyntaxForest

inductive Bracket where
  | round | square | curly
deriving DecidableEq, Repr

namespace Bracket

def opening : Bracket → Char
  | round => '('
  | square => '['
  | curly => '\x7b'

def closing : Bracket → Char
  | round => ')'
  | square => ']'
  | curly => '\x7d'

end Bracket

/-- What a character does to brackets. -/
inductive Mark where
  | opens (bracket : Bracket)
  | closes (bracket : Bracket)
  | other
deriving DecidableEq, Repr

namespace Mark

def ofChar : Char → Mark
  | '(' => opens .round
  | '[' => opens .square
  | '\x7b' => opens .curly
  | ')' => closes .round
  | ']' => closes .square
  | '\x7d' => closes .curly
  | _ => other

@[simp]
lemma ofChar_opening (bracket : Bracket) : ofChar bracket.opening = opens bracket := by
  cases bracket <;> rfl

@[simp]
lemma ofChar_closing (bracket : Bracket) : ofChar bracket.closing = closes bracket := by
  cases bracket <;> rfl

lemma eq_opening {c : Char} {bracket : Bracket} (h : ofChar c = opens bracket) :
    c = bracket.opening := by
  unfold ofChar at h
  split at h <;> cases h <;> rfl

lemma eq_closing {c : Char} {bracket : Bracket} (h : ofChar c = closes bracket) :
    c = bracket.closing := by
  unfold ofChar at h
  split at h <;> cases h <;> rfl

end Mark

/-- Every bracket is closed by one of its own kind, and brackets match again in between. -/
inductive Matched : List Char → Prop where
  | nil : Matched []
  | other {c : Char} {rest : List Char} :
      Mark.ofChar c = .other → Matched rest → Matched (c :: rest)
  | pair {bracket : Bracket} {inner rest : List Char} :
      Matched inner → Matched rest →
      Matched (bracket.opening :: (inner ++ bracket.closing :: rest))

/-! ### One pass -/

/-- The brackets that are open behind a character, if `pending` are open in front of it. Only the
last one can be closed. -/
def pendingAfter (pending : List Bracket) (c : Char) : Option (List Bracket) :=
  match Mark.ofChar c, pending with
  | .opens bracket, _ => some (bracket :: pending)
  | .closes bracket, last :: rest => if bracket = last then some rest else none
  | .closes _, [] => none
  | .other, _ => some pending

/-- The brackets that are open behind a text. -/
def passOver (pending : List Bracket) (text : List Char) : Option (List Bracket) :=
  text.foldlM pendingAfter pending

section Reading

variable {pending : List Bracket} {c : Char} {text others front behind inner : List Char}

lemma pendingAfter_of_other (h : Mark.ofChar c = .other) :
    pendingAfter pending c = some pending := by
  rw [pendingAfter.eq_def, h]

@[simp]
lemma pendingAfter_opening (bracket : Bracket) :
    pendingAfter pending bracket.opening = some (bracket :: pending) := by
  rw [pendingAfter.eq_def, Mark.ofChar_opening]

@[simp]
lemma pendingAfter_closing (bracket : Bracket) :
    pendingAfter (bracket :: pending) bracket.closing = some pending := by
  rw [pendingAfter.eq_def, Mark.ofChar_closing]
  exact if_pos rfl

/-- What one character can do. -/
lemma pendingAfter_eq_some_iff {next : List Bracket} :
    pendingAfter pending c = some next ↔
      (Mark.ofChar c = .other ∧ next = pending) ∨
        ∃ bracket, (c = bracket.opening ∧ next = bracket :: pending) ∨
          (c = bracket.closing ∧ pending = bracket :: next) := by
  constructor
  · intro h
    cases hmark : Mark.ofChar c with
    | other =>
      rw [pendingAfter_of_other hmark] at h
      exact .inl ⟨rfl, (Option.some.inj h).symm⟩
    | opens bracket =>
      rw [Mark.eq_opening hmark, pendingAfter_opening] at h
      exact .inr ⟨bracket, .inl ⟨Mark.eq_opening hmark, (Option.some.inj h).symm⟩⟩
    | closes bracket =>
      rw [pendingAfter.eq_def, hmark] at h
      cases pending with
      | nil => cases h
      | cons last rest =>
        obtain ⟨rfl, hrest⟩ := Option.ite_none_right_eq_some.mp h
        cases hrest
        exact .inr ⟨bracket, .inr ⟨Mark.eq_closing hmark, rfl⟩⟩
  · rintro (⟨hother, rfl⟩ | ⟨bracket, ⟨rfl, rfl⟩ | ⟨rfl, rfl⟩⟩)
    · exact pendingAfter_of_other hother
    · exact pendingAfter_opening bracket
    · exact pendingAfter_closing bracket

lemma passOver_cons :
    passOver pending (c :: text) = (pendingAfter pending c).bind (passOver · text) := rfl

lemma passOver_append :
    passOver pending (text ++ others) = (passOver pending text).bind (passOver · others) :=
  List.foldlM_append

lemma Matched.append (h : Matched text) (h' : Matched others) : Matched (text ++ others) := by
  induction h with
  | nil => exact h'
  | other hother _ ih => exact .other hother ih
  | pair hinner _ _ ih =>
    rw [List.cons_append, List.append_assoc]
    exact .pair hinner ih

/-- A matching text leaves the open brackets as they are. -/
lemma Matched.passOver_eq (h : Matched text) (pending : List Bracket) :
    passOver pending text = some pending := by
  induction h generalizing pending with
  | nil => rfl
  | other hother _ ih => rw [passOver_cons, pendingAfter_of_other hother, Option.bind_some, ih]
  | @pair bracket inner rest _ _ ihinner ihrest =>
    rw [passOver_cons, pendingAfter_opening, Option.bind_some, passOver_append, ihinner,
      Option.bind_some, passOver_cons, pendingAfter_closing, Option.bind_some, ihrest]

/-- The text closes the brackets, the last one first, with matching texts in front of each of them
and behind the first. -/
def ClosesAll : List Bracket → List Char → Prop
  | [], text => Matched text
  | last :: pending, text =>
    ∃ inner rest, text = inner ++ last.closing :: rest ∧ Matched inner ∧ ClosesAll pending rest

lemma ClosesAll.matched_append (h : ClosesAll pending text) (hfront : Matched front) :
    ClosesAll pending (front ++ text) := by
  cases pending with
  | nil => exact hfront.append h
  | cons last pending =>
    obtain ⟨inner, rest, rfl, hinner, hrest⟩ := h
    exact ⟨front ++ inner, rest, (List.append_assoc ..).symm, hfront.append hinner, hrest⟩

lemma closesAll_of_passOver (h : passOver pending text = some []) : ClosesAll pending text := by
  induction text generalizing pending with
  | nil =>
    cases h
    exact .nil
  | cons c rest ih =>
    obtain ⟨next, hnext, hrest⟩ := Option.bind_eq_some_iff.mp (passOver_cons.symm.trans h)
    have hclosed := ih hrest
    obtain ⟨hother, rfl⟩ | ⟨bracket, ⟨rfl, rfl⟩ | ⟨rfl, rfl⟩⟩ := pendingAfter_eq_some_iff.mp hnext
    · exact hclosed.matched_append (.other hother .nil)
    · obtain ⟨inner, rest, rfl, hinner, hrest⟩ := hclosed
      have hpair : Matched (bracket.opening :: (inner ++ [bracket.closing])) := .pair hinner .nil
      have hfront := hrest.matched_append hpair
      rwa [List.cons_append, List.append_assoc] at hfront
    · exact ⟨[], rest, rfl, .nil, hclosed⟩

/-- The pass accepts a text exactly if brackets match in it. -/
theorem matched_iff_passOver : Matched text ↔ passOver [] text = some [] :=
  ⟨fun h => h.passOver_eq [], closesAll_of_passOver⟩

instance (text : List Char) : Decidable (Matched text) :=
  decidable_of_iff _ matched_iff_passOver.symm

/-- A matching text may be put in anywhere. -/
theorem Matched.insert (houter : Matched (front ++ behind)) (hinner : Matched inner) :
    Matched (front ++ (inner ++ behind)) := by
  rw [matched_iff_passOver, passOver_append] at houter ⊢
  cases hfront : passOver [] front with
  | none =>
    rw [hfront] at houter
    cases houter
  | some pending =>
    rw [hfront] at houter
    rw [Option.bind_some, passOver_append, hinner.passOver_eq]
    exact houter

end Reading

/-! ### Texts without brackets -/

def Unbracketed (text : List Char) : Prop :=
  ∀ c ∈ text, Mark.ofChar c = .other

namespace Unbracketed

variable {c : Char} {text others : List Char}

lemma nil : Unbracketed [] :=
  List.forall_mem_nil _

lemma cons (hc : Mark.ofChar c = .other) (h : Unbracketed text) : Unbracketed (c :: text) :=
  List.forall_mem_cons.mpr ⟨hc, h⟩

lemma append (h : Unbracketed text) (h' : Unbracketed others) : Unbracketed (text ++ others) :=
  List.forall_mem_append.mpr ⟨h, h'⟩

lemma head (h : Unbracketed (c :: text)) : Mark.ofChar c = .other :=
  h c List.mem_cons_self

lemma tail (h : Unbracketed (c :: text)) : Unbracketed text :=
  fun d hd => h d (List.mem_cons_of_mem c hd)

lemma matched (h : Unbracketed text) : Matched text := by
  induction text with
  | nil => exact .nil
  | cons c rest ih => exact .other h.head (ih h.tail)

end Unbracketed

/-! ### Texts -/

/-- The brackets of a text match. -/
def Balanced (text : String) : Prop :=
  Matched text.toList

instance (text : String) : Decidable (Balanced text) :=
  inferInstanceAs (Decidable (Matched text.toList))

namespace Balanced

lemma empty : Balanced "" :=
  Matched.nil

lemma append {text others : String} (h : Balanced text) (h' : Balanced others) :
    Balanced (text ++ others) := by
  unfold Balanced
  rw [String.toList_append]
  exact Matched.append h h'

lemma insert {front inner behind : String} (houter : Balanced (front ++ behind))
    (hinner : Balanced inner) : Balanced (front ++ (inner ++ behind)) := by
  unfold Balanced at *
  simp only [String.toList_append] at houter ⊢
  exact houter.insert hinner

lemma ofList {text : List Char} (h : Matched text) : Balanced (String.ofList text) := by
  unfold Balanced
  rwa [String.toList_ofList]

end Balanced

example : Balanced "f(\x7b[]\x7d)[()]" ∧ ¬Balanced "([)]" ∧ ¬Balanced ")(" ∧ ¬Balanced "[" := by
  decide

end SyntaxForest
