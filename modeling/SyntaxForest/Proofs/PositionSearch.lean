import Mathlib.Data.Set.Card
import SyntaxForest.Proofs.LineScan
import SyntaxForest.Proofs.NodeSearch

/-!
# Search for the node at a position

A position of a text is the place of one offset, and every offset of the text has a position of its
own. So the search at a position is the search at an offset, and it fails for the positions that no
offset has.
-/

namespace SyntaxForest

namespace LineIndex

open Text

section OfText

variable (text : String)

lemma offsetOf?_ofText_eq_some_iff (p : Position) (offset : Nat) :
    (ofText text).offsetOf? p = some offset ↔
      offset ≤ text.length ∧ (ofText text).positionOf? offset = some p := by
  rw [offsetOf?_eq_some_iff, positionOf?_eq_some_iff]
  constructor
  · intro h
    have hbounds := bounds_of_places text h
    exact ⟨by omega, h⟩
  · exact fun h => h.2

lemma positionOf?_ofText_of_le {offset : Nat} (h : offset ≤ text.length) :
    (ofText text).positionOf? offset = some (scan text.toList offset) := by
  rw [positionOf?_ofText, if_pos (by omega), Int.toNat_natCast]

lemma offsetOf?_scan {offset : Nat} (h : offset ≤ text.length) :
    (ofText text).offsetOf? (scan text.toList offset) = some offset :=
  (offsetOf?_ofText_eq_some_iff text _ offset).mpr ⟨h, positionOf?_ofText_of_le text h⟩

lemma convertible_eq_image :
    {p | ((ofText text).offsetOf? p).isSome} =
      ((Finset.range (text.length + 1)).image (scan text.toList) : Set Position) := by
  ext p
  simp only [Set.mem_ofPred_eq, Option.isSome_iff_exists, Finset.coe_image, Set.mem_image,
    Finset.coe_range, Set.mem_Iio]
  constructor
  · rintro ⟨offset, hoffset⟩
    obtain ⟨hle, hp⟩ := (offsetOf?_ofText_eq_some_iff text p offset).mp hoffset
    rw [positionOf?_ofText_of_le text hle] at hp
    exact ⟨offset, by omega, Option.some.inj hp⟩
  · rintro ⟨offset, hlt, rfl⟩
    exact ⟨offset, offsetOf?_scan text (by omega)⟩

/-- No two offsets of a text have the same position. -/
theorem ncard_convertible :
    {p | ((ofText text).offsetOf? p).isSome}.ncard = text.length + 1 := by
  rw [convertible_eq_image, Set.ncard_coe_finset, Finset.card_image_of_injOn, Finset.card_range]
  intro a ha b hb hab
  have ha := offsetOf?_scan text (Nat.le_of_lt_succ (Finset.mem_range.mp ha))
  have hb := offsetOf?_scan text (Nat.le_of_lt_succ (Finset.mem_range.mp hb))
  rw [hab] at ha
  exact Option.some.inj (ha.symm.trans hb)

end OfText

end LineIndex

namespace Node

open LineIndex

/-- The search at a position that fetches lines in the given way. -/
def findAtVia (fetch : Fetch) (n : Node) (index : LineIndex) (p : Position) :
    Except LookupFault (Option Node) := do
  return (← offsetVia fetch index p).bind fun offset => n.find? offset

lemma findAt?_eq (n : Node) (index : LineIndex) (p : Position) :
    n.findAt? index p = (index.offsetOf? p).bind fun offset => n.find? offset :=
  rfl

lemma findAtVia_eq {fetch : Fetch} {index : LineIndex} (hf : fetch.Faithful index) (n : Node)
    (p : Position) : findAtVia fetch n index p = .ok (n.findAt? index p) := by
  rw [findAtVia, offsetVia_eq hf]
  rfl

lemma findAt?_ofText_eq_none_iff (text : String) (n : Node) (p : Position) :
    n.findAt? (ofText text) p = none ↔
      (¬∃ offset : Nat, offset ≤ text.length ∧ (ofText text).positionOf? offset = some p) ∨
      ∃ offset : Nat, offset ≤ text.length ∧ (ofText text).positionOf? offset = some p ∧
        (offset < n.span.start ∨ n.span.stop < offset) := by
  simp only [← and_assoc, ← offsetOf?_ofText_eq_some_iff]
  rw [findAt?_eq]
  cases (ofText text).offsetOf? p with
  | none => simp
  | some offset =>
    have hnone := n.find?_eq_none_iff offset
    simp only [Int.ofNat_lt] at hnone
    simp [hnone]

/-- In the index of a text the search at the position of an offset is the search at the offset. It
fails for the positions that no offset of the text has and for those of offsets outside the node,
and it never looks for a line that is not there. There is one position for each offset of the text,
the end included. -/
theorem findAt?_ofText_eq_find? (text : String) (n : Node) :
    (∀ offset : Nat, offset ≤ text.length →
      ∃ p, (ofText text).positionOf? offset = some p ∧
        n.findAt? (ofText text) p = n.find? offset) ∧
    (∀ p : Position, n.findAt? (ofText text) p = none ↔
      (¬∃ offset : Nat, offset ≤ text.length ∧ (ofText text).positionOf? offset = some p) ∨
      ∃ offset : Nat, offset ≤ text.length ∧ (ofText text).positionOf? offset = some p ∧
        (offset < n.span.start ∨ n.span.stop < offset)) ∧
    (∀ p : Position, findAtVia (ofText text).get n (ofText text) p =
      .ok (n.findAt? (ofText text) p)) ∧
    {p | ((ofText text).offsetOf? p).isSome}.ncard = text.length + 1 := by
  refine ⟨?_, findAt?_ofText_eq_none_iff text n, findAtVia_eq (get_faithful _) n,
    ncard_convertible text⟩
  intro offset hle
  refine ⟨_, positionOf?_ofText_of_le text hle, ?_⟩
  rw [findAt?_eq, offsetOf?_scan text hle]
  rfl

theorem touchingNames_findAt? :
    2 ≤ "a\r\nb".length ∧ (ofText "a\r\nb").positionOf? (2 : Nat) = some ⟨0, 2⟩ ∧
      touchingNames.findAt? (ofText "a\r\nb") ⟨0, 2⟩ = touchingNames.find? (2 : Nat) ∧
      touchingNames.find? (2 : Nat) ≠ none ∧
      touchingNames.findAt? (ofText "a\r\nb") ⟨0, 3⟩ = none ∧
      {p | ((ofText "a\r\nb").offsetOf? p).isSome}.ncard = 5 := by
  have hle : 2 ≤ "a\r\nb".length := by decide
  have hplace : (ofText "a\r\nb").positionOf? (2 : Nat) = some ⟨0, 2⟩ := by
    rw [positionOf?_ofText_of_le _ hle]
    decide
  have hpast : (ofText "a\r\nb").offsetOf? ⟨0, 3⟩ = none := by decide
  obtain ⟨same, fails, -, count⟩ := findAt?_ofText_eq_find? "a\r\nb" touchingNames
  obtain ⟨p, hp, hfind⟩ := same 2 hle
  cases hplace.symm.trans hp
  refine ⟨hle, hplace, hfind, ?_, (fails ⟨0, 3⟩).mpr (.inl ?_), count⟩
  · rw [Ne, find?_eq_none_iff]
    decide
  · rintro ⟨offset, hoffset⟩
    rw [← offsetOf?_ofText_eq_some_iff, hpast] at hoffset
    cases hoffset

end Node

end SyntaxForest
