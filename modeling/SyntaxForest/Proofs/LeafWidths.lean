import SyntaxForest.Forest
import SyntaxForest.Proofs.Printing
import SyntaxForest.Proofs.SpanCheck

/-!
# Widths of leaves

The width that a token is made with is counted before anything is printed: from the flags and the
text of a string literal, from the text of a number, from the spelling of a keyword. The text of a
node of this token is put together elsewhere, and it is exactly as wide.
-/

namespace SyntaxForest

/-! ### Widths of texts -/

/-- Every flag that has a letter adds one character if it is set. -/
lemma length_letters (flags : StringFlags) :
    (Prescribed.letters flags).length =
      flags.raw.toNat + flags.unicode.toNat + flags.bytes.toNat + flags.format.toNat := by
  have hletter : ∀ (set : Bool) (letter : String), letter.length = 1 →
      (if set then letter else "").length = set.toNat := by
    rintro (_ | _) letter hone
    · rfl
    · exact hone
  unfold Prescribed.letters
  simp only [String.length_append]
  rw [hletter _ "r" rfl, hletter _ "u" rfl, hletter _ "b" rfl, hletter _ "f" rfl]

lemma length_quotes (flags : StringFlags) :
    (Prescribed.quotes flags).length = if flags.triplicate then 3 else 1 := by
  unfold Prescribed.quotes
  cases flags.triplicate <;> cases flags.singleQuote <;> rfl

/-- The text of a string literal is as wide as its flags and the text between its quotes say. -/
theorem length_literal (t : StringToken) :
    (Prescribed.literal t).length = t.flags.literalWidth t.escaped := by
  unfold Prescribed.literal StringFlags.literalWidth
  simp only [String.length_append, length_letters, length_quotes]
  omega

/-- A keyword that is a constant is printed as it is spelled. -/
lemma constant_eq_text {keyword : Keyword} (h : keyword.constant?.isSome) :
    Prescribed.constant keyword = keyword.text := by
  cases keyword <;> first | rfl | cases h

/-! ### Nodes as wide as their texts -/

lemma Node.print_of_leaf {options : PrintOptions} {n : Node} {text : String}
    (h : n.template options = [.leaf text]) : n.print options = text := by
  rw [print_eq_fill, h]
  simp

namespace Forest

variable (f : Forest)

/-- A node that takes its place from the text can be built there, and its span is as wide as its
text, whatever the options of the printer are. -/
def Fits (start : Int) (shape : Shape Node) : Prop :=
  ∀ hint, ∃ n, (f.construct hint shape).1 = .ok n ∧ n.shape = shape ∧ n.span.start = start ∧
    ∀ options, n.span.length = (n.print options).length

/-- A node that fits is as wide as the text that it is known to have. -/
lemma Fits.exists_built {f : Forest} {start : Nat} {shape : Shape Node} {options : PrintOptions}
    {text : String} (h : f.Fits start shape)
    (hprint : ∀ head, (Node.mk head shape).print options = text) :
    ∃ n, (f.construct ⟨none, none⟩ shape).1 = .ok n ∧ n.span.start = start ∧
      n.print options = text ∧ n.span.length = text.length := by
  obtain ⟨⟨head, _⟩, hbuilt, rfl, hstart, hwidth⟩ := h ⟨none, none⟩
  exact ⟨_, hbuilt, Int.ofNat.inj hstart, hprint head, hprint head ▸ hwidth options⟩

/-- A construction keeps the span that a token gives. -/
lemma construct_of_hint {shape : Shape Node} {start : Int} {width : Nat} {hint : Hint}
    (hstart : 0 ≤ start) (hhint : shape.hint hint = ⟨some start, some (width : Int)⟩) :
    (f.construct hint shape).1 = .ok (.mk ⟨f.size, ⟨start.toNat, width⟩, .given⟩ shape) := by
  have hextent : (shape.hint hint).extent = .ok (.fixed ⟨start.toNat, width⟩) := by
    rw [hhint, Hint.extent, Span.ofInts_of_nonneg hstart (Int.natCast_nonneg width)]
    rfl
  rw [construct, hextent]
  rfl

lemma fits_of_width {shape : Shape Node} {start : Int} {width : Nat} (hstart : 0 ≤ start)
    (hhint : ∀ hint, shape.hint hint = ⟨some start, some (width : Int)⟩)
    (hwidth : ∀ head options, width = ((Node.mk head shape).print options).length) :
    f.Fits start shape := by
  intro hint
  exact ⟨_, f.construct_of_hint hstart (hhint hint), rfl, Int.toNat_of_nonneg hstart,
    fun options => hwidth _ options⟩

/-- Tokens that are made with the width of what they stand for give nodes that are as wide as their
texts: names, numbers, string literals, and the keywords that are constants. -/
theorem leaves_fit {start : Int} (hstart : 0 ≤ start) :
    (∀ value, f.Fits start (.name (.ofValue value start))) ∧
    (∀ value, f.Fits start (.number (.ofValue value start 0))) ∧
    (∀ escaped flags, f.Fits start (.string (.ofEscaped escaped flags start 0))) ∧
    ∀ keyword : Keyword, keyword.constant?.isSome →
      f.Fits start (.constant (.ofKeyword keyword start)) := by
  refine ⟨fun value => ?_, fun value => ?_, fun escaped flags => ?_, fun keyword hconstant => ?_⟩
  · apply f.fits_of_width hstart fun _ => rfl
    intro head options
    rw [Node.print_of_leaf rfl]
    rfl
  · apply f.fits_of_width hstart fun _ => rfl
    intro head options
    rw [Node.print_of_leaf rfl, Prescribed.number_eq_text]
    rfl
  · apply f.fits_of_width hstart fun _ => rfl
    intro head options
    rw [Node.print_of_leaf rfl, length_literal]
    rfl
  · apply f.fits_of_width hstart fun _ => rfl
    intro head options
    rw [Node.print_of_leaf rfl, KeywordToken.ofKeyword, constant_eq_text hconstant]

section Witness

def rawBytes : StringFlags :=
  ⟨true, true, true, false, true, false⟩

def rawBytesToken : StringToken :=
  .ofEscaped "it's" rawBytes 7 0

theorem rawBytes_fits :
    (0 : Int) ≤ 7 ∧ Keyword.debugWord.constant?.isSome ∧
      (∃ n, (empty.construct ⟨none, none⟩ (.name (.ofValue "item" 7))).1 = .ok n ∧
        n.span.start = 7 ∧ n.print ⟨true⟩ = "item" ∧ n.span.length = 4) ∧
      (∃ n, (empty.construct ⟨none, none⟩ (.number (.ofValue (.integer (-305)) 7 0))).1 = .ok n ∧
        n.span.start = 7 ∧ n.print ⟨false⟩ = "-305" ∧ n.span.length = 4) ∧
      (∃ n, (empty.construct ⟨none, none⟩ (.string rawBytesToken)).1 = .ok n ∧
        n.span.start = 7 ∧ n.print ⟨true⟩ = "rb'''it's'''" ∧ n.span.length = 12) ∧
      ∃ n, (empty.construct ⟨none, none⟩ (.constant (.ofKeyword .debugWord 7))).1 = .ok n ∧
        n.span.start = 7 ∧ n.print ⟨false⟩ = "__debug__" ∧ n.span.length = 9 := by
  obtain ⟨hname, hnumber, hstring, hconstant⟩ :=
    empty.leaves_fit (show (0 : Int) ≤ 7 by decide)
  exact ⟨by decide, rfl, (hname "item").exists_built fun _ => Node.print_of_leaf rfl,
    (hnumber (.integer (-305))).exists_built fun _ => Node.print_of_leaf rfl,
    (hstring "it's" rawBytes).exists_built fun _ => Node.print_of_leaf rfl,
    (hconstant .debugWord rfl).exists_built fun _ => Node.print_of_leaf rfl⟩

end Witness

end Forest

end SyntaxForest
