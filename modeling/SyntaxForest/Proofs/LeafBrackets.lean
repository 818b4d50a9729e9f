import SyntaxForest.Proofs.Brackets
import SyntaxForest.Proofs.Printing

/-!
# Brackets in leaves

Of all leaves only names and string literals can hold any bracket. Numbers are made of digits,
signs, points and letters, except that the two parts of a complex number stand in parentheses.
-/

namespace SyntaxForest

/-! ### Numbers -/

lemma Mark.ofChar_of_isDigit {c : Char} (h : c.isDigit) : Mark.ofChar c = .other := by
  unfold Mark.ofChar
  split
  all_goals first | rfl | cases h

lemma unbracketed_toDigits (n : Nat) : Unbracketed (Nat.toDigits 10 n) := by
  intro c hc
  exact Mark.ofChar_of_isDigit (Nat.isDigit_of_mem_toDigits (by decide) (by decide) hc)

namespace Binary64

lemma unbracketed_ofMultiple (n : Nat) (place : Int) :
    Unbracketed (Decimal.ofMultiple n place).digits := by
  intro c hc
  have hdigits := (List.dropWhile_sublist _).subset (List.mem_reverse.mp hc)
  exact unbracketed_toDigits n c (List.mem_reverse.mp hdigits)

/-- Whatever width suffices, the digits are those of a whole number. -/
lemma exists_shortest_eq (significand : Nat) (exponent : Int) :
    ∃ n place, shortest significand exponent = .ofMultiple n place := by
  unfold shortest
  extract_lets r interval lead attempt
  cases hfound : (List.range enoughDigits).findSome? attempt with
  | none => exact ⟨_, _, rfl⟩
  | some found =>
    obtain ⟨width, -, hattempt⟩ := List.exists_of_findSome?_eq_some hfound
    obtain ⟨n, -, rfl⟩ := Option.map_eq_some_iff.mp hattempt
    exact ⟨n, _, rfl⟩

end Binary64

namespace NumberLayout

variable {layout : NumberLayout} {digits : List Char}

lemma unbracketed_zeros (n : Nat) : Unbracketed (zeros n) := by
  intro c hc
  rw [List.eq_of_mem_replicate hc]
  rfl

lemma unbracketed_exponentText (exponent : Int) : Unbracketed (layout.exponentText exponent) := by
  have hsign : Mark.ofChar (if exponent < 0 then '-' else '+') = .other := by
    split <;> rfl
  exact .cons rfl (.cons hsign ((unbracketed_zeros _).append (unbracketed_toDigits _)))

lemma unbracketed_scientific (h : Unbracketed digits) (exponent : Int) :
    Unbracketed (layout.scientific digits exponent) := by
  have hexponent := layout.unbracketed_exponentText exponent
  rcases digits with _ | ⟨digit, _ | ⟨second, rest⟩⟩
  · exact hexponent
  · exact .cons h.head hexponent
  · exact .cons h.head (.cons rfl (h.tail.append hexponent))

lemma unbracketed_positional (hending : Unbracketed layout.wholeEnding) (h : Unbracketed digits)
    (exponent : Int) : Unbracketed (layout.positional digits exponent) := by
  unfold positional
  split
  · exact .cons rfl (.cons rfl ((unbracketed_zeros _).append h))
  · dsimp only
    split
    · exact (h.append (unbracketed_zeros _)).append hending
    · exact Unbracketed.append (fun c hc => h c (List.mem_of_mem_take hc))
        (.cons rfl fun c hc => h c (List.mem_of_mem_drop hc))

lemma unbracketed_decimal (hending : Unbracketed layout.wholeEnding) {d : Binary64.Decimal}
    (h : Unbracketed d.digits) : Unbracketed (layout.decimal d) := by
  unfold decimal
  split
  · exact unbracketed_positional hending h d.exponent
  · exact unbracketed_scientific h d.exponent

lemma unbracketed_magnitude (hending : Unbracketed layout.wholeEnding) (x : Binary64) :
    Unbracketed (layout.magnitude x) := by
  cases x with
  | finite negative significand exponent =>
    rw [magnitude]
    split
    · exact unbracketed_positional hending (.cons rfl .nil) 0
    · obtain ⟨n, place, hshortest⟩ := Binary64.exists_shortest_eq significand exponent
      rw [hshortest]
      exact unbracketed_decimal hending (Binary64.unbracketed_ofMultiple n place)
  | infinite negative => exact .cons rfl (.cons rfl (.cons rfl .nil))
  | notANumber => exact .cons rfl (.cons rfl (.cons rfl .nil))

lemma balanced_render (hending : Unbracketed layout.wholeEnding) (x : Binary64) :
    Balanced (layout.render x) := by
  have hsign : Unbracketed (if x.isNegative then ['-'] else []) := by
    split
    · exact .cons rfl .nil
    · exact .nil
  exact .ofList (hsign.append (unbracketed_magnitude hending x)).matched

lemma balanced_renderSigned (hending : Unbracketed layout.wholeEnding) (x : Binary64) :
    Balanced (layout.renderSigned x) := by
  have hsign : Mark.ofChar (if x.isNegative then '-' else '+') = .other := by
    split <;> rfl
  exact .ofList (Unbracketed.cons hsign (unbracketed_magnitude hending x)).matched

end NumberLayout

/-- The text of a number has no brackets, or else the parentheses around both parts. -/
lemma balanced_number (value : NumberValue) : Balanced (Prescribed.number value) := by
  cases value with
  | integer value =>
    have hsign : Balanced (if value < 0 then "-" else "") := by split <;> decide
    exact hsign.append (.ofList (unbracketed_toDigits value.natAbs).matched)
  | real value => exact NumberLayout.balanced_render (.cons rfl (.cons rfl .nil)) value
  | complex re im =>
    have hre : Balanced (NumberLayout.part.render re) := NumberLayout.balanced_render .nil re
    have him : Balanced (NumberLayout.part.render im) := NumberLayout.balanced_render .nil im
    have hsigned : Balanced (NumberLayout.part.renderSigned im) :=
      NumberLayout.balanced_renderSigned .nil im
    have hunit : Balanced "j" := by decide
    have hpair : Balanced ("(" ++ "j)") := by decide
    rw [Prescribed.number_eq_text, NumberValue.text]
    split
    · exact him.append hunit
    · have hinside := hpair.insert (hre.append hsigned)
      simpa only [String.append_assoc] using hinside

/-! ### String literals, constants and operators -/

lemma balanced_letters (flags : StringFlags) : Balanced (Prescribed.letters flags) := by
  have hraw : Balanced (if flags.raw then "r" else "") := by split <;> decide
  have hunicode : Balanced (if flags.unicode then "u" else "") := by split <;> decide
  have hbytes : Balanced (if flags.bytes then "b" else "") := by split <;> decide
  have hformat : Balanced (if flags.format then "f" else "") := by split <;> decide
  exact ((hraw.append hunicode).append hbytes).append hformat

lemma balanced_quotes (flags : StringFlags) : Balanced (Prescribed.quotes flags) := by
  unfold Prescribed.quotes
  split <;> decide

lemma balanced_literal {t : StringToken} (h : Balanced t.escaped) :
    Balanced (Prescribed.literal t) := by
  have hquotes := balanced_quotes t.flags
  exact (((balanced_letters t.flags).append hquotes).append h).append hquotes

lemma balanced_constant (keyword : Keyword) : Balanced (Prescribed.constant keyword) := by
  cases keyword <;> decide

lemma balanced_operator (operator : Option Operator) :
    Balanced (Prescribed.operator operator) := by
  rcases operator with _ | operator
  · decide
  · cases operator <;> decide

end SyntaxForest
