import Mathlib.Data.List.DropRight
import SyntaxForest.Proofs.Printing

/-!
# Reading string literals back

The text of a string literal holds no mark of its length, and anything may stand between its quotes.
Still it is read in one way only, from the front: letters up to the first quote, then one quote or
three. Two quotes in a row are the first of three or the whole literal, unless a text with one quote
on either side begins with that quote itself.
-/

namespace SyntaxForest

/-! ### The reader -/

/-- The flags that a literal shows by its letters, its quote, and whether the quote is triple. -/
def StringFlags.ofFront (letters : List Char) (quote : Char) (triplicate : Bool) : StringFlags where
  singleQuote := quote == '\''
  triplicate := triplicate
  raw := letters.contains 'r'
  unicode := letters.contains 'u'
  bytes := letters.contains 'b'
  format := letters.contains 'f'

/-- Whether two more quotes follow the first one of a literal, and the text up to the quotes at the
end. -/
def readQuoted (quote : Char) (rest : List Char) : Bool × List Char :=
  if [quote, quote] <+: rest then (true, (rest.drop 2).rdrop 3) else (false, rest.rdrop 1)

def isQuote (c : Char) : Bool :=
  c == '\'' || c == '"'

/-- The flags of a literal and the text between its quotes. A text without quotes is no literal. -/
def readLiteral? (text : String) : Option (StringFlags × String) :=
  match text.toList.dropWhile (!isQuote ·) with
  | quote :: rest =>
    let letters := text.toList.takeWhile (!isQuote ·)
    let (triplicate, escaped) := readQuoted quote rest
    some (.ofFront letters quote triplicate, String.ofList escaped)
  | [] => none

/-! ### Letters and quotes -/

namespace StringFlags

lemma mem_toList {flags : StringFlags} {flag : StringFlag} :
    flag ∈ flags.toList ↔ flags.has flag := by
  have hall : flag ∈ (Labelled.all : List StringFlag) := by cases flag <;> decide
  rw [toList, List.mem_filter]
  exact and_iff_right hall

lemma mem_letters {flags : StringFlags} {c : Char} :
    c ∈ flags.letters ↔ ∃ flag, flags.has flag ∧ flag.letter? = some c := by
  simp only [letters, List.mem_filterMap, mem_toList]

/-- No two flags have the same letter. -/
lemma letter?_inj {a b : StringFlag} {c : Char} (ha : a.letter? = some c)
    (hb : b.letter? = some c) : a = b := by
  have hsame := ha.trans hb.symm
  cases a <;> cases b <;> simp_all [StringFlag.letter?]

lemma contains_letters (flags : StringFlags) (flag : StringFlag) {c : Char}
    (hletter : flag.letter? = some c) : flags.letters.contains c = flags.has flag := by
  rw [Bool.eq_iff_iff, List.contains_iff_mem, mem_letters]
  constructor
  · rintro ⟨flag', hhas, hletter'⟩
    rwa [letter?_inj hletter hletter']
  · exact fun hhas => ⟨flag, hhas, hletter⟩

/-- The letters and the quotes show all flags. -/
lemma ofFront_letters (flags : StringFlags) :
    ofFront flags.letters flags.quote flags.triplicate = flags := by
  have hsingle : (flags.quote == '\'') = flags.singleQuote := by
    unfold quote
    cases flags.singleQuote <;> decide
  unfold ofFront
  rw [hsingle, contains_letters flags .raw rfl, contains_letters flags .unicode rfl,
    contains_letters flags .bytes rfl, contains_letters flags .format rfl]
  rfl

lemma isQuote_of_mem_letters {flags : StringFlags} {c : Char} (hc : c ∈ flags.letters) :
    isQuote c = false := by
  obtain ⟨flag, -, hletter⟩ := mem_letters.mp hc
  cases flag <;> cases hletter <;> decide

lemma isQuote_quote (flags : StringFlags) : isQuote flags.quote = true := by
  unfold quote
  cases flags.singleQuote <;> decide

/-- The letters end at the first quote. -/
lemma span_letters (flags : StringFlags) (rest : List Char) :
    (flags.letters ++ flags.quote :: rest).takeWhile (!isQuote ·) = flags.letters ∧
      (flags.letters ++ flags.quote :: rest).dropWhile (!isQuote ·) = flags.quote :: rest := by
  have hletters : ∀ c ∈ flags.letters, (!isQuote c) = true := by
    intro c hc
    rw [isQuote_of_mem_letters hc]
    rfl
  constructor
  · rw [List.takeWhile_append_of_pos hletters, List.takeWhile_cons, isQuote_quote]
    simp
  · rw [List.dropWhile_append_of_pos hletters, List.dropWhile_cons, isQuote_quote]
    simp

end StringFlags

/-! ### Between the quotes -/

/-- A text with one quote on either side does not begin with that quote. -/
def StringToken.Readable (t : StringToken) : Prop :=
  t.flags.triplicate = false → t.escaped.toList.head? ≠ some t.flags.quote

lemma rdrop_append_length {α : Type} (l more : List α) : (l ++ more).rdrop more.length = l := by
  simp [List.rdrop]

lemma readQuoted_triple (quote : Char) (escaped : List Char) :
    readQuoted quote (quote :: quote :: (escaped ++ [quote, quote, quote])) = (true, escaped) := by
  have hopen : [quote, quote] <+: quote :: quote :: (escaped ++ [quote, quote, quote]) :=
    ⟨escaped ++ [quote, quote, quote], rfl⟩
  rw [readQuoted, if_pos hopen]
  congr 1
  exact rdrop_append_length escaped [quote, quote, quote]

lemma readQuoted_single {quote : Char} {escaped : List Char}
    (hhead : escaped.head? ≠ some quote) :
    readQuoted quote (escaped ++ [quote]) = (false, escaped) := by
  have hopen : ¬[quote, quote] <+: escaped ++ [quote] := by
    cases escaped with
    | nil =>
      intro hle
      have := hle.length_le
      simp at this
    | cons c rest =>
      intro hle
      rw [List.cons_append, List.cons_prefix_cons] at hle
      exact hhead (by simp [hle.1])
  rw [readQuoted, if_neg hopen]
  congr 1
  exact rdrop_append_length escaped [quote]

lemma readQuoted_delimited {t : StringToken} (h : t.Readable) :
    ∃ rest, t.flags.delimiter ++ (t.escaped.toList ++ t.flags.delimiter) = t.flags.quote :: rest ∧
      readQuoted t.flags.quote rest = (t.flags.triplicate, t.escaped.toList) := by
  unfold StringFlags.delimiter
  cases htriple : t.flags.triplicate with
  | true => exact ⟨_, rfl, readQuoted_triple _ _⟩
  | false => exact ⟨_, rfl, readQuoted_single (h htriple)⟩

lemma toList_literal (t : StringToken) :
    t.literal.toList =
      t.flags.letters ++ (t.flags.delimiter ++ (t.escaped.toList ++ t.flags.delimiter)) := by
  simp [StringToken.literal]

theorem readLiteral?_literal {t : StringToken} (h : t.Readable) :
    readLiteral? t.literal = some (t.flags, t.escaped) := by
  obtain ⟨rest, hquoted, hread⟩ := readQuoted_delimited h
  obtain ⟨hletters, hrest⟩ := t.flags.span_letters rest
  have htext : t.literal.toList = t.flags.letters ++ t.flags.quote :: rest := by
    rw [toList_literal, hquoted]
  unfold readLiteral?
  rw [htext, hrest, hletters]
  simp only [hread, StringFlags.ofFront_letters, String.ofList_toList]

-- Without the condition, four quotes between two more are nothing between three and three.
example :
    StringToken.literal ⟨⟨.string, 0, 0⟩, ⟨false, false, false, false, false, false⟩, "\"\"\"\""⟩ =
      StringToken.literal ⟨⟨.string, 0, 0⟩, ⟨false, true, false, false, false, false⟩, ""⟩ := by
  decide

namespace Node

/-- Printed string literals are read back, so two string nodes have one text only if they have the
same flags and the same text between their quotes. -/
theorem string_print_reads_back {t u : StringToken} (ht : t.Readable) (hu : u.Readable)
    (head head' : Head) (options options' : PrintOptions) :
    readLiteral? ((mk head (.string t)).print options) = some (t.flags, t.escaped) ∧
      readLiteral? ((mk head' (.string u)).print options') = some (u.flags, u.escaped) ∧
      ((mk head (.string t)).print options = (mk head' (.string u)).print options' ↔
        t.flags = u.flags ∧ t.escaped = u.escaped) := by
  have hprint : (mk head (.string t)).print options = t.literal := print_ofString options ⟨head, t⟩
  have hprint' : (mk head' (.string u)).print options' = u.literal :=
    print_ofString options' ⟨head', u⟩
  have hread := readLiteral?_literal ht
  have hread' := readLiteral?_literal hu
  rw [hprint, hprint']
  refine ⟨hread, hread', ?_, ?_⟩
  · intro hsame
    rw [hsame, hread'] at hread
    obtain ⟨hflags, hescaped⟩ := Prod.mk.inj (Option.some.inj hread)
    exact ⟨hflags.symm, hescaped.symm⟩
  · rintro ⟨hflags, hescaped⟩
    rw [StringToken.literal, StringToken.literal, hflags, hescaped]

section Witness

def emptyToken : StringToken :=
  ⟨⟨.string, 0, 2⟩, ⟨true, false, false, false, false, false⟩, ""⟩

/-- A text that begins and ends with the quotes around it. -/
def quotesToken : StringToken :=
  ⟨⟨.string, 0, 12⟩, ⟨true, true, true, false, false, true⟩, "''u\"'"⟩

def emptyString : Node :=
  mk ⟨0, ⟨0, 2⟩, .given⟩ (.string emptyToken)

def quotesString : Node :=
  mk ⟨1, ⟨0, 12⟩, .given⟩ (.string quotesToken)

theorem quotesString_reads_back :
    emptyToken.Readable ∧ quotesToken.Readable ∧
      emptyString.print ⟨false⟩ = "''" ∧ readLiteral? "''" = some (emptyToken.flags, "") ∧
      quotesString.print ⟨true⟩ = "rf'''''u\"''''" ∧
      readLiteral? "rf'''''u\"''''" = some (quotesToken.flags, "''u\"'") ∧
      emptyString.print ⟨false⟩ ≠ quotesString.print ⟨true⟩ := by
  have hempty : emptyToken.Readable := by
    intro _
    decide
  have hquotes : quotesToken.Readable := nofun
  have htext : emptyString.print ⟨false⟩ = "''" := print_ofString ⟨false⟩ ⟨_, emptyToken⟩
  have htext' : quotesString.print ⟨true⟩ = "rf'''''u\"''''" :=
    print_ofString ⟨true⟩ ⟨_, quotesToken⟩
  obtain ⟨hread, hread', hinj⟩ := string_print_reads_back hempty hquotes emptyString.head
    quotesString.head ⟨false⟩ ⟨true⟩
  refine ⟨hempty, hquotes, htext, ?_, htext', ?_, fun hsame => ?_⟩
  · exact htext ▸ hread
  · exact htext' ▸ hread'
  · exact absurd (hinj.mp hsame).1 (by decide)

end Witness

end Node

end SyntaxForest
