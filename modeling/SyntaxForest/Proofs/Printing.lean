import SyntaxForest.Node.Print
import SyntaxForest.Node.Template
import SyntaxForest.Proofs.Descendants
import SyntaxForest.Proofs.Samples

/-!
# The printing loop and the templates

A printer is given by the texts it puts into the holes of the templates. Both the loop over chains
and the recursion over templates put their own texts there, and there is only one way to do so,
because every hole stands for a smaller node.
-/

namespace SyntaxForest

/-- What a piece contributes if a node in a hole has the text that the printer gives it. -/
def Piece.textBy (printer : Node → String) : Piece → String
  | fixed text => text
  | leaf text => text
  | hole n => printer n

/-- The text of pieces whose holes are filled by a printer. -/
def fill (printer : Node → String) (pieces : List Piece) : String :=
  String.join (pieces.map (Piece.textBy printer))

section Fill

variable (printer : Node → String)

@[simp]
lemma fill_nil : fill printer [] = "" :=
  String.join_nil

@[simp]
lemma fill_cons (piece : Piece) (pieces : List Piece) :
    fill printer (piece :: pieces) = piece.textBy printer ++ fill printer pieces := by
  unfold fill
  rw [List.map_cons, String.join_cons]

@[simp]
lemma fill_append (pieces others : List Piece) :
    fill printer (pieces ++ others) = fill printer pieces ++ fill printer others := by
  unfold fill
  rw [List.map_append, String.join_append]

@[simp]
lemma textBy_fixed (text : String) : (Piece.fixed text).textBy printer = text := rfl

@[simp]
lemma textBy_leaf (text : String) : (Piece.leaf text).textBy printer = text := rfl

@[simp]
lemma textBy_hole (n : Node) : (Piece.hole n).textBy printer = printer n := rfl

@[simp]
lemma fill_separated (separator : String) (groups : List (List Piece)) :
    fill printer (Piece.separated separator groups) =
      separator.intercalate (groups.map (fill printer)) := by
  induction groups with
  | nil => simp
  | cons group rest ih =>
    cases rest with
    | nil => simp
    | cons next rest =>
      rw [Piece.separated_cons_cons, fill_append, fill_cons, ih]
      simp only [List.map_cons, String.intercalate_cons_cons, textBy_fixed, String.append_assoc]

end Fill

lemma fill_congr {f g : Node → String} {pieces : List Piece}
    (h : ∀ n, Piece.hole n ∈ pieces → f n = g n) : fill f pieces = fill g pieces := by
  unfold fill
  congr 1
  apply List.map_congr_left
  intro piece hpiece
  cases piece with
  | fixed text => rfl
  | leaf text => rfl
  | hole n => exact h n hpiece

/-! ### The texts of what has no parts

The printer puts them together from tables and flags of its own. -/

namespace Prescribed

@[simp]
lemma number_eq_text (value : NumberValue) : number value = value.text := by
  cases value with
  | integer value =>
    cases value with
    | ofNat n =>
      have hsign : ¬Int.ofNat n < 0 := Int.not_lt.mpr (Int.natCast_nonneg n)
      rw [number, if_neg hsign, String.empty_append]
      exact Nat.toString_eq_ofList_toDigits.symm
    | negSucc n =>
      rw [number, if_pos (Int.negSucc_lt_zero n)]
      exact congrArg ("-" ++ ·) Nat.toString_eq_ofList_toDigits.symm
  | real value => rfl
  | complex re im =>
    rcases re with ⟨_ | _, _ | significand, exponent⟩ | negative | _ <;> rfl

lemma letters_eq_ofList (flags : StringFlags) : letters flags = String.ofList flags.letters := by
  rcases flags with ⟨_ | _, _ | _, _ | _, _ | _, _ | _, _ | _⟩ <;> rfl

lemma quotes_eq_ofList (flags : StringFlags) : quotes flags = String.ofList flags.delimiter := by
  rcases flags with ⟨_ | _, _ | _, _, _, _, _⟩ <;> rfl

@[simp]
lemma literal_eq_literal (t : StringToken) : literal t = t.literal := by
  rw [literal, letters_eq_ofList, quotes_eq_ofList, StringToken.literal, String.ofList_append]

@[simp]
lemma constant_eq_constant (t : KeywordToken) : constant t.keyword = t.constant := by
  unfold KeywordToken.constant
  cases t.keyword <;> rfl

@[simp]
lemma operator_eq_text (op : Option Operator) : operator op = Operator.text op := by
  rcases op with _ | op
  · rfl
  · cases op <;> rfl

@[simp]
lemma argumentStars_eq_stars (category : ArgumentCategory) :
    argumentStars category = category.stars := by
  cases category <;> rfl

@[simp]
lemma parameterStars_eq_stars (category : ParameterCategory) :
    parameterStars category = category.stars := by
  cases category <;> rfl

end Prescribed

namespace Node

variable (options : PrintOptions)

/-! ### One text for every node -/

/-- Printers that fill the templates with their own texts are the same. -/
theorem eq_of_fill {f g : Node → String} (hf : ∀ n, f n = fill f (n.template options))
    (hg : ∀ n, g n = fill g (n.template options)) (n : Node) : f n = g n := by
  rw [hf n, hg n]
  exact fill_congr fun c hc => eq_of_fill hf hg c
termination_by sizeOf n
decreasing_by exact sizeOf_lt_of_hole_mem_template hc

lemma join_flatMap {α : Type} (f : α → List String) (l : List α) :
    String.join (l.flatMap f) = String.join (l.map fun a => String.join (f a)) := by
  induction l with
  | nil => rfl
  | cons a rest ih =>
    rw [List.flatMap_cons, String.join_append, ih, List.map_cons, String.join_cons]

lemma join_filled (piece : Piece) :
    String.join ((piece.filled options).map Piece.text) = piece.textBy (text options) := by
  cases piece with
  | fixed text => simp [Piece.filled, Piece.text]
  | leaf text => simp [Piece.filled, Piece.text]
  | hole c => rfl

lemma text_eq_fill (n : Node) : n.text options = fill (text options) (n.template options) := by
  unfold text fill
  rw [pieces_eq, List.map_flatMap, join_flatMap]
  congr 1
  apply List.map_congr_left
  intro piece _
  exact join_filled options piece

/-- The holes of a template stand for nodes of the tree. -/
lemma reaches_of_hole {options : PrintOptions} {n c : Node}
    (hc : Piece.hole c ∈ n.template options) : n.Reaches c := by
  rcases mem_children_of_hole_mem_template hc with hc | ⟨d, hd, hc⟩
  · exact .of_child hc (.refl c)
  · exact .of_child hd (.of_child hc (.refl c))

/-! ### The loop -/

lemma unroll_of_left {n left : Node} (h : n.left? = some left) (links : List Node) :
    n.unroll links = left.unroll (n :: links) := by
  rw [unroll]
  split
  · simp_all
  · simp_all

lemma unroll_of_root {n : Node} (h : n.left? = none) (links : List Node) :
    n.unroll links = (n, links) := by
  rw [unroll]
  split
  · simp_all
  · rfl

lemma unroll_append (n : Node) (links : List Node) :
    n.unroll links = ((n.unroll []).1, (n.unroll []).2 ++ links) := by
  induction n using Node.induction generalizing links with
  | step n ih =>
    cases hleft : n.left? with
    | none => simp [unroll_of_root hleft]
    | some left =>
      have hchild := mem_children_of_left? hleft
      rw [unroll_of_left hleft, unroll_of_left hleft, ih left hchild (n :: links),
        ih left hchild [n]]
      simp

lemma print_eq_foldl (n : Node) :
    n.print options = (n.unroll []).2.foldl (fun text link => text ++ link.printSuffix options)
      ((n.unroll []).1.printRoot options) := by
  rw [print]
  simp

lemma print_of_root {n : Node} (h : n.left? = none) : n.print options = n.printRoot options := by
  rw [print_eq_foldl, unroll_of_root h]
  rfl

/-- One turn of the loop, seen from its end: the last link adds to the text of all before it. -/
lemma print_of_left {n left : Node} (h : n.left? = some left) :
    n.print options = left.print options ++ n.printSuffix options := by
  rw [print_eq_foldl, print_eq_foldl, unroll_of_left h, unroll_append, List.foldl_append]
  rfl

lemma print_ofName (part : NameNode) : (ofName part).print options = part.content.value := by
  rw [print_of_root options rfl, ofName, printRoot]

lemma print_ofString (part : StringNode) :
    (ofString part).print options = part.content.literal := by
  rw [print_of_root options rfl, ofString, printRoot]

/-! ### The texts of parts -/

lemma printArgument_eq_fill (argument : Placed (Argument Node)) :
    printArgument options argument = fill (print options) (Piece.ofArgument argument) := by
  rcases argument with ⟨head, value, category, _ | name⟩
  · simp [printArgument, Piece.ofArgument, Piece.ofName?, keywordText]
  · simp [printArgument, Piece.ofArgument, Piece.ofName?, keywordText, print_ofName,
      String.append_assoc]

lemma printParameter_eq_fill (parameter : Placed (Parameter Node)) :
    printParameter options parameter = fill (print options) (Piece.ofParameter parameter) := by
  rcases parameter with ⟨head, _ | name, category, declared, _ | initial⟩
  all_goals
    simp [printParameter, Piece.ofParameter, Piece.ofName?, nameText, print_ofName,
      String.append_assoc]

lemma printClause_eq_fill (clause : Placed (Clause Node)) :
    printClause options clause = fill (print options) (Piece.ofClause clause) := by
  rcases clause with ⟨head, ⟨target, iterable, isAsync⟩ | condition⟩
  · simp [printClause, Piece.ofClause, String.append_assoc]
  · simp [printClause, Piece.ofClause]

lemma printEntry_eq_fill (entry : Node) :
    printEntry options entry = fill (print options) (Piece.ofEntry entry) := by
  unfold Piece.ofEntry
  split
  · simp [printEntry, String.append_assoc]
  · rename_i hentry
    rw [printEntry]
    · simp
    · exact hentry

lemma printRoot_eq_fill {n : Node} (h : n.left? = none) :
    n.printRoot options = fill (print options) (n.template options) := by
  rcases n with ⟨head, shape⟩
  cases shape with
  | memberAccess left member => cases h
  | binary left operator right => cases h
  | augmented left operator right => cases h
  | call callee arguments =>
    simp [printRoot, template, commaSeparated, printArgument_eq_fill, String.append_assoc,
      Function.comp_def]
  | lambda parameters body =>
    simp [printRoot, template, commaSeparated, printParameter_eq_fill, String.append_assoc,
      Function.comp_def]
  | dictionary entries =>
    simp [printRoot, template, commaSeparated, printEntry_eq_fill, String.append_assoc,
      Function.comp_def]
  | comprehension body clauses =>
    simp only [printRoot, template, Piece.ofBody]
    split
    · simp [printEntry_eq_fill, printClause_eq_fill, String.append_assoc, Function.comp_def]
    · simp [printClause_eq_fill, String.append_assoc, Function.comp_def]
      rfl
  | stringList strings forward =>
    cases hforward : options.forward <;> cases forward <;>
      simp [printRoot, template, hforward, print_ofString, Function.comp_def]
  | yield value => cases value <;> simp [printRoot, template]
  | tuple entries =>
    rcases entries with _ | ⟨first, _ | ⟨second, rest⟩⟩
    · simp [printRoot, template, tupleText, commaSeparated]
    · simp [printRoot, template, tupleText, String.append_assoc]
    · simp [printRoot, template, tupleText, commaSeparated, String.append_assoc,
        Function.comp_def]
  | slice start stop step =>
    cases start <;> cases stop <;> cases step <;>
      simp [printRoot, template, Piece.ofBound, String.append_assoc]
  | _ =>
    simp [printRoot, template, placeholder, commaSeparated, Function.comp_def, String.append_assoc]

/-- The text of every node is its template, filled with the texts of other nodes. At a link of a
chain the left part and what the link adds to it make up the template. -/
theorem print_eq_fill (n : Node) : n.print options = fill (print options) (n.template options) := by
  rcases n with ⟨head, shape⟩
  cases shape with
  | memberAccess left member =>
    rw [print_of_left options rfl]
    simp [printSuffix, template, print_ofName]
  | binary left operator right =>
    rw [print_of_left options rfl]
    simp [printSuffix, template, String.append_assoc]
  | augmented left operator right =>
    rw [print_of_left options rfl]
    simp [printSuffix, template, String.append_assoc]
  | _ => rw [print_of_root options rfl, printRoot_eq_fill options rfl]

/-- The loop over chains and the recursion over templates give every node of every kind the same
text, under any options. -/
theorem print_eq_text (n : Node) : n.print options = n.text options :=
  eq_of_fill options (print_eq_fill options) (text_eq_fill options) n

section Witness

def starredReturn : Placed (Argument Node) :=
  ⟨⟨2, ⟨0, 0⟩, .fitted⟩, ⟨bareReturn, .unpackedList, none⟩⟩

/-- A keyword that is no constant. -/
def expandedPass : Placed (Argument Node) :=
  ⟨⟨4, ⟨0, 4⟩, .fitted⟩,
    ⟨mk ⟨3, ⟨0, 4⟩, .given⟩ (.constant (.ofKeyword .passWord 0)), .unpackedDictionary, none⟩⟩

def eachQuoted : Placed (Clause Node) :=
  ⟨⟨9, ⟨0, 3⟩, .fitted⟩, .each (ofName (nameAt 5 0 "x"))
    (mk ⟨8, ⟨0, 3⟩, .fitted⟩ (.stringList [stringAt 6 0 "T"] (some (ofName (nameAt 7 0 "int")))))
    true⟩

def numberLoop : Node :=
  mk ⟨11, ⟨0, 3⟩, .fitted⟩ (.comprehension
    (mk ⟨10, ⟨0, 2⟩, .given⟩ (.number (.ofValue (.integer (-3)) 0 0))) [eachQuoted])

def namedLoop : Placed (Argument Node) :=
  ⟨⟨13, ⟨0, 3⟩, .fitted⟩, ⟨numberLoop, .simple, some (nameAt 12 0 "k")⟩⟩

def memberOfLoop : Node :=
  mk ⟨16, ⟨0, 4⟩, .fitted⟩ (.memberAccess (mk ⟨14, ⟨0, 4⟩, .fitted⟩
    (.call (ofName (nameAt 0 0 "f")) [starredReturn, expandedPass, namedLoop])) (nameAt 15 0 "y"))

def rawString : Node :=
  mk ⟨17, ⟨0, 10⟩, .given⟩
    (.string (.ofEscaped "abc" ⟨true, true, true, false, false, false⟩ 0 0))

def oneAndHalf : Binary64 :=
  .finite false 6755399441055744 (-52)

def testNumber : Placed (Clause Node) :=
  ⟨⟨20, ⟨0, 3⟩, .fitted⟩,
    .test (mk ⟨19, ⟨0, 3⟩, .given⟩ (.number (.ofValue (.real oneAndHalf) 0 0)))⟩

/-- A chain of three links. The operator of the inner operation is not known, and the body of the
comprehension is a statement. -/
def addedLoop : Node :=
  mk ⟨22, ⟨0, 10⟩, .fitted⟩ (.augmented
    (mk ⟨18, ⟨0, 10⟩, .fitted⟩ (.binary memberOfLoop none rawString)) (some .addEqual)
    (mk ⟨21, ⟨0, 3⟩, .fitted⟩ (.comprehension bareReturn [testNumber])))

theorem addedLoop_texts :
    addedLoop.print ⟨false⟩ =
        "f(*<Expression>, **<Expression>, k=-3 async for x in \"T\").y" ++
          " unknown r'''abc''' += <ListExpression> if 1.5" ∧
      addedLoop.print ⟨true⟩ =
        "f(*<Expression>, **<Expression>, k=-3 async for x in int).y" ++
          " unknown r'''abc''' += <ListExpression> if 1.5" := by
  have hreal : (NumberValue.real oneAndHalf).text = "1.5" := by decide +kernel
  have htext : ∀ forward, addedLoop.text ⟨forward⟩ =
      "f(*<Expression>, **<Expression>, k=-3 async for x in " ++
        (if forward then "int" else "\"T\"") ++
          ").y unknown r'''abc''' += <ListExpression> if 1.5" := by
    intro forward
    cases forward <;>
      simp [text_eq_fill, addedLoop, memberOfLoop, numberLoop, rawString, eachQuoted, testNumber,
        starredReturn, expandedPass, namedLoop, bareReturn, nameAt, stringAt, template, ofName,
        ofString, Piece.ofArgument, Piece.ofName?, Piece.ofBody, Piece.ofEntry, Piece.ofClause,
        Shape.kind, Kind.isExpression, NameToken.ofValue, NumberToken.ofValue, hreal] <;>
      rfl
  exact ⟨(print_eq_text ⟨false⟩ addedLoop).trans (htext false),
    (print_eq_text ⟨true⟩ addedLoop).trans (htext true)⟩

end Witness

end Node

end SyntaxForest
