import SyntaxForest.Proofs.Bracketed
import SyntaxForest.Proofs.Outline

/-!
# Unique readability of bracketed expressions

Two bracketed expressions with the same text have the same outline. The proof reads both texts from
the end, with arbitrary text left over, and shows that the readings agree step by step: the last
character decides between a word and the three sorts of brackets, and what is left over tells an
expression that stands on another one from an expression that stands alone.
-/

namespace SyntaxForest

/-- What may stand in front of an expression. -/
def fronts : List Char :=
  ['(', '[', ' ', '=', '*']

/-- What may stand in front of an argument or an entry. -/
def gaps : List Char :=
  ['(', '[', ' ']

def Front (rest : List Char) : Prop :=
  ∀ c ∈ rest.head?, c ∈ fronts

def Gap (rest : List Char) : Prop :=
  ∃ c ∈ rest.head?, c ∈ gaps

def Ends (chars : List Char) : Prop :=
  ∃ c ∈ chars.head?, c ∉ fronts

lemma Gap.mem_gaps {rest : List Char} (h : Gap rest) : ∀ c ∈ rest.head?, c ∈ gaps := by
  obtain ⟨c, hc, hgap⟩ := h
  intro d hd
  cases Option.mem_unique hc hd
  exact hgap

lemma Gap.front {rest : List Char} (h : Gap rest) : Front rest := by
  intro c hc
  have hgap := h.mem_gaps c hc
  unfold gaps at hgap
  unfold fronts
  simp only [List.mem_cons] at hgap ⊢
  tauto

lemma Gap.cons {c : Char} (rest : List Char) (h : c ∈ gaps) : Gap (c :: rest) :=
  ⟨c, rfl, h⟩

lemma Front.cons {c : Char} (rest : List Char) (h : c ∈ fronts) : Front (c :: rest) := by
  rintro d ⟨⟩
  exact h

lemma Ends.cons {c : Char} (rest : List Char) (h : c ∉ fronts) : Ends (c :: rest) :=
  ⟨c, rfl, h⟩

lemma Ends.append {chars : List Char} (h : Ends chars) (rest : List Char) :
    Ends (chars ++ rest) := by
  obtain ⟨c, hc, hfront⟩ := h
  refine ⟨c, ?_, hfront⟩
  rw [List.head?_append, hc]
  rfl

lemma Ends.not_front {chars : List Char} (h : Ends chars) : ¬Front chars := by
  obtain ⟨c, hc, hnot⟩ := h
  exact fun hfront => hnot (hfront c hc)

/-! ### Words -/

/-- Two texts that begin with characters of one sort, each as far as it goes, begin alike. -/
lemma append_inj_of_sort {P : Char → Prop} {u v r s : List Char} (hu : ∀ c ∈ u, P c)
    (hv : ∀ c ∈ v, P c) (hr : ∀ c ∈ r.head?, ¬P c) (hs : ∀ c ∈ s.head?, ¬P c)
    (h : u ++ r = v ++ s) : u = v ∧ r = s := by
  induction u generalizing v with
  | nil =>
    cases v with
    | nil => exact ⟨rfl, h⟩
    | cons d v =>
      rw [List.nil_append] at h
      exact absurd (hv d List.mem_cons_self) (hr d (by rw [h]; rfl))
  | cons c u ih =>
    cases v with
    | nil =>
      rw [List.nil_append] at h
      exact absurd (hu c List.mem_cons_self) (hs c (by rw [← h]; rfl))
    | cons d v =>
      rw [List.cons_append, List.cons_append, List.cons.injEq] at h
      obtain ⟨rfl, h⟩ := h
      obtain ⟨rfl, hrest⟩ := ih (fun c hc => hu c (List.mem_cons_of_mem _ hc))
        (fun c hc => hv c (List.mem_cons_of_mem _ hc)) h
      exact ⟨rfl, hrest⟩

lemma mem_marks_of_mem_fronts {c : Char} (h : c ∈ fronts) : c ∈ marks := by
  revert h
  unfold fronts marks
  simp only [List.mem_cons]
  tauto

lemma Front.mem_marks {rest : List Char} (h : Front rest) : ∀ c ∈ rest.head?, c ∈ marks :=
  fun c hc => mem_marks_of_mem_fronts (h c hc)

lemma IsWord.not_mem_marks {value : String} (h : IsWord value) :
    ∀ c ∈ value.toList.reverse, c ∉ marks :=
  fun c hc => h.2 c (List.mem_reverse.mp hc)

lemma IsWord.ends {value : String} (h : IsWord value) : Ends value.toList.reverse := by
  obtain ⟨hne, hmarks⟩ := id h
  cases hrev : value.toList.reverse with
  | nil => exact absurd (by simpa using hrev) hne
  | cons c rest =>
    apply Ends.cons
    intro hfront
    exact h.not_mem_marks c (by rw [hrev]; exact List.mem_cons_self)
      (mem_marks_of_mem_fronts hfront)

lemma word_inj {value value' : String} (h : IsWord value) (h' : IsWord value') {r s : List Char}
    (hr : ∀ c ∈ r.head?, c ∈ marks) (hs : ∀ c ∈ s.head?, c ∈ marks)
    (heq : value.toList.reverse ++ r = value'.toList.reverse ++ s) : value = value' ∧ r = s := by
  obtain ⟨hvalue, hrest⟩ := append_inj_of_sort h.not_mem_marks h'.not_mem_marks
    (fun c hc => not_not_intro (hr c hc)) (fun c hc => not_not_intro (hs c hc)) heq
  exact ⟨String.toList_inj.mp (List.reverse_inj.mp hvalue), hrest⟩

/-! ### What readings begin with -/

/-- The closing bracket that a text ends with, if it does. -/
def closer? (c : Char) : Option Char :=
  if c ∈ [')', ']', '\x7d'] then some c else none

def Node.closer? : Node → Option Char
  | mk _ (.call _ _) | mk _ (.tuple _) => some ')'
  | mk _ (.index _ _) | mk _ (.list _) => some ']'
  | mk _ (.dictionary _) => some '\x7d'
  | _ => none

section Reading

variable (options : PrintOptions)

lemma reading_ends {part : Part} {n : Node} (h : Bracketed part n) :
    Ends (reading options part n) := by
  induction h with
  | name hword =>
    rw [reading_name]
    exact hword.ends
  | memberAccess _ hword _ =>
    rw [reading_memberAccess]
    exact hword.ends.append _
  | call => rw [reading_call]; exact Ends.cons _ (by decide)
  | index => rw [reading_index]; exact Ends.cons _ (by decide)
  | list => rw [reading_list]; exact Ends.cons _ (by decide)
  | tuple => rw [reading_tuple]; exact Ends.cons _ (by decide)
  | dictionary => rw [reading_dictionary]; exact Ends.cons _ (by decide)
  | argument _ _ ih => rw [reading_argument]; exact ih.append _
  | keyEntry _ _ _ ih => rw [reading_keyEntry]; exact ih.append _
  | expandEntry _ ih => rw [reading_expandEntry]; exact ih.append _

lemma closer?_of_word {value : String} (h : IsWord value) (rest : List Char) :
    (value.toList.reverse ++ rest).head?.bind closer? = none := by
  obtain ⟨c, hc, -⟩ := h.ends
  have hmark : c ∉ marks := h.not_mem_marks c (List.mem_of_mem_head? hc)
  rw [List.head?_append, hc]
  have hcloser : closer? c = none := by
    unfold closer?
    rw [if_neg]
    intro hmem
    apply hmark
    unfold marks
    simp only [List.mem_cons] at hmem ⊢
    tauto
  simpa using hcloser

lemma closer?_reading {n : Node} (h : Bracketed .expression n) (rest : List Char) :
    (reading options .expression n ++ rest).head?.bind closer? = n.closer? := by
  cases h with
  | name hword => rw [reading_name]; exact closer?_of_word hword rest
  | memberAccess _ hword =>
    rw [reading_memberAccess, List.append_assoc]
    exact closer?_of_word hword _
  | call => rw [reading_call]; rfl
  | index => rw [reading_index]; rfl
  | list => rw [reading_list]; rfl
  | tuple => rw [reading_tuple]; rfl
  | dictionary => rw [reading_dictionary]; rfl

lemma closer?_eq {a b : Node} (ha : Bracketed .expression a) (hb : Bracketed .expression b)
    {r s : List Char}
    (h : reading options .expression a ++ r = reading options .expression b ++ s) :
    a.closer? = b.closer? := by
  rw [← closer?_reading options ha r, ← closer?_reading options hb s, h]

/-! ### Lists -/

def Part.Boundary : Part → List Char → Prop
  | expression => Front
  | _ => Gap

lemma Gap.boundary {rest : List Char} (h : Gap rest) (part : Part) : part.Boundary rest := by
  cases part with
  | expression => exact h.front
  | argument => exact h
  | entry => exact h

/-- No other node can be read where the given one stands: what is read has the same outline, and
what is left over is the same. -/
def ReadsBack (part : Part) (a : Node) : Prop :=
  ∀ b, Bracketed part b → ∀ r s, part.Boundary r → part.Boundary s →
    reading options part a ++ r = reading options part b ++ s → a.outline = b.outline ∧ r = s

def afterListing (rest : List Char) : List (List Char) → List Char
  | [] => rest
  | readings => ' ' :: ',' :: (listing readings ++ rest)

lemma listing_cons_append (chars : List Char) (readings : List (List Char)) (rest : List Char) :
    listing (chars :: readings) ++ rest = chars ++ afterListing rest readings := by
  unfold listing
  cases readings with
  | nil => simp [afterListing]
  | cons next readings => simp [afterListing, listing]

lemma Gap.afterListing {rest : List Char} (h : Gap rest) (readings : List (List Char)) :
    Gap (afterListing rest readings) := by
  cases readings with
  | nil => exact h
  | cons next readings => exact Gap.cons _ (by decide)

/-- Opening brackets, read from the end, that no comma between nodes is taken for. -/
structure Opening (opening : List Char) : Prop where
  gap : ∀ rest, Gap (opening ++ rest)
  not_comma : ∀ rest others, opening ++ rest ≠ ' ' :: ',' :: others

lemma Opening.not_ends {opening : List Char} (h : Opening opening) (rest : List Char) :
    ¬Ends (opening ++ rest) :=
  fun hends => hends.not_front (h.gap rest).front

/-- Listings up to an opening bracket are read alike. -/
lemma listing_inj {part : Part} {opening : List Char} (hopen : Opening opening) {xs ys : List Node}
    (hx : ∀ x ∈ xs, Bracketed part x) (hread : ∀ x ∈ xs, ReadsBack options part x)
    (hy : ∀ y ∈ ys, Bracketed part y) {r s : List Char}
    (h : listing (xs.map (reading options part)) ++ (opening ++ r) =
      listing (ys.map (reading options part)) ++ (opening ++ s)) :
    xs.map Node.outline = ys.map Node.outline ∧ r = s := by
  induction xs generalizing ys with
  | nil =>
    cases ys with
    | nil => exact ⟨rfl, List.append_cancel_left h⟩
    | cons y ys =>
      have hends := reading_ends options (hy y List.mem_cons_self)
      rw [List.map_cons, listing_cons_append] at h
      exact absurd (h ▸ hends.append _) (hopen.not_ends r)
  | cons x xs ih =>
    cases ys with
    | nil =>
      have hends := reading_ends options (hx x List.mem_cons_self)
      rw [List.map_cons, listing_cons_append] at h
      exact absurd (h ▸ hends.append _) (hopen.not_ends s)
    | cons y ys =>
      rw [List.map_cons, List.map_cons, listing_cons_append, listing_cons_append] at h
      obtain ⟨houtline, hafter⟩ := hread x List.mem_cons_self y (hy y List.mem_cons_self) _ _
        (((hopen.gap r).afterListing _).boundary part)
        (((hopen.gap s).afterListing _).boundary part) h
      have hrest : xs.map Node.outline = ys.map Node.outline ∧ r = s := by
        cases xs with
        | nil =>
          cases ys with
          | nil => exact ⟨rfl, List.append_cancel_left hafter⟩
          | cons y' ys => exact absurd hafter (hopen.not_comma r _)
        | cons x' xs =>
          cases ys with
          | nil => exact absurd hafter.symm (hopen.not_comma s _)
          | cons y' ys =>
            apply ih (fun z hz => hx z (List.mem_cons_of_mem _ hz))
              (fun z hz => hread z (List.mem_cons_of_mem _ hz))
              (fun z hz => hy z (List.mem_cons_of_mem _ hz))
            simpa [afterListing] using hafter
      exact ⟨by rw [List.map_cons, List.map_cons, houtline, hrest.1], hrest.2⟩

/-! ### Arguments -/

lemma lead_not_mem_gaps (category : ArgumentCategory) {name : Option NameNode}
    (hname : ∀ part ∈ name, IsWord part.content.value) :
    ∀ c ∈ (category.stars ++ keywordText name).toList.reverse, c ∉ gaps := by
  have hstars : ∀ c ∈ category.stars.toList, c ∉ gaps := by
    cases category <;> simp [ArgumentCategory.stars, gaps]
  have hkeyword : ∀ c ∈ (keywordText name).toList, c ∉ gaps := by
    cases name with
    | none => simp [keywordText]
    | some part =>
      intro c hc hgap
      simp only [keywordText, String.toList_append, List.mem_append] at hc
      rcases hc with hc | hc
      · exact (hname part rfl).2 c hc (mem_marks_of_mem_fronts ((Gap.cons [] hgap).front c rfl))
      · rw [show c = '=' by simpa using hc] at hgap
        exact absurd hgap (by decide)
  intro c hc
  rw [List.mem_reverse, String.toList_append, List.mem_append] at hc
  rcases hc with hc | hc
  · exact hstars c hc
  · exact hkeyword c hc

lemma front_lead (category : ArgumentCategory) (name : Option NameNode) {rest : List Char}
    (h : Gap rest) : Front ((category.stars ++ keywordText name).toList.reverse ++ rest) := by
  cases name with
  | some part =>
    have hlast : (category.stars ++ keywordText (some part)).toList.reverse ++ rest =
        '=' :: ((category.stars ++ part.content.value).toList.reverse ++ rest) := by
      simp [keywordText]
    rw [hlast]
    exact Front.cons _ (by decide)
  | none =>
    cases category with
    | simple => simpa [keywordText, ArgumentCategory.stars] using h.front
    | unpackedList => exact Front.cons _ (by decide)
    | unpackedDictionary => exact Front.cons _ (by decide)

lemma lead_inj {category category' : ArgumentCategory} {name name' : Option NameNode}
    (hname : ∀ part ∈ name, IsWord part.content.value)
    (hname' : ∀ part ∈ name', IsWord part.content.value)
    (h : category.stars ++ keywordText name = category'.stars ++ keywordText name') :
    category = category' ∧
      name.map (fun part => part.content.value) = name'.map fun part => part.content.value := by
  -- names hold no star, so the category is told by the number of stars
  have hcount : ∀ name : Option NameNode, (∀ part ∈ name, IsWord part.content.value) →
      (keywordText name).toList.count '*' = 0 := by
    intro name hname
    cases name with
    | none => rfl
    | some part =>
      have hnone : '*' ∉ part.content.value.toList :=
        fun hmem => (hname part rfl).2 _ hmem (by decide)
      simp [keywordText, List.count_eq_zero.mpr hnone]
  have hstars : category.stars.toList.count '*' = category'.stars.toList.count '*' := by
    have hboth := congrArg (fun text => text.toList.count '*') h
    simpa [hcount name hname, hcount name' hname'] using hboth
  have hcategory : category = category' := by
    revert hstars
    cases category <;> cases category' <;> decide
  refine ⟨hcategory, ?_⟩
  subst hcategory
  rw [← String.toList_inj, String.toList_append, String.toList_append] at h
  have hkeyword := String.toList_inj.mp (List.append_cancel_left h)
  cases name with
  | none =>
    cases name' with
    | none => rfl
    | some part' => simp [keywordText] at hkeyword
  | some part =>
    cases name' with
    | none => simp [keywordText] at hkeyword
    | some part' => simpa [keywordText] using hkeyword

lemma readsBack_argument {value : Node} (hvalue : ReadsBack options .expression value)
    (head : Head) (category : ArgumentCategory) {name : Option NameNode}
    (hname : ∀ part ∈ name, IsWord part.content.value) :
    ReadsBack options .argument (.mk head (.argument ⟨value, category, name⟩)) := by
  intro b hb r s hr hs h
  cases hb with
  | argument hbracketed hname' =>
    rw [reading_argument, reading_argument, List.append_assoc, List.append_assoc] at h
    obtain ⟨houtline, hlead⟩ := hvalue _ hbracketed _ _ (front_lead category name hr)
      (front_lead _ _ hs) h
    obtain ⟨hchars, hrest⟩ := append_inj_of_sort (lead_not_mem_gaps category hname)
      (lead_not_mem_gaps _ hname') (fun c hc => not_not_intro (hr.mem_gaps c hc))
      (fun c hc => not_not_intro (hs.mem_gaps c hc)) hlead
    obtain ⟨hcategory, hwords⟩ := lead_inj hname hname'
      (String.toList_inj.mp (List.reverse_inj.mp hchars))
    rw [Node.outline_argument, Node.outline_argument, houtline, hcategory, hwords]
    exact ⟨rfl, hrest⟩

/-! ### Brackets -/

lemma opening_round : Opening ['('] :=
  ⟨fun rest => Gap.cons rest (by decide), by simp⟩

lemma opening_square : Opening ['['] :=
  ⟨fun rest => Gap.cons rest (by decide), by simp⟩

lemma opening_curly : Opening [' ', '\x7b'] :=
  ⟨fun rest => Gap.cons _ (by decide), by simp⟩

lemma listing_head_ne_space {part : Part} {nodes : List Node} (h : ∀ n ∈ nodes, Bracketed part n)
    (rest others : List Char) :
    listing (nodes.map (reading options part)) ++ '(' :: rest ≠ ' ' :: others := by
  intro heq
  cases nodes with
  | nil => simp [listing] at heq
  | cons n nodes =>
    have hends := (reading_ends options (h n List.mem_cons_self)).append
      (afterListing ('(' :: rest) (nodes.map (reading options part)))
    rw [List.map_cons, listing_cons_append] at heq
    rw [heq] at hends
    exact hends.not_front (Front.cons _ (by decide))

lemma bracketed_plainArgument {n : Node} (h : Bracketed .expression n) :
    Bracketed .argument (plainArgument n) :=
  Bracketed.argument h (by simp)

lemma readsBack_plainArgument {n : Node} (h : ReadsBack options .expression n) :
    ReadsBack options .argument (plainArgument n) :=
  readsBack_argument options h _ _ (by simp)

lemma map_outline_of_plainArgument {xs ys : List Node}
    (h : (xs.map plainArgument).map Node.outline = (ys.map plainArgument).map Node.outline) :
    xs.map Node.outline = ys.map Node.outline := by
  have hplain : ∀ n : Node, (plainArgument n).outline =
      .mk .argument (.passing .simple) [none, some n.outline] :=
    fun n => Node.outline_argument n.head n .simple none
  have hinj : ∀ x y : Outline, Outline.mk .argument (.passing .simple) [none, some x] =
      .mk .argument (.passing .simple) [none, some y] → x = y := by
    intro x y hxy
    simpa using hxy
  apply (List.map_inj_right hinj).mp
  simpa [Function.comp_def, hplain] using h

lemma loneComma_eq {α : Type} (l : List α) : loneComma l = [' ', ','] ∨ loneComma l = [] := by
  rcases l with _ | ⟨a, _ | ⟨b, rest⟩⟩
  · exact .inr rfl
  · exact .inl rfl
  · exact .inr rfl

lemma forall_mem_reverse {P : Node → Prop} {nodes : List Node} (h : ∀ n ∈ nodes, P n) :
    ∀ n ∈ nodes.reverse, P n :=
  fun n hn => h n (List.mem_reverse.mp hn)

lemma brackets_inj {part : Part} {opening : List Char} (hopen : Opening opening) {xs ys : List Node}
    (hx : ∀ x ∈ xs, Bracketed part x) (hread : ∀ x ∈ xs, ReadsBack options part x)
    (hy : ∀ y ∈ ys, Bracketed part y) {r s : List Char}
    (h : listing (xs.reverse.map (reading options part)) ++ (opening ++ r) =
      listing (ys.reverse.map (reading options part)) ++ (opening ++ s)) :
    xs.map Node.outline = ys.map Node.outline ∧ r = s := by
  obtain ⟨houtlines, hrest⟩ := listing_inj options hopen (forall_mem_reverse hx)
    (forall_mem_reverse hread) (forall_mem_reverse hy) h
  rw [List.map_reverse, List.map_reverse] at houtlines
  exact ⟨List.reverse_inj.mp houtlines, hrest⟩

lemma call_ne_tuple {callee : Node} (hcallee : Bracketed .expression callee) {xs ys : List Node}
    (hx : ∀ x ∈ xs, Bracketed .argument x)
    (hrest : ∀ r s : List Char, listing (xs.reverse.map (reading options .argument)) ++ '(' :: r =
      listing (ys.reverse.map (reading options .argument)) ++ '(' :: s → r = s)
    {α : Type} (entries : List α) {r s : List Char} (hs : Front s) :
    listing (xs.reverse.map (reading options .argument)) ++
        '(' :: (reading options .expression callee ++ r) ≠
      loneComma entries ++ (listing (ys.reverse.map (reading options .argument)) ++ '(' :: s) := by
  intro h
  rcases loneComma_eq entries with hcomma | hcomma
  · rw [hcomma] at h
    exact listing_head_ne_space options (forall_mem_reverse hx) _ _ h
  · rw [hcomma, List.nil_append] at h
    have hends := (reading_ends options hcallee).append r
    rw [hrest _ _ h] at hends
    exact hends.not_front hs

lemma tuple_listings {xs ys : List Node} (hx : ∀ x ∈ xs, Bracketed .argument x)
    (hy : ∀ y ∈ ys, Bracketed .argument y) {α : Type} {entries entries' : List α} {r s : List Char}
    (h : loneComma entries ++ (listing (xs.reverse.map (reading options .argument)) ++ '(' :: r) =
      loneComma entries' ++ (listing (ys.reverse.map (reading options .argument)) ++ '(' :: s)) :
    listing (xs.reverse.map (reading options .argument)) ++ '(' :: r =
      listing (ys.reverse.map (reading options .argument)) ++ '(' :: s := by
  rcases loneComma_eq entries with hcomma | hcomma <;>
    rcases loneComma_eq entries' with hcomma' | hcomma' <;> rw [hcomma, hcomma'] at h
  · exact List.append_cancel_left h
  · exact absurd h.symm (listing_head_ne_space options (forall_mem_reverse hy) _ _)
  · exact absurd h (listing_head_ne_space options (forall_mem_reverse hx) _ _)
  · exact h

section Cases

variable {head : Head}

lemma readsBack_name {token : NameToken} (hword : IsWord token.value) :
    ReadsBack options .expression (.mk head (.name token)) := by
  intro b hb r s hr hs h
  have hcloser := closer?_eq options (.name hword) hb h
  cases hb with
  | name hword' =>
    rw [reading_name, reading_name] at h
    obtain ⟨hvalue, hrest⟩ := word_inj hword hword' hr.mem_marks hs.mem_marks h
    rw [Node.outline_name, Node.outline_name, hvalue]
    exact ⟨rfl, hrest⟩
  | memberAccess hleft hword' =>
    rw [reading_name, reading_memberAccess, List.append_assoc] at h
    obtain ⟨-, hrest⟩ := word_inj hword hword' hr.mem_marks (by simp [marks]) h
    rw [hrest] at hr
    exact absurd (hr '.' rfl) (by decide)
  | _ => cases hcloser

lemma readsBack_memberAccess {left : Node} {member : NameNode}
    (hleft : Bracketed .expression left) (hword : IsWord member.content.value)
    (ih : ReadsBack options .expression left) :
    ReadsBack options .expression (.mk head (.memberAccess left member)) := by
  intro b hb r s hr hs h
  have hcloser := closer?_eq options (.memberAccess hleft hword) hb h
  cases hb with
  | name hword' =>
    rw [reading_name, reading_memberAccess, List.append_assoc] at h
    obtain ⟨-, hrest⟩ := word_inj hword hword' (by simp [marks]) hs.mem_marks h
    rw [← hrest] at hs
    exact absurd (hs '.' rfl) (by decide)
  | memberAccess hleft' hword' =>
    rw [reading_memberAccess, reading_memberAccess, List.append_assoc, List.append_assoc] at h
    obtain ⟨hvalue, hrest⟩ := word_inj hword hword' (by simp [marks]) (by simp [marks]) h
    rw [List.cons_append, List.cons_append, List.cons.injEq] at hrest
    obtain ⟨houtline, hrest⟩ := ih _ hleft' r s hr hs hrest.2
    rw [Node.outline_memberAccess, Node.outline_memberAccess, houtline, hvalue]
    exact ⟨rfl, hrest⟩
  | _ => cases hcloser

lemma readsBack_call {callee : Node} {arguments : List (Placed (Argument Node))}
    (hcallee : Bracketed .expression callee)
    (harguments : ∀ argument ∈ arguments, Bracketed .argument (.ofArgument argument))
    (ihcallee : ReadsBack options .expression callee)
    (iharguments : ∀ argument ∈ arguments, ReadsBack options .argument (.ofArgument argument)) :
    ReadsBack options .expression (.mk head (.call callee arguments)) := by
  intro b hb r s hr hs h
  have hcloser := closer?_eq options (.call hcallee harguments) hb h
  have hnodes : ∀ n ∈ arguments.map Node.ofArgument, Bracketed .argument n := by
    simpa using harguments
  have hread : ∀ n ∈ arguments.map Node.ofArgument, ReadsBack options .argument n := by
    simpa using iharguments
  cases hb with
  | @call _ callee' arguments' hcallee' harguments' =>
    have hnodes' : ∀ n ∈ arguments'.map Node.ofArgument, Bracketed .argument n := by
      simpa using harguments'
    rw [reading_call, reading_call] at h
    simp only [List.cons_append, List.append_assoc, List.cons.injEq, true_and] at h
    obtain ⟨houtlines, hrest⟩ := brackets_inj options opening_round hnodes hread hnodes' h
    obtain ⟨houtline, hrest⟩ := ihcallee _ hcallee' r s hr hs hrest
    rw [Node.outline_call, Node.outline_call, houtline, houtlines]
    exact ⟨rfl, hrest⟩
  | @tuple _ entries hentries =>
    rw [reading_call, reading_tuple] at h
    simp only [List.cons_append, List.append_assoc, List.cons.injEq, true_and] at h
    have hplain : ∀ n ∈ entries.map plainArgument, Bracketed .argument n := by
      simpa using fun n hn => bracketed_plainArgument (hentries n hn)
    refine absurd h (call_ne_tuple options hcallee hnodes ?_ entries hs)
    intro r s heq
    exact (brackets_inj options opening_round hnodes hread hplain heq).2
  | _ => cases hcloser

lemma readsBack_tuple {entries : List Node}
    (hentries : ∀ entry ∈ entries, Bracketed .expression entry)
    (ih : ∀ entry ∈ entries, ReadsBack options .expression entry) :
    ReadsBack options .expression (.mk head (.tuple entries)) := by
  intro b hb r s hr hs h
  have hcloser := closer?_eq options (.tuple hentries) hb h
  have hplain : ∀ n ∈ entries.map plainArgument, Bracketed .argument n := by
    simpa using fun n hn => bracketed_plainArgument (hentries n hn)
  have hread : ∀ n ∈ entries.map plainArgument, ReadsBack options .argument n := by
    simpa using fun n hn => readsBack_plainArgument options (ih n hn)
  cases hb with
  | @call _ callee arguments hcallee harguments =>
    have hnodes : ∀ n ∈ arguments.map Node.ofArgument, Bracketed .argument n := by
      simpa using harguments
    rw [reading_call, reading_tuple] at h
    simp only [List.cons_append, List.append_assoc, List.cons.injEq, true_and] at h
    refine absurd h.symm (call_ne_tuple options hcallee hnodes ?_ entries hr)
    intro r s heq
    exact (brackets_inj options opening_round hplain hread hnodes heq.symm).2.symm
  | @tuple _ entries' hentries' =>
    have hplain' : ∀ n ∈ entries'.map plainArgument, Bracketed .argument n := by
      simpa using fun n hn => bracketed_plainArgument (hentries' n hn)
    rw [reading_tuple, reading_tuple] at h
    simp only [List.cons_append, List.append_assoc, List.cons.injEq, true_and] at h
    have hlistings := tuple_listings options hplain hplain' h
    obtain ⟨houtlines, hrest⟩ := brackets_inj options opening_round hplain hread hplain' hlistings
    rw [Node.outline_tuple, Node.outline_tuple, map_outline_of_plainArgument houtlines]
    exact ⟨rfl, hrest⟩
  | _ => cases hcloser

lemma readsBack_index {base : Node} {items : List Node} (hbase : Bracketed .expression base)
    (hitems : ∀ item ∈ items, Bracketed .expression item)
    (ihbase : ReadsBack options .expression base)
    (ihitems : ∀ item ∈ items, ReadsBack options .expression item) :
    ReadsBack options .expression (.mk head (.index base items)) := by
  intro b hb r s hr hs h
  have hcloser := closer?_eq options (.index hbase hitems) hb h
  cases hb with
  | index hbase' hitems' =>
    rw [reading_index, reading_index] at h
    simp only [List.cons_append, List.append_assoc, List.cons.injEq, true_and] at h
    obtain ⟨houtlines, hrest⟩ := brackets_inj options opening_square hitems ihitems hitems' h
    obtain ⟨houtline, hrest⟩ := ihbase _ hbase' r s hr hs hrest
    rw [Node.outline_index, Node.outline_index, houtline, houtlines]
    exact ⟨rfl, hrest⟩
  | list hentries =>
    rw [reading_index, reading_list] at h
    simp only [List.cons_append, List.append_assoc, List.cons.injEq, true_and] at h
    obtain ⟨-, hrest⟩ := brackets_inj options opening_square hitems ihitems hentries h
    have hends : Ends s := hrest ▸ (reading_ends options hbase).append r
    exact absurd hs hends.not_front
  | _ => cases hcloser

lemma readsBack_list {entries : List Node}
    (hentries : ∀ entry ∈ entries, Bracketed .expression entry)
    (ih : ∀ entry ∈ entries, ReadsBack options .expression entry) :
    ReadsBack options .expression (.mk head (.list entries)) := by
  intro b hb r s hr hs h
  have hcloser := closer?_eq options (.list hentries) hb h
  cases hb with
  | index hbase' hitems' =>
    rw [reading_list, reading_index] at h
    simp only [List.cons_append, List.append_assoc, List.cons.injEq, true_and] at h
    obtain ⟨-, hrest⟩ := brackets_inj options opening_square hentries ih hitems' h
    have hends : Ends r := hrest ▸ (reading_ends options hbase').append s
    exact absurd hr hends.not_front
  | list hentries' =>
    rw [reading_list, reading_list] at h
    simp only [List.cons_append, List.append_assoc, List.cons.injEq, true_and] at h
    obtain ⟨houtlines, hrest⟩ := brackets_inj options opening_square hentries ih hentries' h
    rw [Node.outline_list, Node.outline_list, houtlines]
    exact ⟨rfl, hrest⟩
  | _ => cases hcloser

lemma readsBack_dictionary {entries : List Node}
    (hentries : ∀ entry ∈ entries, Bracketed .entry entry)
    (ih : ∀ entry ∈ entries, ReadsBack options .entry entry) :
    ReadsBack options .expression (.mk head (.dictionary entries)) := by
  intro b hb r s hr hs h
  have hcloser := closer?_eq options (.dictionary hentries) hb h
  cases hb with
  | dictionary hentries' =>
    rw [reading_dictionary, reading_dictionary] at h
    simp only [List.cons_append, List.append_assoc, List.cons.injEq, true_and] at h
    obtain ⟨houtlines, hrest⟩ := brackets_inj options opening_curly hentries ih hentries' h
    rw [Node.outline_dictionary, Node.outline_dictionary, houtlines]
    exact ⟨rfl, hrest⟩
  | _ => cases hcloser

lemma readsBack_keyEntry {key value : Node} (ihkey : ReadsBack options .expression key)
    (ihvalue : ReadsBack options .expression value) :
    ReadsBack options .entry (.mk head (.keyEntry key value)) := by
  intro b hb r s hr hs h
  cases hb with
  | keyEntry hkey' hvalue' =>
    rw [reading_keyEntry, reading_keyEntry, List.append_assoc, List.append_assoc] at h
    obtain ⟨hvalue, hrest⟩ := ihvalue _ hvalue' _ _ (Front.cons _ (by decide))
      (Front.cons _ (by decide)) h
    have hkeys := List.tail_eq_of_cons_eq (List.tail_eq_of_cons_eq hrest)
    obtain ⟨hkey, hrest⟩ := ihkey _ hkey' r s hr.front hs.front hkeys
    rw [Node.outline_keyEntry, Node.outline_keyEntry, hkey, hvalue]
    exact ⟨rfl, hrest⟩
  | expandEntry hmapping' =>
    rw [reading_keyEntry, reading_expandEntry, List.append_assoc, List.append_assoc] at h
    obtain ⟨-, hrest⟩ := ihvalue _ hmapping' _ _ (Front.cons _ (by decide))
      (Front.cons _ (by decide)) h
    simp at hrest

lemma readsBack_expandEntry {mapping : Node} (ih : ReadsBack options .expression mapping) :
    ReadsBack options .entry (.mk head (.expandEntry mapping)) := by
  intro b hb r s hr hs h
  cases hb with
  | keyEntry hkey' hvalue' =>
    rw [reading_expandEntry, reading_keyEntry, List.append_assoc, List.append_assoc] at h
    obtain ⟨-, hrest⟩ := ih _ hvalue' _ _ (Front.cons _ (by decide))
      (Front.cons _ (by decide)) h
    simp at hrest
  | expandEntry hmapping' =>
    rw [reading_expandEntry, reading_expandEntry, List.append_assoc, List.append_assoc] at h
    obtain ⟨houtline, hrest⟩ := ih _ hmapping' _ _ (Front.cons _ (by decide))
      (Front.cons _ (by decide)) h
    rw [Node.outline_expandEntry, Node.outline_expandEntry, houtline]
    exact ⟨rfl, List.append_cancel_left (show ['*', '*'] ++ r = ['*', '*'] ++ s from hrest)⟩

end Cases

theorem readsBack {part : Part} {n : Node} (h : Bracketed part n) : ReadsBack options part n := by
  induction h with
  | name hword => exact readsBack_name options hword
  | memberAccess hleft hword ih => exact readsBack_memberAccess options hleft hword ih
  | call hcallee harguments ihcallee iharguments =>
    exact readsBack_call options hcallee harguments ihcallee iharguments
  | index hbase hitems ihbase ihitems => exact readsBack_index options hbase hitems ihbase ihitems
  | list hentries ih => exact readsBack_list options hentries ih
  | tuple hentries ih => exact readsBack_tuple options hentries ih
  | dictionary hentries ih => exact readsBack_dictionary options hentries ih
  | argument _ hname ih => exact readsBack_argument options ih _ _ hname
  | keyEntry _ _ ihkey ihvalue => exact readsBack_keyEntry options ihkey ihvalue
  | expandEntry _ ih => exact readsBack_expandEntry options ih

/-- Bracketed expressions with the same text have the same structure. -/
theorem outline_eq_of_print_eq {a b : Node} (ha : Bracketed .expression a)
    (hb : Bracketed .expression b) (h : a.print options = b.print options) :
    a.outline = b.outline := by
  have hnil : Front [] := fun c hc => absurd hc (by simp)
  refine (readsBack options ha b hb [] [] hnil hnil ?_).1
  rw [reading_expression, reading_expression, h]

end Reading

def letterAt (place : Nat) (value : String) : Node :=
  .mk ⟨place, ⟨place, 1⟩, .given⟩ (.name ⟨⟨.identifier, place, 1⟩, value⟩)

/-- A call of `f` with the unpacked tuple of `x` alone, from the given place on. -/
def unpackingCall (place : Nat) : Node :=
  .mk ⟨place, ⟨place, 9⟩, .fitted⟩
    (.call (letterAt place "f")
      [⟨⟨place + 2, ⟨place + 2, 6⟩, .fitted⟩,
        .mk ⟨place + 3, ⟨place + 3, 5⟩, .fitted⟩ (.tuple [letterAt (place + 4) "x"]),
        .unpackedList, none⟩])

lemma unpackingCall_bracketed (place : Nat) : Bracketed .expression (unpackingCall place) := by
  have hf : IsWord "f" := isWord_of_alphanum (by simp) (by simp)
  have hx : IsWord "x" := isWord_of_alphanum (by simp) (by simp)
  have hentries : ∀ entry ∈ [letterAt (place + 4) "x"], Bracketed .expression entry := by
    intro entry hentry
    rw [List.mem_singleton.mp hentry]
    exact .name hx
  refine .call (.name hf) ?_
  intro argument hargument
  rw [List.mem_singleton.mp hargument]
  exact .argument (.tuple hentries) (by simp)

lemma unpackingCall_print (options : PrintOptions) (place : Nat) :
    (unpackingCall place).print options = "f(*(x, ))" := by
  have hreading : reading options .expression (unpackingCall place) =
      "f(*(x, ))".toList.reverse := by
    rw [unpackingCall, reading_call]
    simp [Node.ofArgument, reading_argument, reading_tuple, reading_plainArgument, letterAt,
      reading_name, listing, loneComma, ArgumentCategory.stars, keywordText]
  exact String.toList_inj.mp (List.reverse_inj.mp hreading)

theorem unpackingCall_outline :
    unpackingCall 0 ≠ unpackingCall 7 ∧
      (unpackingCall 0).print ⟨false⟩ = (unpackingCall 7).print ⟨false⟩ ∧
      (unpackingCall 0).outline = (unpackingCall 7).outline := by
  have hne : unpackingCall 0 ≠ unpackingCall 7 := by
    intro h
    have hid : (unpackingCall 0).id = (unpackingCall 7).id := by rw [h]
    exact absurd hid (by decide)
  have htext : (unpackingCall 0).print ⟨false⟩ = (unpackingCall 7).print ⟨false⟩ := by
    rw [unpackingCall_print, unpackingCall_print]
  exact ⟨hne, htext, outline_eq_of_print_eq _ (unpackingCall_bracketed 0)
    (unpackingCall_bracketed 7) htext⟩

end SyntaxForest
