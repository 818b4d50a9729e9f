import SyntaxForest.Proofs.Ancestors
import SyntaxForest.Proofs.Samples

/-!
# Scopes around a node

A search for a scope passes by the nodes above a node, nearest first, until it accepts one or is
stopped. Its answer is told by where it cuts the list of ancestors in two, and so the searches for
classes, modules and functions are compared with one another.
-/

namespace SyntaxForest.Forest

variable {requests : List Request} {f : Forest}

/-! ### Cutting the list of ancestors -/

lemma Run.ancestors_of_cons (h : Run empty requests f) {id p : Nat} {rest : List Nat}
    (hcons : f.ancestors id = p :: rest) : f.ancestors p = rest := by
  cases hp : f.parent? id with
  | none =>
    rw [ancestors, climb_of_root hp] at hcons
    cases hcons
  | some q =>
    rw [h.ancestors_of_parent? hp] at hcons
    cases hcons
    rfl

/-- What comes behind an ancestor are the ancestors of that one. -/
lemma Run.ancestors_of_append (h : Run empty requests f) {id c : Nat} {before after : List Nat}
    (hcut : f.ancestors id = before ++ c :: after) : f.ancestors c = after := by
  induction before generalizing id with
  | nil => exact h.ancestors_of_cons hcut
  | cons b before ih => exact ih (h.ancestors_of_cons hcut)

lemma Run.depth_lt_of_within (h : Run empty requests f) {id c : Nat} (hc : f.Within id c) :
    f.depth c < f.depth id := by
  obtain ⟨before, after, hcut⟩ := List.append_of_mem hc
  have habove := h.ancestors_of_append hcut
  unfold depth
  rw [hcut, habove, List.length_append, List.length_cons]
  omega

/-- The ancestors before another one are those that lie within it. -/
lemma Run.mem_before_iff (h : Run empty requests f) {id c a : Nat} {before after : List Nat}
    (hcut : f.ancestors id = before ++ c :: after) :
    a ∈ before ↔ f.Within id a ∧ f.Within a c := by
  constructor
  · intro ha
    obtain ⟨front, rest, rfl⟩ := List.append_of_mem ha
    rw [List.append_assoc, List.cons_append] at hcut
    have habove := h.ancestors_of_append hcut
    rw [Within, Within, hcut, habove]
    exact ⟨by simp, by simp⟩
  · rintro ⟨ha, hac⟩
    -- An ancestor of `c` is less deep than `c`, and what lies within `c` is deeper.
    have hlt := h.depth_lt_of_within hac
    rw [Within, hcut, List.mem_append, List.mem_cons] at ha
    rcases ha with ha | rfl | ha
    · exact ha
    · exact absurd hlt (Nat.lt_irrefl _)
    · rw [← h.ancestors_of_append hcut] at ha
      have hlt' := h.depth_lt_of_within ha
      omega

/-! ### Answers of the searches -/

/-- The node `c` lies above the node `id` and is of an accepted kind, and the kinds of all nodes
between the two let a search pass. -/
def Nearest (f : Forest) (accepts passes : Kind → Prop) (id c : Nat) : Prop :=
  (∃ kind, f.kind? c = some kind ∧ accepts kind) ∧
    ∃ before after, f.ancestors id = before ++ c :: after ∧
      ∀ b ∈ before, ∀ kind, f.kind? b = some kind → passes kind

/-- The verdict on a node of a forest. -/
def verdictOn (f : Forest) (verdict : Kind → Verdict) (id : Nat) : Verdict :=
  (f.kind? id).elim .pass verdict

lemma verdictOn_eq_accept_iff {verdict : Kind → Verdict} {id : Nat} :
    f.verdictOn verdict id = .accept ↔
      ∃ kind, f.kind? id = some kind ∧ verdict kind = .accept := by
  unfold verdictOn
  cases f.kind? id <;> simp

lemma verdictOn_eq_pass_iff {verdict : Kind → Verdict} {id : Nat} :
    f.verdictOn verdict id = .pass ↔ ∀ kind, f.kind? id = some kind → verdict kind = .pass := by
  unfold verdictOn
  cases f.kind? id <;> simp

lemma firstAccepted?_cons (verdict : Kind → Verdict) (id : Nat) (rest : List Nat) :
    f.firstAccepted? verdict (id :: rest) =
      match f.verdictOn verdict id with
      | .accept => some id
      | .stop => none
      | .pass => f.firstAccepted? verdict rest :=
  rfl

lemma firstAccepted?_eq_filter_find? (verdict : Kind → Verdict) (ids : List Nat) :
    f.firstAccepted? verdict ids =
      (ids.find? fun id => f.verdictOn verdict id ≠ .pass).filter
        fun id => f.verdictOn verdict id = .accept := by
  induction ids with
  | nil => rfl
  | cons id rest ih =>
    rw [firstAccepted?_cons, List.find?_cons, ih]
    cases hverdict : f.verdictOn verdict id <;> simp [hverdict, Option.filter]

/-- The answer is accepted, and every node before it is passed by. -/
lemma firstAccepted?_eq_some_iff {verdict : Kind → Verdict} {ids : List Nat} {c : Nat} :
    f.firstAccepted? verdict ids = some c ↔
      f.verdictOn verdict c = .accept ∧
        ∃ before after, ids = before ++ c :: after ∧
          ∀ b ∈ before, f.verdictOn verdict b = .pass := by
  rw [firstAccepted?_eq_filter_find?, Option.filter_eq_some_iff, List.find?_eq_some_iff_append]
  simp only [ne_eq, decide_not, Bool.not_not, Bool.not_eq_true', decide_eq_false_iff_not,
    decide_eq_true_eq]
  constructor
  · rintro ⟨⟨-, hcut⟩, haccept⟩
    exact ⟨haccept, hcut⟩
  · rintro ⟨haccept, hcut⟩
    exact ⟨⟨by simp [haccept], hcut⟩, haccept⟩

lemma firstAccepted?_ancestors_iff {verdict : Kind → Verdict} {accepts passes : Kind → Prop}
    (haccepts : ∀ kind, verdict kind = .accept ↔ accepts kind)
    (hpasses : ∀ kind, verdict kind = .pass ↔ passes kind) {id c : Nat} :
    f.firstAccepted? verdict (f.ancestors id) = some c ↔ f.Nearest accepts passes id c := by
  simp only [firstAccepted?_eq_some_iff, verdictOn_eq_accept_iff, verdictOn_eq_pass_iff, haccepts,
    hpasses, Nearest]

lemma enclosingClass?_eq_some_iff {id c : Nat} {stopAtFunction : Bool} :
    f.enclosingClass? id stopAtFunction = some c ↔
      f.Nearest (fun kind => kind = .classDef)
        (fun kind => kind ≠ .classDef ∧ kind ≠ .module ∧
          (stopAtFunction = true → kind ≠ .functionDef)) id c := by
  apply firstAccepted?_ancestors_iff
  · intro kind
    cases kind <;> cases stopAtFunction <;> simp [functionVerdict]
  · intro kind
    cases kind <;> cases stopAtFunction <;> simp [functionVerdict]

lemma enclosingScope?_eq_some_iff {id c : Nat} {stopAtFunction : Bool} :
    f.enclosingScope? id stopAtFunction = some c ↔
      f.Nearest (fun kind => kind = .classDef ∨ kind = .module)
        (fun kind => kind ≠ .classDef ∧ kind ≠ .module ∧
          (stopAtFunction = true → kind ≠ .functionDef)) id c := by
  apply firstAccepted?_ancestors_iff
  · intro kind
    cases kind <;> cases stopAtFunction <;> simp [functionVerdict]
  · intro kind
    cases kind <;> cases stopAtFunction <;> simp [functionVerdict]

lemma enclosingFunction?_eq_some_iff {id c : Nat} :
    f.enclosingFunction? id = some c ↔
      f.Nearest (fun kind => kind = .functionDef)
        (fun kind => kind ≠ .functionDef ∧ kind ≠ .classDef) id c := by
  apply firstAccepted?_ancestors_iff
  · intro kind
    cases kind <;> simp
  · intro kind
    cases kind <;> simp

/-! ### Answers compared -/

lemma Nearest.within {accepts passes : Kind → Prop} {id c : Nat}
    (h : f.Nearest accepts passes id c) : f.Within id c := by
  obtain ⟨-, before, after, hcut, -⟩ := h
  rw [Within, hcut]
  exact List.mem_append_right _ List.mem_cons_self

lemma Nearest.mono {accepts accepts' passes passes' : Kind → Prop} {id c : Nat}
    (h : f.Nearest accepts passes id c) (haccepts : ∀ kind, accepts kind → accepts' kind)
    (hpasses : ∀ kind, passes kind → passes' kind) : f.Nearest accepts' passes' id c := by
  obtain ⟨⟨kind, hkind, haccept⟩, before, after, hcut, hbefore⟩ := h
  exact ⟨⟨kind, hkind, haccepts kind haccept⟩, before, after, hcut,
    fun b hb kind hb' => hpasses kind (hbefore b hb kind hb')⟩

/-- Two searches of which each is stopped by what the other one accepts do not both succeed. -/
lemma Nearest.not_both {accepts accepts' passes passes' : Kind → Prop} {id a c : Nat}
    (ha : f.Nearest accepts passes id a) (hc : f.Nearest accepts' passes' id c)
    (hstops : ∀ kind, accepts kind → ¬passes' kind) (hstops' : ∀ kind, accepts' kind → ¬passes kind)
    (hdiffer : ∀ kind, accepts kind → ¬accepts' kind) : False := by
  obtain ⟨⟨kind, hkind, haccept⟩, before, after, hcut, hbefore⟩ := ha
  obtain ⟨⟨kind', hkind', haccept'⟩, before', after', hcut', hbefore'⟩ := hc
  have hne : a ≠ c := by
    rintro rfl
    cases hkind.symm.trans hkind'
    exact hdiffer kind haccept haccept'
  -- Both cut the same list: the later one has the other one among the nodes it passed by.
  rw [hcut] at hcut'
  rcases List.append_eq_append_iff.mp hcut' with ⟨more, hlonger, hrest⟩ | ⟨more, hlonger, hrest⟩
  · cases more with
    | nil => exact hne (List.cons.inj hrest).1
    | cons b more =>
      obtain rfl := (List.cons.inj hrest).1
      exact hstops kind haccept (hbefore' a (by simp [hlonger]) kind hkind)
  · cases more with
    | nil => exact hne (List.cons.inj hrest).1.symm
    | cons b more =>
      obtain rfl := (List.cons.inj hrest).1
      exact hstops' kind' haccept' (hbefore c (by simp [hlonger]) kind' hkind')

/-- There is a function above a node, and below the node that was found if one was found. -/
def FunctionBelow (f : Forest) (id : Nat) (found : Option Nat) : Prop :=
  ∃ a, f.Within id a ∧ f.kind? a = some .functionDef ∧ ∀ c, found = some c → f.Within a c

lemma enclosingScope?_false_of_true {id c : Nat} (h : f.enclosingScope? id true = some c) :
    f.enclosingScope? id false = some c := by
  rw [enclosingScope?_eq_some_iff] at h ⊢
  exact h.mono (fun _ haccept => haccept) fun _ hpass => ⟨hpass.1, hpass.2.1, nofun⟩

lemma enclosingClass?_eq_filter (f : Forest) (id : Nat) (stopAtFunction : Bool) :
    f.enclosingClass? id stopAtFunction =
      (f.enclosingScope? id stopAtFunction).filter fun c => f.kind? c = some .classDef := by
  ext c
  rw [Option.filter_eq_some_iff, enclosingClass?_eq_some_iff, enclosingScope?_eq_some_iff,
    decide_eq_true_iff]
  constructor
  · intro h
    obtain ⟨kind, hkind, hclass⟩ := h.1
    rw [hclass] at hkind
    exact ⟨h.mono (fun _ => .inl) fun _ hpass => hpass, hkind⟩
  · rintro ⟨⟨-, hcut⟩, hkind⟩
    exact ⟨⟨_, hkind, rfl⟩, hcut⟩

lemma Run.enclosingScope?_of_functionBelow (h : Run empty requests f) {id : Nat}
    (hbelow : f.FunctionBelow id (f.enclosingScope? id false)) :
    f.enclosingScope? id true = none := by
  obtain ⟨a, ha, hkind, hbelow⟩ := hbelow
  rw [Option.eq_none_iff_forall_ne_some]
  intro c hc
  have hac := hbelow c (enclosingScope?_false_of_true hc)
  obtain ⟨-, before, after, hcut, hbefore⟩ := enclosingScope?_eq_some_iff.mp hc
  have hmem := (h.mem_before_iff hcut).mpr ⟨ha, hac⟩
  exact (hbefore a hmem _ hkind).2.2 rfl rfl

lemma Run.enclosingScope?_of_not_functionBelow (h : Run empty requests f) {id : Nat}
    (hnone : ¬f.FunctionBelow id (f.enclosingScope? id false)) :
    f.enclosingScope? id true = f.enclosingScope? id false := by
  ext c
  refine ⟨enclosingScope?_false_of_true, fun hc => ?_⟩
  obtain ⟨haccept, before, after, hcut, hbefore⟩ := enclosingScope?_eq_some_iff.mp hc
  rw [enclosingScope?_eq_some_iff]
  refine ⟨haccept, before, after, hcut, fun b hb kind hkind => ?_⟩
  obtain ⟨hclass, hmodule, -⟩ := hbefore b hb kind hkind
  refine ⟨hclass, hmodule, fun _ hfunction => hnone ?_⟩
  obtain ⟨hb, hbc⟩ := (h.mem_before_iff hcut).mp hb
  rw [hfunction] at hkind
  rw [hc]
  exact ⟨b, hb, hkind, fun _ hsame => Option.some.inj hsame ▸ hbc⟩

lemma enclosingFunction?_eq_none_or (f : Forest) (id : Nat) :
    f.enclosingFunction? id = none ∨ f.enclosingClass? id true = none := by
  cases hfunction : f.enclosingFunction? id with
  | none => exact .inl rfl
  | some a =>
    right
    rw [Option.eq_none_iff_forall_ne_some]
    intro c hclass
    rw [enclosingFunction?_eq_some_iff] at hfunction
    rw [enclosingClass?_eq_some_iff] at hclass
    refine hfunction.not_both hclass ?_ ?_ ?_
    · rintro _ rfl hpass
      exact hpass.2.2 rfl rfl
    · rintro _ rfl hpass
      exact hpass.2 rfl
    · rintro _ rfl
      decide

/-- The searches for scopes agree in every forest that a run builds. The nearest class is the
nearest class or module if that is a class; to stop at functions makes a difference only if there is
a function before the answer, and then there is none; the nearest function and the nearest class
within a function exclude each other; and every answer lies above the node. -/
theorem Run.enclosing_consistent (h : Run empty requests f) (id : Nat) :
    (∀ stopAtFunction, f.enclosingClass? id stopAtFunction =
      (f.enclosingScope? id stopAtFunction).filter fun c => f.kind? c = some .classDef) ∧
    (¬f.FunctionBelow id (f.enclosingScope? id false) →
      f.enclosingScope? id true = f.enclosingScope? id false) ∧
    (f.FunctionBelow id (f.enclosingScope? id false) → f.enclosingScope? id true = none) ∧
    (f.enclosingFunction? id = none ∨ f.enclosingClass? id true = none) ∧
    ∀ c, ((∃ stopAtFunction, f.enclosingClass? id stopAtFunction = some c) ∨
        (∃ stopAtFunction, f.enclosingScope? id stopAtFunction = some c) ∨
        f.enclosingFunction? id = some c) →
      f.Within id c ∧ f.depth c < f.depth id := by
  refine ⟨f.enclosingClass?_eq_filter id, h.enclosingScope?_of_not_functionBelow,
    h.enclosingScope?_of_functionBelow, f.enclosingFunction?_eq_none_or id, ?_⟩
  intro c hc
  have hwithin : f.Within id c := by
    rcases hc with ⟨_, hc⟩ | ⟨_, hc⟩ | hc
    · exact (enclosingClass?_eq_some_iff.mp hc).within
    · exact (enclosingScope?_eq_some_iff.mp hc).within
    · exact (enclosingFunction?_eq_some_iff.mp hc).within
  exact ⟨hwithin, h.depth_lt_of_within hwithin⟩

section Witness

def smallFunction : Node :=
  .mk ⟨2, ⟨0, 1⟩, .fitted⟩ (.functionDef (nameAt 0 0 "f") [] none [bareReturn] false)

def innerModule : Node :=
  .mk ⟨3, ⟨0, 1⟩, .fitted⟩ (.module [smallFunction])

/-- The class around the module is built with a negative start and fails after it has adopted its
name and the module. -/
def brokenClassRequests : List Request :=
  [⟨⟨none, none⟩, (Node.ofName (nameAt 0 0 "f")).shape⟩, ⟨⟨none, none⟩, bareReturn.shape⟩,
    ⟨⟨none, none⟩, smallFunction.shape⟩, ⟨⟨none, none⟩, innerModule.shape⟩,
    ⟨⟨none, none⟩, (Node.ofName (nameAt 4 0 "C")).shape⟩,
    ⟨⟨some (-1), none⟩, .classDef (nameAt 4 0 "C") [] [innerModule]⟩]

def brokenClass : Forest :=
  brokenClassRequests.foldl perform empty

lemma brokenClass_run : Run empty brokenClassRequests brokenClass :=
  .step nofun (.step nofun (.step (accepts_pair rfl rfl rfl) (.step (accepts_single rfl rfl)
    (.step nofun (.step (accepts_pair rfl rfl rfl) (.done _))))))

theorem brokenClass_scopes :
    Run empty brokenClassRequests brokenClass ∧
      brokenClass.ancestors 1 = [2, 3, 5] ∧ brokenClass.node? 5 = none ∧
      brokenClass.enclosingScope? 1 false = some 3 ∧
      brokenClass.FunctionBelow 1 (some 3) ∧ brokenClass.enclosingScope? 1 true = none ∧
      brokenClass.enclosingFunction? 1 = some 2 ∧ brokenClass.enclosingClass? 1 true = none ∧
      brokenClass.Within 1 2 ∧ brokenClass.depth 2 < brokenClass.depth 1 ∧
      ¬brokenClass.FunctionBelow 2 (some 3) ∧ brokenClass.enclosingScope? 2 true = some 3 ∧
      brokenClass.enclosingClass? 2 false = none ∧
      brokenClass.enclosingClass? 3 false = some 5 ∧
      brokenClass.Within 3 5 ∧ brokenClass.depth 5 < brokenClass.depth 3 := by
  have hscope : brokenClass.enclosingScope? 1 false = some 3 := rfl
  have hscope' : brokenClass.enclosingScope? 2 false = some 3 := rfl
  have hclass : brokenClass.enclosingClass? 3 false = some 5 := rfl
  have hfunction : brokenClass.enclosingFunction? 1 = some 2 := rfl
  have hbelow : brokenClass.FunctionBelow 1 (some 3) :=
    ⟨2, by decide, rfl, by rintro _ ⟨⟩; decide⟩
  have hnone : ¬brokenClass.FunctionBelow 2 (some 3) := by
    rintro ⟨a, ha, hkind, -⟩
    have habove : a = 3 ∨ a = 5 := by
      simpa [Within, show brokenClass.ancestors 2 = [3, 5] from rfl] using ha
    rcases habove with rfl | rfl <;> exact absurd hkind (by decide)
  obtain ⟨-, -, stopped, disjoint, above⟩ := brokenClass_run.enclosing_consistent 1
  obtain ⟨filtered, unstopped, -⟩ := brokenClass_run.enclosing_consistent 2
  obtain ⟨-, -, -, -, above'⟩ := brokenClass_run.enclosing_consistent 3
  rw [hscope] at stopped
  rw [hscope'] at unstopped
  have hclass' := (filtered false).trans (congrArg _ hscope')
  obtain ⟨hwithin, hdepth⟩ := above 2 (.inr (.inr hfunction))
  obtain ⟨hwithin', hdepth'⟩ := above' 5 (.inl ⟨false, hclass⟩)
  exact ⟨brokenClass_run, rfl, rfl, hscope, hbelow, stopped hbelow, hfunction,
    disjoint.resolve_left (by rw [hfunction]; nofun), hwithin, hdepth, hnone, unstopped hnone,
    hclass', hclass, hwithin', hdepth'⟩

end Witness

end SyntaxForest.Forest
