import Mathlib.Data.List.TakeWhile
import SyntaxForest.Proofs.Scopes

/-!
# Climbing from scope to scope

A search for a scope may be started again from its answer. Repeated until there is no answer, it
comes by every ancestor that it accepts, nearest first, as far as the first one that stops it: the
ancestors of an answer are what the search that found it has left over.
-/

namespace SyntaxForest.Forest

variable {requests : List Request} {f : Forest}

/-- The answers to a query that is put to a node, then to its answer, and so on until there is
none. -/
inductive Answers (query : Nat → Option Nat) : Nat → List Nat → Prop where
  | done {id : Nat} : query id = none → Answers query id []
  | next {id c : Nat} {rest : List Nat} :
      query id = some c → Answers query c rest → Answers query id (c :: rest)

lemma Answers.unique {query : Nat → Option Nat} {id : Nat} {answers answers' : List Nat}
    (h : Answers query id answers) (h' : Answers query id answers') : answers = answers' := by
  induction h generalizing answers' with
  | done hnone =>
    cases h' with
    | done => rfl
    | next hsome => cases hnone.symm.trans hsome
  | next hsome _ ih =>
    cases h' with
    | done hnone => cases hnone.symm.trans hsome
    | next hsome' hrest =>
      cases hsome.symm.trans hsome'
      rw [ih hrest]

/-- The accepted nodes of a list before the first one that stops a search. -/
def acceptedBeforeStop (f : Forest) (verdict : Kind → Verdict) (ids : List Nat) : List Nat :=
  (ids.takeWhile fun id => f.verdictOn verdict id ≠ .stop).filter
    fun id => f.verdictOn verdict id = .accept

lemma acceptedBeforeStop_cons (verdict : Kind → Verdict) (id : Nat) (rest : List Nat) :
    f.acceptedBeforeStop verdict (id :: rest) =
      match f.verdictOn verdict id with
      | .accept => id :: f.acceptedBeforeStop verdict rest
      | .stop => []
      | .pass => f.acceptedBeforeStop verdict rest := by
  unfold acceptedBeforeStop
  cases hverdict : f.verdictOn verdict id <;> simp [hverdict]

lemma acceptedBeforeStop_of_none {verdict : Kind → Verdict} {ids : List Nat}
    (hnone : f.firstAccepted? verdict ids = none) : f.acceptedBeforeStop verdict ids = [] := by
  induction ids with
  | nil => rfl
  | cons id rest ih =>
    rw [firstAccepted?_cons] at hnone
    rw [acceptedBeforeStop_cons]
    cases hverdict : f.verdictOn verdict id with
    | accept =>
      rw [hverdict] at hnone
      cases hnone
    | stop => rfl
    | pass =>
      rw [hverdict] at hnone
      exact ih hnone

/-- A search that has an answer leaves over what comes behind it. -/
lemma acceptedBeforeStop_of_some {verdict : Kind → Verdict} {ids : List Nat} {c : Nat}
    (hsome : f.firstAccepted? verdict ids = some c) :
    ∃ before after, ids = before ++ c :: after ∧
      f.acceptedBeforeStop verdict ids = c :: f.acceptedBeforeStop verdict after := by
  obtain ⟨haccept, before, after, rfl, hbefore⟩ := firstAccepted?_eq_some_iff.mp hsome
  refine ⟨before, after, rfl, ?_⟩
  clear hsome
  induction before with
  | nil => rw [List.nil_append, acceptedBeforeStop_cons, haccept]
  | cons b before ih =>
    rw [List.cons_append, acceptedBeforeStop_cons, hbefore b List.mem_cons_self]
    exact ih fun b' hb' => hbefore b' (List.mem_cons_of_mem b hb')

/-- The induction is on the number of ancestors: an answer has fewer of them than the node that was
asked for, and the search that starts from it reads the list on from there. -/
lemma Run.answers_acceptedBeforeStop (h : Run empty requests f) (verdict : Kind → Verdict)
    (id : Nat) :
    Answers (fun a => f.firstAccepted? verdict (f.ancestors a)) id
      (f.acceptedBeforeStop verdict (f.ancestors id)) := by
  induction hcount : (f.ancestors id).length using Nat.strongRecOn generalizing id with
  | ind count ih =>
    cases hanswer : f.firstAccepted? verdict (f.ancestors id) with
    | none =>
      rw [acceptedBeforeStop_of_none hanswer]
      exact .done hanswer
    | some c =>
      obtain ⟨before, after, hcut, haccepted⟩ := acceptedBeforeStop_of_some hanswer
      have habove := h.ancestors_of_append hcut
      have hfewer : (f.ancestors c).length < count := by
        rw [← hcount, habove, hcut, List.length_append, List.length_cons]
        omega
      rw [haccepted, ← habove]
      exact .next hanswer (ih _ hfewer c rfl)

lemma acceptedBeforeStop_eq {verdict : Kind → Verdict} (accepts stops : Option Kind → Prop)
    [DecidablePred accepts] [DecidablePred stops] (hnone : ¬accepts none ∧ ¬stops none)
    (haccepts : ∀ kind, verdict kind = .accept ↔ accepts (some kind))
    (hstops : ∀ kind, verdict kind = .stop ↔ stops (some kind)) (ids : List Nat) :
    f.acceptedBeforeStop verdict ids =
      (ids.takeWhile fun a => ¬stops (f.kind? a)).filter fun a => accepts (f.kind? a) := by
  have haccept : ∀ a, f.verdictOn verdict a = .accept ↔ accepts (f.kind? a) := by
    intro a
    unfold verdictOn
    cases f.kind? a with
    | none => simp [hnone.1]
    | some kind => exact haccepts kind
  have hstop : ∀ a, f.verdictOn verdict a = .stop ↔ stops (f.kind? a) := by
    intro a
    unfold verdictOn
    cases f.kind? a with
    | none => simp [hnone.2]
    | some kind => exact hstops kind
  simp only [acceptedBeforeStop, ne_eq, haccept, hstop]

/-- The answers to a repeated search are told by the kinds that it accepts and that stop it. A node
without a kind does neither. -/
lemma Run.answers_iff (h : Run empty requests f) {verdict : Kind → Verdict}
    (accepts stops : Option Kind → Prop) [DecidablePred accepts] [DecidablePred stops]
    (hnone : ¬accepts none ∧ ¬stops none)
    (haccepts : ∀ kind, verdict kind = .accept ↔ accepts (some kind))
    (hstops : ∀ kind, verdict kind = .stop ↔ stops (some kind))
    (id : Nat) (answers : List Nat) :
    Answers (fun a => f.firstAccepted? verdict (f.ancestors a)) id answers ↔
      answers = ((f.ancestors id).takeWhile fun a => ¬stops (f.kind? a)).filter
        fun a => accepts (f.kind? a) := by
  have hclimb := h.answers_acceptedBeforeStop verdict id
  rw [acceptedBeforeStop_eq accepts stops hnone haccepts hstops] at hclimb
  constructor
  · exact fun hanswers => hanswers.unique hclimb
  · rintro rfl
    exact hclimb

/-- Nothing stops a search for a class or module that may leave functions. -/
lemma Run.answers_enclosingScope? (h : Run empty requests f) (id : Nat) (answers : List Nat) :
    Answers (fun a => f.enclosingScope? a false) id answers ↔
      answers = (f.ancestors id).filter fun a =>
        f.kind? a = some .classDef ∨ f.kind? a = some .module := by
  have hall : ((f.ancestors id).takeWhile fun _ => ¬False) = f.ancestors id :=
    List.takeWhile_eq_self_iff.mpr (by simp)
  refine (h.answers_iff (fun kind => kind = some .classDef ∨ kind = some .module)
    (fun _ => False) (by simp) ?_ ?_ id answers).trans (by rw [hall])
  · intro kind
    cases kind <;> simp [functionVerdict]
  · intro kind
    cases kind <;> simp [functionVerdict]

lemma Run.answers_enclosingClass? (h : Run empty requests f) (id : Nat) (answers : List Nat) :
    Answers (fun a => f.enclosingClass? a false) id answers ↔
      answers = ((f.ancestors id).takeWhile fun a => f.kind? a ≠ some .module).filter
        fun a => f.kind? a = some .classDef := by
  refine h.answers_iff (fun kind => kind = some .classDef) (fun kind => kind = some .module)
    (by simp) ?_ ?_ id answers
  · intro kind
    cases kind <;> simp [functionVerdict]
  · intro kind
    cases kind <;> simp [functionVerdict]

lemma Run.answers_enclosingFunction? (h : Run empty requests f) (id : Nat) (answers : List Nat) :
    Answers f.enclosingFunction? id answers ↔
      answers = ((f.ancestors id).takeWhile fun a => f.kind? a ≠ some .classDef).filter
        fun a => f.kind? a = some .functionDef := by
  refine h.answers_iff (fun kind => kind = some .functionDef) (fun kind => kind = some .classDef)
    (by simp) ?_ ?_ id answers
  · intro kind
    cases kind <;> simp
  · intro kind
    cases kind <;> simp

/-- Climbing from scope to scope skips nothing, in every forest that a run builds. It comes by all
classes and modules above a node, nearest first; from class to class by the classes before the
first module; from function to function by the functions before the first class. -/
theorem Run.climbs_by_scope (h : Run empty requests f) (id : Nat) (answers : List Nat) :
    (Answers (fun a => f.enclosingScope? a false) id answers ↔
      answers = (f.ancestors id).filter fun a =>
        f.kind? a = some .classDef ∨ f.kind? a = some .module) ∧
    (Answers (fun a => f.enclosingClass? a false) id answers ↔
      answers = ((f.ancestors id).takeWhile fun a => f.kind? a ≠ some .module).filter
        fun a => f.kind? a = some .classDef) ∧
    (Answers f.enclosingFunction? id answers ↔
      answers = ((f.ancestors id).takeWhile fun a => f.kind? a ≠ some .classDef).filter
        fun a => f.kind? a = some .functionDef) :=
  ⟨h.answers_enclosingScope? id answers, h.answers_enclosingClass? id answers,
    h.answers_enclosingFunction? id answers⟩

section Witness

def scopeName : NameNode :=
  nameAt 0 0 "S"

def scopeOf (id : Nat) (shape : Shape Node) : Node :=
  .mk ⟨id, ⟨0, 1⟩, .fitted⟩ shape

def innerClass : Node :=
  scopeOf 2 (.classDef scopeName [] [bareReturn])

def innerFunction : Node :=
  scopeOf 3 (.functionDef scopeName [] none [innerClass] false)

def outerFunction : Node :=
  scopeOf 4 (.functionDef scopeName [] none [innerFunction] false)

def middleClass : Node :=
  scopeOf 5 (.classDef scopeName [] [outerFunction])

def nestedModule : Node :=
  scopeOf 6 (.module [middleClass])

/-- Scopes nested in one another. All of them share their name, and the outermost class is built
with a negative start and fails. -/
def nestedRequests : List Request :=
  [⟨⟨none, none⟩, (Node.ofName scopeName).shape⟩, ⟨⟨none, none⟩, bareReturn.shape⟩,
    ⟨⟨none, none⟩, innerClass.shape⟩, ⟨⟨none, none⟩, innerFunction.shape⟩,
    ⟨⟨none, none⟩, outerFunction.shape⟩, ⟨⟨none, none⟩, middleClass.shape⟩,
    ⟨⟨none, none⟩, nestedModule.shape⟩,
    ⟨⟨some (-1), none⟩, .classDef scopeName [] [nestedModule]⟩]

lemma nested_run : Run empty nestedRequests (nestedRequests.foldl perform empty) :=
  .step nofun (.step nofun (.step (accepts_pair rfl rfl rfl) (.step (accepts_pair rfl rfl rfl)
    (.step (accepts_pair rfl rfl rfl) (.step (accepts_pair rfl rfl rfl)
      (.step (accepts_single rfl rfl) (.step (accepts_pair rfl rfl rfl) (.done _))))))))

theorem nestedScopes_climbs :
    Run empty nestedRequests (nestedRequests.foldl perform empty) ∧
      (nestedRequests.foldl perform empty).ancestors 1 = [2, 3, 4, 5, 6, 7] ∧
      (nestedRequests.foldl perform empty).node? 7 = none ∧
      Answers (fun a => (nestedRequests.foldl perform empty).enclosingScope? a false) 1
        [2, 5, 6, 7] ∧
      Answers (fun a => (nestedRequests.foldl perform empty).enclosingClass? a false) 1 [2, 5] ∧
      Answers (nestedRequests.foldl perform empty).enclosingFunction? 2 [3, 4] := by
  obtain ⟨hscopes, -, -⟩ := nested_run.climbs_by_scope 1 [2, 5, 6, 7]
  obtain ⟨-, hclasses, -⟩ := nested_run.climbs_by_scope 1 [2, 5]
  obtain ⟨-, -, hfunctions⟩ := nested_run.climbs_by_scope 2 [3, 4]
  exact ⟨nested_run, rfl, rfl, hscopes.mpr rfl, hclasses.mpr rfl, hfunctions.mpr rfl⟩

end Witness

end SyntaxForest.Forest
