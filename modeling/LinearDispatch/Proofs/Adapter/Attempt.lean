-- SUMMARY: What an engine's verdict comes to: the point that an attempt reaches, and the solution that a solve answers with.
import LinearDispatch.Engine
import LinearDispatch.Proofs.Accumulation
import LinearDispatch.Proofs.Model.Lowering
import LinearDispatch.Proofs.Model.Reachable
import LinearDispatch.Proofs.Program.Inequality
import LinearDispatch.Proofs.Program.Resting

/-!
# From verdicts to solutions

An engine claims an optimum at a point, or it does not. A claim takes the
attempt to a point over all variables, which the solution then has; whatever
else an engine says or does ends in a solution without values.
-/
namespace LinearDispatch

open Exact (vector linear)

/-! ## Verdicts -/

/-- The report claims an optimum at the point. -/
structure InequalityReport.Claims (r : InequalityReport Exact) (x : List Rat) : Prop where
  status : r.status = 0
  success : r.success = true
  point : r.point = some (vector x)

/-- The report claims an optimum, with the given values of the variables at the positions. -/
structure BoundedReport.Claims (r : BoundedReport Exact) (positions : List Nat) (v : Nat → Rat) :
    Prop where
  status : r.status = 1
  solution : r.solution = 1
  values : ∀ i ∈ positions, r.values.lookup i = some (.finite (v i))

namespace Status

variable {α : Type}

/-- Only one of the statuses that engines lead to is that of an optimum. -/
theorem ne_optimal :
    infeasible ≠ optimal ∧ unbounded ≠ optimal ∧ iterationLimit ≠ optimal ∧ error ≠ optimal := by
  decide

/-- Without success no message makes an optimum. -/
theorem ofMessage_false_ne_optimal (message : Option String) :
    ofMessage false message ≠ .optimal := by
  obtain ⟨hinfeasible, hunbounded, hlimit, herror⟩ := ne_optimal
  simp only [ofMessage, Bool.false_eq_true, if_false]
  split
  · exact hinfeasible
  · split
    · exact hunbounded
    · split
      · exact hlimit
      · exact herror

theorem ofMessage_eq_optimal_iff {success : Bool} {message : Option String} :
    ofMessage success message = .optimal ↔ success = true := by
  cases success with
  | false => simp [ofMessage_false_ne_optimal]
  | true => simp [ofMessage]

/-- An optimum needs success, and a code that does not say otherwise; success alone decides on the
codes that are not known. -/
theorem ofInequality_eq_optimal_iff {r : InequalityReport α} :
    ofInequality r = .optimal ↔ r.success = true ∧ r.status ∉ ([1, 2, 3, 4] : List Int) := by
  obtain ⟨hinfeasible, hunbounded, hlimit, herror⟩ := ne_optimal
  rw [ofInequality]
  split_ifs <;> simp_all [ofMessage_eq_optimal_iff]

/-- Both codes are needed for an optimum. -/
theorem ofBounded_eq_optimal_iff {r : BoundedReport α} :
    ofBounded r = .optimal ↔ r.status = 1 ∧ r.solution = 1 := by
  have := ne_optimal
  grind [ofBounded]

end Status

/-! ## Attempts -/

/-- The backend hands its problems to an engine. -/
def Backend.AsksEngine {α : Type} : Backend α → Prop
  | .custom .. => False
  | _ => True

/-- The modelling library of the backend, if it has one, keeps the promise. -/
def Backend.Keeps {α : Type} (promise : Library α → Prop) : Backend α → Prop
  | .bounded library .. => promise library
  | _ => True

/-- The attempt ends with an optimum at the point. -/
def Attempt.Reaches (t : Attempt Exact) (x : List Rat) : Prop :=
  t.result = .ok ⟨some ((vector x).map .real), .optimal⟩

/-- The attempt ends without an optimum. -/
def Attempt.Fails {α : Type} (t : Attempt α) : Prop :=
  ∀ answer, t.result = .ok answer → answer.status ≠ .optimal

theorem Attempt.not_fails_iff {α : Type} {t : Attempt α} :
    ¬ t.Fails ↔ ∃ answer, t.result = .ok answer ∧ answer.status = .optimal := by
  rw [Attempt.Fails]
  push Not
  rfl

namespace Adapter

section Fails

variable {α : Type} [Scalar α] {f : DenseForm α} {n : Int}

theorem fails_attemptInequality_iff {engine : InequalityEngine α} {method : String} :
    (attemptInequality engine method n f).Fails ↔
      ∀ r, engine (.ofDense f) method n = .ok r → Status.ofInequality r ≠ .optimal := by
  rw [Attempt.Fails, attemptInequality]
  dsimp only
  split
  · next text htext => simp [htext]
  · next r hr => simp [hr]

variable {library : Library α} {engine : BoundedEngine α} {limit : Literal α}
  {p : BoundedProgram α}

/-- A form that is infeasible as stated ends the attempt before the engine is asked. -/
theorem attemptBounded_of_contradiction {why : Contradiction α}
    (h : BoundedProgram.ofDense library f = .error (.contradiction why)) :
    attemptBounded library engine limit n f =
      { result := .ok ⟨none, .infeasible⟩, events := [.contradiction why] } := by
  rw [attemptBounded, h]

theorem calls_attemptBounded (h : BoundedProgram.ofDense library f = .ok p) :
    (attemptBounded library engine limit n f).calls =
      if library.found p = [] then [] else [.bounded p limit n] := by
  simp only [attemptBounded, h, List.isEmpty_iff]
  split
  · rfl
  · split <;> rfl

/-- Where there is something to ask, the attempt fails unless the engine claims an optimum. -/
theorem fails_attemptBounded_iff (h : BoundedProgram.ofDense library f = .ok p) :
    (attemptBounded library engine limit n f).Fails ↔
      library.found p ≠ [] ∧
        ∀ r, engine p limit n = .ok r → ¬ (r.status = 1 ∧ r.solution = 1) := by
  simp only [Attempt.Fails, attemptBounded, h, List.isEmpty_iff]
  split
  · next hused => simp [hused]
  · next hused =>
    split
    · next text htext => simp [htext, hused]
    · next r hr => simp [hr, hused, Status.ofBounded_eq_optimal_iff]

end Fails

variable {f : DenseForm Exact} {n : Int}

section Inequality

variable {engine : InequalityEngine Exact} {method : String}

theorem attemptInequality_reaches {r : InequalityReport Exact} {x : List Rat}
    (h : engine (.ofDense f) method n = .ok r) (hr : r.Claims x) :
    (attemptInequality engine method n f).Reaches x := by
  simp [Attempt.Reaches, attemptInequality, h, hr.point, Status.ofInequality, hr.status, hr.success]

theorem attemptInequality_fails
    (h : ∀ r, engine (.ofDense f) method n = .ok r → r.success = false) :
    (attemptInequality engine method n f).Fails := by
  refine fails_attemptInequality_iff.2 fun r hr hoptimal => ?_
  have hsuccess := (Status.ofInequality_eq_optimal_iff.1 hoptimal).1
  rw [h r hr] at hsuccess
  cases hsuccess

end Inequality

section Bounded

variable {library : Library Exact} {engine : BoundedEngine Exact} {limit : Literal Exact}
  {p : BoundedProgram Exact}

/-- The variables that the engine did not see are completed by their resting values. -/
theorem attemptBounded_reaches (hl : library.FindsUsed)
    (h : BoundedProgram.ofDense library f = .ok p) (hp : p.Represents f) (hused : p.used ≠ [])
    {r : BoundedReport Exact} {v : Nat → Rat}
    (hengine : engine p limit n = .ok r) (hr : r.Claims p.used v) :
    (attemptBounded library engine limit n f).Reaches
      (point f.variableNames.length (p.completed f v)) := by
  have hseen : library.found p ≠ [] := mt (hl.found_eq_nil_iff p).1 hused
  have hstatus : Status.ofBounded r = .optimal :=
    Status.ofBounded_eq_optimal_iff.2 ⟨hr.status, hr.solution⟩
  simp [Attempt.Reaches, attemptBounded, h, hseen, hengine, hstatus,
    hp.completePoint_eq (hl p) hr.values]

/-- When there is nothing to ask, every variable rests. -/
theorem attemptBounded_reaches_of_used_eq_nil (hl : library.FindsUsed)
    (h : BoundedProgram.ofDense library f = .ok p) (hp : p.Represents f) (hused : p.used = [])
    (v : Nat → Rat) :
    (attemptBounded library engine limit n f).Reaches
      (point f.variableNames.length (p.completed f v)) := by
  have hseen : library.found p = [] := (hl.found_eq_nil_iff p).2 hused
  have hvalues : ∀ i ∈ p.used, List.lookup i ([] : List (Nat × Exact)) = some (.finite (v i)) := by
    simp [hused]
  have hpoint := hp.completePoint_eq (hl p) hvalues
  rw [hseen] at hpoint
  simp [Attempt.Reaches, attemptBounded, h, hseen, hpoint]

theorem attemptBounded_fails_of_contradiction {why : Contradiction Exact}
    (h : BoundedProgram.ofDense library f = .error (.contradiction why)) :
    (attemptBounded library engine limit n f).Fails := by
  intro answer hanswer
  rw [attemptBounded_of_contradiction h] at hanswer
  cases hanswer
  decide

end Bounded

/-! ## Points read back -/

theorem finiteEntries_vector (x : List Rat) :
    finiteEntries ((vector x).map .real) = .ok (vector x) := by
  induction x with
  | nil => rfl
  | cons q x ih =>
    rw [Exact.vector_cons, List.map_cons, finiteEntries, ih]
    rfl

/-- A point with a value per variable is read back as it is. -/
theorem readPoint_vector (x : List Rat) :
    readPoint x.length (some ((vector x).map .real)) = .ok (vector x) := by
  have htake : ((vector x).map Literal.real).take x.length = (vector x).map .real := by
    apply List.take_of_length_le
    simp
  rw [readPoint, Option.getD_some, htake, finiteEntries_vector]
  simp [Except.map]

/-! ## Solutions -/

variable {a : Adapter Exact} {x : List Rat}

theorem calls_solveForm {α : Type} [Scalar α] (a : Adapter α) (model : String) (f : DenseForm α) :
    (a.solveForm model f).2.2 = (a.attempt f).calls := by
  rw [solveForm]
  split
  · rfl
  · split
    · rfl
    · split <;> rfl

/-- The solution is the one at the point that was reached. -/
theorem solveForm_of_reaches {model : String} (h : (a.attempt f).Reaches x)
    (hx : x.length = f.variableNames.length) :
    (a.solveForm model f).1 = .ok (a.solutionAt f (vector x)) := by
  rw [Attempt.Reaches] at h
  simp [solveForm, h, ← hx, readPoint_vector]

/-- Without an optimum there is still an answer, a solution without values. -/
theorem solveForm_of_fails {α : Type} [Scalar α] {a : Adapter α} {f : DenseForm α} {model : String}
    (h : (a.attempt f).Fails) :
    ∃ status, (a.solveForm model f).1 = .ok (.infeasible f.variableNames status a.name) := by
  rw [solveForm]
  split
  · exact ⟨.error, rfl⟩
  · next answer hanswer =>
    rw [if_pos (h answer hanswer)]
    exact ⟨answer.status, rfl⟩

/-- The objective of a solution is that of the form at its point, however it was accumulated. -/
theorem objective_solutionAt (ha : a.inner.Accumulates) (hs : f.Shaped)
    (hx : x.length = f.variableNames.length) :
    (a.solutionAt f (vector x)).objective = f.value x := by
  have hlength : (vector x).length = f.objective.length := by
    rw [Exact.length_vector, hx, hs.objective]
  exact Exact.inner_eq_dot ha hlength

/-- The values of a solution are those of its point. -/
theorem get?_values_solutionAt (hnames : f.variableNames.Nodup)
    (hx : x.length = f.variableNames.length) {i : Nat} {name : String} {q : Rat}
    (hname : f.variableNames[i]? = some name) (hq : x[i]? = some q) :
    (a.solutionAt f (vector x)).values.get? name = some (.finite q) := by
  have hkeys : ((List.zip f.variableNames (vector x)).map Prod.fst).Nodup := by
    rwa [List.map_fst_zip (by simp [hx])]
  refine Table.get?_ofList hkeys (List.mem_iff_getElem?.2 ⟨i, ?_⟩)
  exact List.getElem?_zip_eq_some.2 ⟨hname, by simp [vector, hq]⟩

/-! ## Solving -/

theorem solve_eq {α : Type} [Scalar α] {a : Adapter α} {m : Model α} {f : DenseForm α}
    (h : m.denseForm = .ok f) :
    (a.solve m).state = { m with built := true } ∧
    (a.solve m).answer =
      (if f.variableNames = [] then .ok (a.solveTrivial f) else (a.solveForm m.name f).1) ∧
    (a.solve m).calls = if f.variableNames = [] then [] else (a.attempt f).calls := by
  refine ⟨?_, ?_⟩
  · simp [Model.state_solve, Model.lower, Model.lowered, h]
  · simp only [solve, solveLowered, Model.lower, Model.lowered, h, Outcome.andThen,
      List.isEmpty_iff]
    split
    · exact ⟨rfl, rfl⟩
    · exact ⟨rfl, calls_solveForm a m.name f⟩

/-! ## The exact engines on the sample -/

/-- The program with native bounds of the sample form. -/
def sampleProgram : BoundedProgram Exact where
  maximize := true
  bounds := [(some (.finite 0), none), (none, some (.finite 4)),
    (some (.finite (-5)), some (.finite (-2)))]
  objective := [(0, .finite 3), (1, .finite 5)]
  rows :=
    [⟨0, .atMost, .finite 6, [(0, .finite 2), (1, .finite 1)]⟩,
      ⟨1, .atLeast, .finite 1, [(0, .finite 1), (1, .finite 1)]⟩,
      ⟨2, .equal, .finite 0, [(0, .finite 1), (1, .finite (-1))]⟩]

/-- The adapters of the exact engines, with the default settings. -/
def exactInequality : Adapter Exact :=
  ⟨inequalityName, .inequality Engine.inequality defaultMethod, 10000, Scalar.dot⟩

def exactBounded : Adapter Exact :=
  ⟨boundedName, .bounded Engine.library Engine.bounded .null, 10000, Scalar.dot⟩

theorem ofDense_sample :
    BoundedProgram.ofDense Engine.library DenseForm.sample = .ok sampleProgram := by
  decide +kernel

theorem represents_sample : sampleProgram.Represents DenseForm.sample :=
  BoundedProgram.represents_of_ofDense (by decide) (by decide) ofDense_sample

theorem admits_sample : DenseForm.sample.Admits [2, 2, -5] := by
  decide +kernel

theorem claims_sample : ∀ i ∈ sampleProgram.used,
    [(0, .finite 2), (1, .finite 2), (2, .finite (-5))].lookup i
      = some (Exact.finite ([2, 2, -5].getD i 0)) := by
  decide +kernel

theorem inequality_sample :
    Engine.inequality (.ofDense DenseForm.sample) defaultMethod 10000
      = .ok ⟨0, true, none, some (vector [2, 2, -5])⟩ := by
  decide +kernel

/-- What this engine says of the last variable, which has no coefficient, is not looked at. -/
theorem bounded_sample :
    Engine.bounded sampleProgram .null 10000 = .ok ⟨1, 1,
      [(0, .finite 2), (1, .finite 2), (2, .finite (-5))]⟩ := by
  decide +kernel

theorem calls_exactInequality_sample : (exactInequality.solve Model.sample).calls =
    [.inequality (.ofDense DenseForm.sample) defaultMethod 10000] :=
  (solve_eq Model.denseForm_sample).2.2

theorem calls_exactBounded_sample :
    (exactBounded.solve Model.sample).calls = [.bounded sampleProgram .null 10000] := by
  have hcalls : (exactBounded.attempt DenseForm.sample).calls =
      if sampleProgram.used = [] then [] else [.bounded sampleProgram .null 10000] :=
    calls_attemptBounded ofDense_sample
  rw [(solve_eq Model.denseForm_sample).2.2, hcalls, if_neg (by decide), if_neg (by decide)]

end Adapter

end LinearDispatch
