-- SUMMARY: Evaluating by name and by position: the expressions of a model and the rows of its form have the same values, and a solution's objective is that of its own values.
import LinearDispatch.Proofs.Adapter.Answer
import LinearDispatch.Proofs.Model.Violations

/-!
# Evaluation by name and by position

A model is evaluated over tables: each coefficient is multiplied by the value
of its name, in the order in which the coefficients came, and a name without a
value counts as zero. A form is evaluated over vectors: each row is multiplied
by the values of all variables in their declared order. Both come to the same
rational. So the objective that a backend's point has in the form is the one
that the named values of the solution have in the model.
-/
namespace LinearDispatch

open Exact (vector)

namespace Model

/-- The values of the variables, in declared order; a variable without one has zero. -/
def pointOf {α : Type} [Scalar α] (m : Model α) (values : Table α) : List α :=
  m.vars.map fun v => Solution.valueOf values v.name

/-- Values that are named in declared order are the point. -/
theorem pointOf_eq_of_keys {α : Type} [Scalar α] {m : Model α} {values : Table α}
    (h : values.keys = m.variableNames) : m.pointOf values = values.entries.map Prod.snd := by
  have hvalue : ∀ e ∈ values.entries, Solution.valueOf values e.1 = e.2 := by
    intro e he
    rw [Solution.valueOf, Table.get?_of_mem he]
    rfl
  calc m.pointOf values
    _ = m.variableNames.map (Solution.valueOf values) := by
      rw [pointOf, variableNames, List.map_map]
      rfl
    _ = values.entries.map fun e => Solution.valueOf values e.1 := by
      rw [← h, Table.keys, List.map_map]
      rfl
    _ = values.entries.map Prod.snd := List.map_congr_left hvalue

variable {m : Model Exact} {f : DenseForm Exact} {values : Table Exact}

/-- Finite values are those of a rational point. -/
theorem exists_vector_of_pointOf (hvalues : ∀ e ∈ values.entries, Scalar.isFinite e.2 = true) :
    ∃ x, m.pointOf values = vector x ∧ m.Assigns values x := by
  refine ⟨m.vars.map fun v => Solution.rationalOf values v.name, ?_, ?_⟩
  · rw [pointOf, vector, List.map_map]
    apply List.map_congr_left
    intro v _
    exact Solution.valueOf_eq_finite hvalues v.name
  · intro i v hv
    rw [Solution.valueOf_eq_finite hvalues, List.getD_eq_getElem?_getD, List.getElem?_map, hv]
    rfl

/-- An expression has the value that its row has at the point. -/
theorem evaluate_eq_dot_pointOf {coefficients : Table Exact} {row : List Exact}
    (hcoefficients : ∀ e ∈ coefficients.entries, Scalar.isFinite e.2 = true)
    (hvalues : ∀ e ∈ values.entries, Scalar.isFinite e.2 = true)
    (hrow : m.row coefficients = .ok row) :
    evaluate coefficients values = Scalar.dot row (m.pointOf values) := by
  obtain ⟨x, hpoint, hassigns⟩ := exists_vector_of_pointOf (m := m) hvalues
  rw [hpoint]
  exact evaluate_eq_dot hcoefficients hrow hassigns

/-- The check of a constraint finds in the row at the point what it finds in the names. -/
theorem constraintViolations_eq_of_row {c : Constraint Exact} {row : List Exact} (t : Exact)
    (hcoefficients : ∀ e ∈ c.coefficients.entries, Scalar.isFinite e.2 = true)
    (hvalues : ∀ e ∈ values.entries, Scalar.isFinite e.2 = true)
    (hrow : m.row c.coefficients = .ok row) :
    constraintViolations c values t =
      if c.relation.holds (Scalar.dot row (m.pointOf values)) c.rhs t then []
      else [.broken c.name (Scalar.dot row (m.pointOf values)) c.relation c.rhs] := by
  rw [← evaluate_eq_dot_pointOf hcoefficients hvalues hrow]
  rfl

end Model

namespace Adapter

open Model

variable {m : Model Exact} {f : DenseForm Exact}

/-- Without rounding the objective of a solution is the dot product with its values, also where
there are none. -/
theorem objective_eq_dot {a : Adapter Exact} (hinner : a.inner.Accumulates) {s : Solution Exact}
    (hl : m.Lowers f) (hwell : s.WellFormed a m f) (hfeasible : s.feasible = true) :
    s.objective = Scalar.dot f.objective (m.pointOf s.values) := by
  have hlength : (m.pointOf s.values).length = f.objective.length := by
    rw [pointOf, List.length_map, hl.shaped.objective, hl.length_names]
  rw [hwell.solved hfeasible, ← pointOf_eq_of_keys hwell.keys]
  split
  · next hnames =>
    have hnone : f.objective = [] := by
      rw [← List.length_eq_zero_iff, hl.shaped.objective, hnames]
      rfl
    rw [hnone]
    rfl
  · exact Exact.inner_eq_dot hinner hlength

/-- The objective of a solution is that of its named values in the model, as the solve leaves it. -/
theorem objectiveAt_solve {a : Adapter Exact} (hinner : a.inner.Accumulates) (hm : m.Reachable)
    (hform : m.denseForm = .ok f)
    (hobjective : ∀ e ∈ m.objective.entries, Scalar.isFinite e.2 = true) {s : Solution Exact}
    (hs : (a.solve m).answer = .ok s) (hfeasible : s.feasible = true) :
    (a.solve m).state.objectiveAt s.values = s.objective := by
  have hwell := wellFormed_solve a m hm hform hs
  have hrow : m.row m.objective = .ok f.objective := (lowers_of_denseForm hform).objective
  have hstate : (a.solve m).state.objective = m.objective := by
    rw [state_solve, lower, hform, lowered]
  calc (a.solve m).state.objectiveAt s.values
    _ = evaluate m.objective s.values := by rw [objectiveAt, hstate]
    _ = Scalar.dot f.objective (m.pointOf s.values) :=
      evaluate_eq_dot_pointOf hobjective hwell.finite hrow
    _ = s.objective := (objective_eq_dot hinner (lowers_of_denseForm hform) hwell hfeasible).symm

/-- Over finite coefficients, the objective and each constraint have the same values by name as
their rows have by position, whichever names have values, and the check sees the same. So every
solution that an adapter finds has the objective of its named values. -/
theorem evaluation_by_position (hm : m.Reachable) (hform : m.denseForm = .ok f)
    (hobjective : ∀ e ∈ m.objective.entries, Scalar.isFinite e.2 = true)
    (hcoefficients : ∀ c ∈ m.constraints, ∀ e ∈ c.coefficients.entries,
      Scalar.isFinite e.2 = true) :
    (∀ values : Table Exact, (∀ e ∈ values.entries, Scalar.isFinite e.2 = true) →
      m.objectiveAt values = Scalar.dot f.objective (m.pointOf values) ∧
      ∀ (k : Nat) (c : Constraint Exact), m.constraints[k]? = some c →
        ∃ row, f.rows[k]? = some row ∧
          evaluate c.coefficients values = Scalar.dot row (m.pointOf values) ∧
          ∀ t, constraintViolations c values t =
            if c.relation.holds (Scalar.dot row (m.pointOf values)) c.rhs t then []
            else [.broken c.name (Scalar.dot row (m.pointOf values)) c.relation c.rhs]) ∧
    ∀ a : Adapter Exact, a.inner.Accumulates → ∀ s, (a.solve m).answer = .ok s →
      s.feasible = true →
      (a.solve m).state.objectiveAt s.values = s.objective := by
  have hlowers := lowers_of_denseForm hform
  constructor
  · intro values hvalues
    refine ⟨evaluate_eq_dot_pointOf hobjective hvalues hlowers.objective, ?_⟩
    intro k c hc
    obtain ⟨row, hk, hrow⟩ := hlowers.exists_of_getElem?_constraints hc
    have hfinite := hcoefficients c (List.mem_of_getElem? hc)
    refine ⟨row, hk, evaluate_eq_dot_pointOf hfinite hvalues hrow, ?_⟩
    intro t
    exact constraintViolations_eq_of_row t hfinite hvalues hrow
  · intro a hinner s hs hfeasible
    exact objectiveAt_solve hinner hm hform hobjective hs hfeasible

/-- Values without some of the variables, and with a name that is none. -/
def strayValues : Table Exact :=
  .ofList [("w", .finite 5), ("y", .finite (mkRat 2 3))]

/-- A custom backend that only has a value for the first variable. -/
def brief : Adapter Exact :=
  ⟨"stub", .custom "StubSolver" fun _ => .ok ⟨some [.int 4], .optimal⟩, 10000, Scalar.dot⟩

theorem evaluation_by_position_tangled :
    (∀ e ∈ strayValues.entries, Scalar.isFinite e.2 = true) ∧
      tangled.objectiveAt strayValues =
        Scalar.dot tangledForm.objective [.finite 0, .finite 0, .finite (mkRat 2 3)] ∧
      ∃ s, (brief.solve tangled).answer = .ok s ∧ s.objective = .finite 12 ∧
        (brief.solve tangled).state.objectiveAt s.values = s.objective := by
  have hreachable : tangled.Reachable := ⟨"tangled", .null, tangledCommands, rfl⟩
  have hform : tangled.denseForm = .ok tangledForm := by rfl
  have hvalues : ∀ e ∈ strayValues.entries, Scalar.isFinite e.2 = true := by decide
  obtain ⟨hnamed, hsolved⟩ := evaluation_by_position hreachable hform (by decide) (by decide)
  have hs : ∃ s, (brief.solve tangled).answer = .ok s ∧ s.feasible = true ∧
      s.objective = .finite 12 :=
    ⟨_, rfl, rfl, by decide +kernel⟩
  obtain ⟨s, hanswer, hfeasible, hobjective⟩ := hs
  exact ⟨hvalues, (hnamed strayValues hvalues).1, s, hanswer, hobjective,
    hsolved brief accumulates_dot s hanswer hfeasible⟩

end Adapter

end LinearDispatch
