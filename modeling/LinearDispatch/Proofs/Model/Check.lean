-- SUMMARY: The check accepts every solution at a point that the model's form admits, with any tolerance that is not negative.
import LinearDispatch.Proofs.Model.Lowering

/-!
# Admitted points pass the check

The check compares values by name, the form compares a point by position. A
solution whose values are those of an admitted point, and whose objective is
that of the form there, has nothing to report: a tolerance that is not negative
only weakens what already holds.
-/
namespace LinearDispatch

open Exact (vector)

/-- A tolerance only weakens a relation. -/
theorem Relation.holds_of_relates {r : Relation} {p q t : Rat} (ht : 0 ≤ t)
    (h : r.Relates (.finite p) (.finite q)) :
    r.holds (.finite p) (.finite q) (Exact.finite t) = true := by
  cases r with
  | atMost =>
    simp only [Relates, Exact.le_finite] at h
    simp only [holds, Exact.finite_add, Exact.le_finite]
    linarith
  | atLeast =>
    simp only [Relates, Exact.le_finite] at h
    simp only [holds, Exact.finite_sub, Exact.le_finite]
    linarith
  | equal =>
    simp only [Relates, Exact.eq_finite] at h
    simpa [holds, Scalar.abs, h] using ht

namespace Model

variable {m : Model Exact} {f : DenseForm Exact} {x : List Rat} {t : Rat}

/-! ## Parts of the check -/

/-- A value between its bounds violates neither. -/
theorem boundViolations_eq_nil {v : Variable Exact} {values : Table Exact} {q : Rat} (ht : 0 ≤ t)
    (hvalue : Solution.valueOf values v.name = .finite q) (hl : Scalar.le v.lower (.finite q))
    (hu : Scalar.le (.finite q) v.upper) : boundViolations v values (.finite t) = [] := by
  have hlower : ¬ Scalar.lt (.finite q) (v.lower - .finite t) = true := by
    cases hv : v.lower with
    | finite l =>
      rw [hv, Exact.le_finite] at hl
      rw [Exact.finite_sub, Exact.lt_finite]
      linarith
    | infinite s =>
      rw [hv, Exact.le_infinite_left] at hl
      simp [hl]
    | notANumber => simp [hv, Scalar.le, Exact.le] at hl
  have hupper : ¬ Scalar.lt (v.upper + .finite t) (.finite q) = true := by
    cases hv : v.upper with
    | finite u =>
      rw [hv, Exact.le_finite] at hu
      rw [Exact.finite_add, Exact.lt_finite]
      linarith
    | infinite s =>
      rw [hv, Exact.le_infinite_right] at hu
      simpa using hu
    | notANumber => simp [hv, Scalar.le, Exact.le] at hu
  simp only [boundViolations, hvalue, if_neg hlower, if_neg hupper, List.append_nil]

theorem constraintViolations_eq_nil {c : Constraint Exact} {values : Table Exact} {p : Rat}
    (ht : 0 ≤ t) (hrhs : Scalar.isFinite c.rhs = true)
    (hvalue : evaluate c.coefficients values = .finite p)
    (h : c.relation.Relates (.finite p) c.rhs) :
    constraintViolations c values (.finite t) = [] := by
  obtain ⟨b, hb⟩ := Exact.isFinite_iff.1 hrhs
  rw [hb] at h
  simp only [constraintViolations, hvalue, hb]
  rw [if_pos (Relation.holds_of_relates ht h)]

theorem objectiveViolations_eq_nil {s : Solution Exact} {p : Rat}
    (hvalue : m.objectiveAt s.values = .finite p) (h : s.objective = .finite p) :
    m.objectiveViolations s (.finite t) = [] := by
  simp [objectiveViolations, hvalue, h, Scalar.isClose]

/-! ## The whole check -/

/-- A solution at an admitted point violates nothing. -/
theorem Lowers.check_eq_nil (hl : m.Lowers f) (hm : m.Regular) (hx : f.Admits x)
    {s : Solution Exact} (hfeasible : s.feasible = true)
    (hnames : ∀ v ∈ m.vars, s.values.contains v.name = true) (hvalues : m.Assigns s.values x)
    (hobjective : s.objective = f.value x) (ht : 0 ≤ t) : m.check s (.finite t) = .ok [] := by
  have hmissing : m.missingNames s.values = [] := by
    simpa [missingNames, variableNames] using hnames
  have hbounds : m.vars.flatMap (boundViolations · s.values (.finite t)) = [] := by
    refine List.flatMap_eq_nil_iff.2 fun v hv => ?_
    obtain ⟨i, hi⟩ := List.mem_iff_getElem?.1 hv
    have hlen : i < x.length := by
      rw [hx.size, hl.length_names]
      exact (List.getElem?_eq_some_iff.1 hi).1
    have hget : x[i]? = some (x.getD i 0) := by simp [hlen]
    obtain ⟨hlower, hupper⟩ := hx.bounds i v.lower v.upper _ (by simp [hl.lower, hi])
      (by simp [hl.upper, hi]) hget
    exact boundViolations_eq_nil ht (hvalues i v hi) hlower hupper
  have hrows : m.constraints.flatMap (constraintViolations · s.values (.finite t)) = [] := by
    refine List.flatMap_eq_nil_iff.2 fun c hc => ?_
    obtain ⟨k, hk⟩ := List.mem_iff_getElem?.1 hc
    obtain ⟨row, hrow, hcells⟩ := hl.exists_of_getElem?_constraints hk
    have hrelates := hx.rows k row c.relation c.rhs hrow (by simp [hl.relations, hk])
      (by simp [hl.rhs, hk])
    have hvalue := evaluate_eq_dot (hm.coefficients c hc) hcells hvalues
    obtain ⟨a, rfl, -⟩ := exists_vector_of_row (hm.coefficients c hc) hcells
    rw [Exact.dot_vector] at hrelates hvalue
    exact constraintViolations_eq_nil ht (hm.rhs c hc) hvalue hrelates
  have hclose : m.objectiveViolations s (.finite t) = [] := by
    have hvalue := evaluate_eq_dot hm.objective hl.objective hvalues
    obtain ⟨a, ha, -⟩ := exists_vector_of_row hm.objective hl.objective
    rw [DenseForm.value, ha, Exact.dot_vector] at hobjective
    rw [ha, Exact.dot_vector] at hvalue
    exact objectiveViolations_eq_nil hvalue hobjective
  simp [check, violations, hfeasible, hmissing, hbounds, hrows, hclose, ht]

end Model

end LinearDispatch
