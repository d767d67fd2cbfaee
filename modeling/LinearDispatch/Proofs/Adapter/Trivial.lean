-- SUMMARY: A form without variables is solved alike by the shortcut for it and by both lowerings: it is feasible when zero stands in every relation.
import LinearDispatch.Proofs.Adapter.Agreement
import LinearDispatch.Proofs.Program.Transcription

/-!
# Forms without variables

A form without variables says of zero and each right-hand side that they stand
in a relation, and nothing else. The shortcut asks for this with a tolerance of
zero, the lowering to native bounds as a row without coefficients, and the
lowering to inequalities leaves half-spaces whose bounds are not to be negative.
All three come to the plain comparison, for every right-hand side: an infinite
one is compared like any other, and what is no number stands in no relation.
-/
namespace LinearDispatch

variable {α : Type} [Scalar α] {f : DenseForm α}

/-! ## The form -/

namespace DenseForm

/-- Zero stands in every relation of the form. -/
def HoldsAtZero (f : DenseForm α) : Prop :=
  ∀ c ∈ f.conditions, c.2.1.compares 0 c.2.2 = true

omit [Scalar α] in
/-- Without variables there are no cells and no bounds. -/
theorem Shaped.parts_of_variableNames (hs : f.Shaped) (hnames : f.variableNames = []) :
    f.objective = [] ∧ f.lower = [] ∧ ∀ row ∈ f.rows, row = [] := by
  have hempty : ∀ {β : Type} {xs : List β}, xs.length = f.variableNames.length → xs = [] := by
    intro β xs hlength
    rw [hnames] at hlength
    exact List.length_eq_zero_iff.1 hlength
  exact ⟨hempty hs.objective, hempty hs.lower, fun row hrow => hempty (hs.cells row hrow)⟩

theorem isConstant_of_mem_conditions (hs : f.Shaped) (hnames : f.variableNames = []) :
    ∀ c ∈ f.conditions, isConstant c.1 = true := by
  refine forall_mem_conditions_iff.2 fun _ row _ _ hrow _ _ => ?_
  obtain rfl := (hs.parts_of_variableNames hnames).2.2 row (List.mem_of_getElem? hrow)
  rfl

/-- No bounds cross, so the form is infeasible as stated when a relation fails. -/
theorem contradictory_iff_not_holdsAtZero (hs : f.Shaped) (hnames : f.variableNames = []) :
    f.Contradictory ↔ ¬ f.HoldsAtZero := by
  have hcrossed : ¬ ∃ i lower upper, f.CrossedAt i lower upper := by
    rintro ⟨i, lower, upper, hlower, -, -⟩
    rw [(hs.parts_of_variableNames hnames).2.1] at hlower
    cases hlower
  rw [Contradictory, or_iff_right hcrossed, ← BoundedProgram.exists_refuted_iff, HoldsAtZero]
  push Not
  refine exists_congr fun c => and_congr_right fun hc => ?_
  rw [BoundedProgram.Refuted, and_iff_right (isConstant_of_mem_conditions hs hnames c hc)]
  exact Bool.eq_false_iff

end DenseForm

/-- Without variables the library is given no number to refuse. -/
theorem BoundedProgram.taken_of_variableNames (hs : f.Shaped) (hnames : f.variableNames = [])
    (library : Library α) : Taken library f := by
  obtain ⟨hobjective, hlower, -⟩ := hs.parts_of_variableNames hnames
  refine ⟨by simp [hobjective, termsOf], by simp [hlower], fun c hc => .inl ?_⟩
  exact DenseForm.isConstant_of_mem_conditions hs hnames c hc

/-! ## The lowerings and the shortcut -/

variable [SignedScalar α]

/-- The bounds of a constraint are not negative when zero stands in its relation. -/
theorem InequalityProgram.le_bound_constraintRows_iff {row : List α} {r : Relation} {b : α} :
    (∀ h ∈ constraintRows row r b, Scalar.le 0 h.bound = true) ↔ r.compares 0 b = true := by
  cases r with
  | atMost => simp [constraintRows, Relation.compares]
  | atLeast => simp [constraintRows, flipped, Relation.compares, SignedScalar.le_neg]
  | equal =>
    simp [constraintRows, flipped, Relation.compares, SignedScalar.le_neg, SignedScalar.eq_zero]

theorem InequalityProgram.le_bound_ofDense_iff (hs : f.Shaped) (hnames : f.variableNames = []) :
    (∀ h ∈ (ofDense f).rows, Scalar.le 0 h.bound = true) ↔ f.HoldsAtZero := by
  rw [forall_mem_rows_ofDense, (hs.parts_of_variableNames hnames).2.1, DenseForm.HoldsAtZero]
  simp [le_bound_constraintRows_iff]

namespace Adapter

theorem all_constantRows_iff_holdsAtZero (hs : f.Shaped) (hnames : f.variableNames = []) :
    f.constantRows.all (·.2) = true ↔ f.HoldsAtZero := by
  rw [all_constantRows_iff, DenseForm.HoldsAtZero]
  refine forall₂_congr fun c hc => ?_
  rw [Relation.holds_zero_eq]
  exact forall_prop_of_true (DenseForm.isConstant_of_mem_conditions hs hnames c hc)

/-- The shortcut finds a form without variables feasible when there is a program with native bounds,
and when no half-space has a negative bound. A form that it does not is infeasible as stated. -/
theorem solveTrivial_iff (a : Adapter α) (f : DenseForm α) (hs : f.shapeFault? = none)
    (hnames : f.variableNames = []) :
    (∀ library, (a.solveTrivial f).feasible = true ↔
      ∃ p, BoundedProgram.ofDense library f = .ok p) ∧
    ((a.solveTrivial f).feasible = true ↔
      ∀ h ∈ (InequalityProgram.ofDense f).rows, Scalar.le 0 h.bound = true) ∧
    ((a.solveTrivial f).feasible = true →
      a.solveTrivial f = ⟨.empty, 0, true, .optimal, a.name⟩) ∧
    ((a.solveTrivial f).feasible = false →
      a.solveTrivial f = .infeasible [] .infeasible a.name ∧
      ∀ library, ∃ why, BoundedProgram.ofDense library f = .error (.contradiction why)) := by
  have hshaped := DenseForm.shaped_iff.2 hs
  have hall := all_constantRows_iff_holdsAtZero hshaped hnames
  have hbounds := InequalityProgram.le_bound_ofDense_iff hshaped hnames
  have hcontradictory := DenseForm.contradictory_iff_not_holdsAtZero hshaped hnames
  have htaken := BoundedProgram.taken_of_variableNames hshaped hnames
  by_cases h : f.HoldsAtZero
  · have hsolve : a.solveTrivial f = ⟨.empty, 0, true, .optimal, a.name⟩ := if_pos (hall.2 h)
    have hprogram : ∀ library, ∃ p, BoundedProgram.ofDense library f = .ok p := fun library =>
      ⟨_, BoundedProgram.ofDense_of_not_contradictory hshaped (htaken library)
        fun hno => hcontradictory.1 hno h⟩
    rw [hsolve, hbounds]
    simp [h, hprogram]
  · have hsolve : a.solveTrivial f = .infeasible [] .infeasible a.name :=
      if_neg fun hyes => h (hall.1 hyes)
    have hrefused : ∀ library, ∃ why, BoundedProgram.ofDense library f =
        .error (.contradiction why) := fun library =>
      BoundedProgram.ofDense_of_contradictory hshaped (htaken library) (hcontradictory.2 h)
    have hnone : ∀ library p, BoundedProgram.ofDense library f ≠ .ok p := by
      intro library p hp
      obtain ⟨why, hwhy⟩ := hrefused library
      rw [hwhy] at hp
      cases hp
    rw [hsolve, hbounds]
    simp [h, hnone, hrefused, Solution.infeasible]

/-- An adapter for floating point whose engine answers nothing. -/
def silent : Adapter Float :=
  ⟨inequalityName, .inequality (fun _ _ _ => .error "no answer") defaultMethod, 10000, Scalar.dot⟩

/-- Rows without cells, whose right-hand sides are a negative zero, the two infinities and `b`. -/
def constants (b : Float) : DenseForm Float where
  variableNames := []
  objective := []
  lower := []
  upper := []
  rows := [[], [], [], []]
  relations := [.equal, .atLeast, .atMost, .atMost]
  rhs := [-0, -Scalar.infinity, Scalar.infinity, b]
  maximize := false
  constraintNames := ["zero", "floor", "ceiling", "last"]

theorem solveTrivial_iff_constants :
    (constants 0).shapeFault? = none ∧ (constants 0).variableNames = [] ∧
      (silent.solveTrivial (constants 0)).feasible = true ∧
      (∀ library, ∃ p, BoundedProgram.ofDense library (constants 0) = .ok p) ∧
      (∀ h ∈ (InequalityProgram.ofDense (constants 0)).rows, Scalar.le 0 h.bound = true) ∧
      (silent.solveTrivial (constants Scalar.notANumber)).feasible = false ∧
      ∀ library, ∃ why, BoundedProgram.ofDense library (constants Scalar.notANumber)
        = .error (.contradiction why) := by
  have hs : (constants 0).shapeFault? = none := by decide
  have hfeasible : (silent.solveTrivial (constants 0)).feasible = true := by rfl
  have hinfeasible : (silent.solveTrivial (constants Scalar.notANumber)).feasible = false := by rfl
  obtain ⟨hprogram, hbounds, -, -⟩ := solveTrivial_iff silent (constants 0) hs rfl
  obtain ⟨-, -, -, hrefused⟩ :=
    solveTrivial_iff silent (constants Scalar.notANumber) (by decide) rfl
  exact ⟨hs, rfl, hfeasible, fun library => (hprogram library).1 hfeasible, hbounds.1 hfeasible,
    hinfeasible,
    (hrefused hinfeasible).2⟩

end Adapter

end LinearDispatch
