-- SUMMARY: What an engine for native bounds is handed: only finite numbers, and nothing at all for a form with a number that has no place in a program.
import LinearDispatch.Number.Binary64
import LinearDispatch.Proofs.Adapter.Verdict
import LinearDispatch.Proofs.Program.Faults

/-!
# Guarded engines

The numbers of a model may be any, and reach the lowering to native bounds as
they are. The engine behind a strict library sees none that is not finite: an
infinite bound is left out, and any other such number ends the solve before the
engine is asked. If the form has variables the solve then has a solution without values,
whose status tells whether a contradiction was found before the fault.
-/
namespace LinearDispatch.Adapter

variable {α : Type} [Scalar α] {m : Model α} {f : DenseForm α} {library : Library α}
  {engine : BoundedEngine α} {limit : Literal α} {n : Int}

/-! ## Attempts -/

theorem attemptBounded_of_refusal {text : String}
    (h : BoundedProgram.ofDense library f = .error (.refusal text)) :
    attemptBounded library engine limit n f = { result := .error text } := by
  rw [attemptBounded, h]

/-- Whoever is handed a program got it from the form. -/
theorem ofDense_of_mem_calls {call : EngineCall α}
    (h : call ∈ (attemptBounded library engine limit n f).calls) :
    ∃ p, BoundedProgram.ofDense library f = .ok p ∧ call = .bounded p limit n := by
  cases hp : BoundedProgram.ofDense library f with
  | error e =>
    cases e with
    | contradiction why =>
      rw [attemptBounded_of_contradiction hp] at h
      cases h
    | refusal text =>
      rw [attemptBounded_of_refusal hp] at h
      cases h
  | ok p =>
    rw [calls_attemptBounded hp] at h
    split at h
    · cases h
    · exact ⟨p, rfl, List.mem_singleton.1 h⟩

/-- The engine is consulted on the program of the form only. -/
theorem attemptBounded_congr {engine' : BoundedEngine α}
    (h : ∀ p, BoundedProgram.ofDense library f = .ok p →
      engine p limit n = engine' p limit n) :
    attemptBounded library engine limit n f = attemptBounded library engine' limit n f := by
  rw [attemptBounded, attemptBounded]
  split
  · rfl
  · rfl
  · next p hp => rw [h p hp]

/-! ## Solves -/

/-- A form that the library refuses is answered without the engine. -/
theorem solve_of_refusal (hform : m.denseForm = .ok f) (hnames : f.variableNames ≠ [])
    {text : String} (htext : BoundedProgram.ofDense library f = .error (.refusal text))
    (engine : BoundedEngine α) (limit : Literal α) (name : String) (n : Int)
    (inner : InnerProduct α) :
    let o := (⟨name, .bounded library engine limit, n, inner⟩ : Adapter α).solve m
    o.answer = .ok (.infeasible f.variableNames .error name) ∧ o.calls = [] := by
  have hattempt : (⟨name, .bounded library engine limit, n, inner⟩ : Adapter α).attempt f =
      { result := .error text } :=
    attemptBounded_of_refusal htext
  refine ⟨?_, ?_⟩
  · rw [(solve_eq hform).2.1, if_neg hnames, solveForm, hattempt]
  · rw [(solve_eq hform).2.2, if_neg hnames, hattempt]

theorem vars_ne_nil (hform : m.denseForm = .ok f) (hnames : f.variableNames ≠ []) :
    m.vars ≠ [] := by
  intro hvars
  rw [(Model.lowers_of_denseForm hform).names, Model.variableNames, hvars] at hnames
  exact hnames rfl

/-- Whatever the numbers of a form, an engine behind a strict library is asked about finite programs
only, and what it would say of others makes no difference. A model whose form has a variable and a
faulty number is answered without the engine: there is no solution, for infeasibility or for an
error. If the library takes finite numbers, it is for infeasibility exactly if a contradiction is
found before the fault. -/
theorem guarded_of_faults [DefiniteScalar α] (hst : library.Strict) (f : DenseForm α)
    (hs : f.shapeFault? = none) (limit : Literal α) (n : Int) :
    (∀ engine, ∀ call ∈ (attemptBounded library engine limit n f).calls,
      ∃ p, call = .bounded p limit n ∧ p.Finite) ∧
    (∀ engine engine' : BoundedEngine α,
      (∀ p, p.Finite → engine p limit n = engine' p limit n) →
        attemptBounded library engine limit n f = attemptBounded library engine' limit n f) ∧
    (f.variableNames ≠ [] → f.Faulty →
      ∃ status ∈ [Status.infeasible, Status.error],
        (library.Accepting → (status = .infeasible ↔ f.ContradictoryFirst)) ∧
        ∀ (engine : BoundedEngine α) (name : String) (inner : InnerProduct α) (m : Model α),
          m.denseForm = .ok f →
          let o := (⟨name, .bounded library engine limit, n, inner⟩ : Adapter α).solve m
          o.answer = .ok (.infeasible f.variableNames status name) ∧ o.calls = []) := by
  have hshaped := DenseForm.shaped_iff.2 hs
  refine ⟨fun engine call hcall => ?_, fun engine engine' hagree => ?_, fun hnames hfaulty => ?_⟩
  · obtain ⟨p, hp, rfl⟩ := ofDense_of_mem_calls hcall
    exact ⟨p, rfl, BoundedProgram.finite_of_ofDense hst hshaped hp⟩
  · exact attemptBounded_congr fun p hp =>
      hagree p (BoundedProgram.finite_of_ofDense hst hshaped hp)
  · have hother : Status.error ≠ .infeasible := by decide
    rcases BoundedProgram.ofDense_cases library hshaped with
      ⟨hfirst, why, hwhy⟩ | ⟨htaken, -⟩ | ⟨hfirst, -, text, htext⟩
    · refine ⟨.infeasible, by simp, fun hl => ?_, fun engine name inner m hform => ?_⟩
      · simpa using (BoundedProgram.contradictedFirst_iff hl hst hshaped).1 hfirst
      · exact solve_of_contradiction hform (vars_ne_nil hform hnames) hwhy engine limit name n inner
    · exact absurd hfaulty (BoundedProgram.not_faulty_of_taken hst hshaped htaken)
    · refine ⟨.error, by simp, fun hl => ?_, fun engine name inner m hform => ?_⟩
      · simpa [hother] using mt (BoundedProgram.contradictedFirst_iff hl hst hshaped).2 hfirst
      · exact solve_of_refusal hform hnames htext engine limit name n inner

/-- A constant row that fails for want of a number, before a row with an infinite coefficient. -/
def brokenRows : Model Float :=
  Model.run { name := "rows" }
    [.addVariable "x" (.int 0) (.real Scalar.infinity),
      .addConstraint "none" (.ofList [("x", .int 0)]) (.text "<=") (.real Scalar.notANumber),
      .addConstraint "wide" (.ofList [("x", .real Scalar.infinity)]) (.text "<=") (.int 1)]

def brokenRowsForm : DenseForm Float where
  variableNames := ["x"]
  objective := [0]
  lower := [0]
  upper := [Scalar.infinity]
  rows := [[0], [Scalar.infinity]]
  relations := [.atMost, .atMost]
  rhs := [Scalar.notANumber, 1]
  maximize := true
  constraintNames := ["none", "wide"]

/-- A bound that is no number, which is found before the constant row that fails. -/
def brokenBound : Model Float :=
  Model.run { name := "bound" }
    [.addVariable "x" (.real Scalar.notANumber) (.int 1),
      .addConstraint "none" (.ofList [("x", .int 0)]) (.text ">=") (.int 1)]

def brokenBoundForm : DenseForm Float where
  variableNames := ["x"]
  objective := [0]
  lower := [Scalar.notANumber]
  upper := [1]
  rows := [[0]]
  relations := [.atLeast]
  rhs := [1]
  maximize := true
  constraintNames := ["none"]

/-- Both models are faulty and infeasible as stated; what comes first decides on the status. -/
theorem guarded_of_faults_broken :
    (∀ (engine : BoundedEngine Float) (inner : InnerProduct Float),
      let o := (⟨boundedName, .bounded Engine.library engine .null, 10000, inner⟩ :
        Adapter Float).solve brokenRows
      o.answer = .ok (.infeasible ["x"] .infeasible boundedName) ∧ o.calls = []) ∧
    ∀ (engine : BoundedEngine Float) (inner : InnerProduct Float),
      let o := (⟨boundedName, .bounded Engine.library engine .null, 10000, inner⟩ :
        Adapter Float).solve brokenBound
      o.answer = .ok (.infeasible ["x"] .error boundedName) ∧ o.calls = [] := by
  have hrows : brokenRows.denseForm = .ok brokenRowsForm := by rfl
  have hbound : brokenBound.denseForm = .ok brokenBoundForm := by rfl
  constructor
  · intro engine inner
    have hfirst : brokenRowsForm.ContradictoryFirst := by
      refine .inr ⟨by decide, by decide, by decide, 0, ?_, fun j hj => absurd hj j.not_lt_zero⟩
      exact ⟨_, _, _, rfl, rfl, rfl, by decide, by decide⟩
    have hfaulty : brokenRowsForm.Faulty :=
      .cell [Scalar.infinity] (by simp [brokenRowsForm]) Scalar.infinity (by simp) (by decide)
    obtain ⟨-, -, hrefused⟩ :=
      guarded_of_faults Engine.strict_library brokenRowsForm (by decide) .null 10000
    obtain ⟨status, -, hstatus, hsolve⟩ := hrefused (by decide) hfaulty
    obtain rfl := (hstatus Engine.accepting_library).2 hfirst
    exact hsolve engine boundedName inner brokenRows hrows
  · intro engine inner
    have hnan : Scalar.notANumber ∈ brokenBoundForm.lower := List.mem_singleton_self _
    have hcrossed : BoundedProgram.crossed brokenBoundForm = [] := by rfl
    have hfirst : ¬ brokenBoundForm.ContradictoryFirst := by
      rintro (⟨i, lower, upper, hlower, hupper, hlt⟩ | ⟨hlower, -⟩)
      · have hordered := (BoundedProgram.crossed_eq_nil_iff (DenseForm.shaped_iff.2 (by decide))).1
          hcrossed i lower upper hlower hupper
        rw [hlt] at hordered
        cases hordered
      · exact absurd (hlower _ hnan) (by decide)
    have hfaulty : brokenBoundForm.Faulty := .lower Scalar.notANumber hnan (by decide)
    obtain ⟨-, -, hrefused⟩ :=
      guarded_of_faults Engine.strict_library brokenBoundForm (by decide) .null 10000
    obtain ⟨status, hmem, hstatus, hsolve⟩ := hrefused (by decide) hfaulty
    obtain rfl | rfl : status = .infeasible ∨ status = .error := by simpa using hmem
    · exact absurd ((hstatus Engine.accepting_library).1 rfl) hfirst
    · exact hsolve engine boundedName inner brokenBound hbound

end LinearDispatch.Adapter
