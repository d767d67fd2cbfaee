-- SUMMARY: When a solution is feasible: on an engine's verdict of a proven optimum, or where there is nothing to decide, and never otherwise.
import LinearDispatch.Proofs.Adapter.Answer
import LinearDispatch.Proofs.Program.Used

/-!
# Feasible solutions and verdicts

Whether a solution is feasible is settled by what the engine reports, and every
report has several parts: a code, a flag of success and a message, or the code
of the verdict and the code of what was found. Only one combination stands for a
proven optimum; a run that stopped early, an unknown code without success and an
engine that raised all end without one. An engine for native bounds is left out
altogether when its form is infeasible as stated or mentions no variable.
-/
namespace LinearDispatch.Adapter

variable {α : Type} [Scalar α] {a : Adapter α} {m : Model α} {f : DenseForm α}

theorem variableNames_ne_nil (hform : m.denseForm = .ok f) (hvars : m.vars ≠ []) :
    f.variableNames ≠ [] := by
  rw [(Model.lowers_of_denseForm hform).names]
  simpa [Model.variableNames] using hvars

/-- What an engine hands over is always read back, so the attempt alone decides. -/
theorem feasible_solve_iff_not_fails (hform : m.denseForm = .ok f) (hvars : m.vars ≠ [])
    (ha : a.backend.AsksEngine) :
    ∃ s, (a.solve m).answer = .ok s ∧ (s.feasible = true ↔ ¬ (a.attempt f).Fails) := by
  obtain ⟨s, hs⟩ := exists_solution_of_asksEngine ha hform
  refine ⟨s, hs, ?_⟩
  rw [(solve_eq hform).2.1, if_neg (variableNames_ne_nil hform hvars)] at hs
  exact feasible_solveForm_iff hs

/-! ## Engines for inequalities -/

theorem not_fails_attemptInequality_iff {engine : InequalityEngine α} {method : String} {n : Int} :
    ¬ (attemptInequality engine method n f).Fails ↔
      ∃ r, engine (.ofDense f) method n = .ok r ∧ r.success = true ∧
        r.status ∉ ([1, 2, 3, 4] : List Int) := by
  rw [fails_attemptInequality_iff]
  push Not
  simp only [Status.ofInequality_eq_optimal_iff]

/-! ## Engines for native bounds -/

section Bounded

variable {library : Library α} {engine : BoundedEngine α} {limit : Literal α} {n : Int}

theorem not_fails_attemptBounded_iff (hs : f.Shaped) (hu : library.FindsUsed)
    {p : BoundedProgram α} (hp : BoundedProgram.ofDense library f = .ok p) :
    ¬ (attemptBounded library engine limit n f).Fails ↔
      (∀ j, ¬ f.Mentions j) ∨ ∃ r, engine p limit n = .ok r ∧ r.status = 1 ∧ r.solution = 1 := by
  rw [fails_attemptBounded_iff hp, Ne, hu.found_eq_nil_iff,
    BoundedProgram.used_eq_nil_iff hs hp, not_and_or, not_not]
  push Not
  rfl

/-- The engine is asked where the form mentions a variable. -/
theorem calls_attemptBounded_eq_nil_iff (hs : f.Shaped) (hu : library.FindsUsed)
    {p : BoundedProgram α} (hp : BoundedProgram.ofDense library f = .ok p) :
    (attemptBounded library engine limit n f).calls = [] ↔ ∀ j, ¬ f.Mentions j := by
  rw [calls_attemptBounded hp, ← BoundedProgram.used_eq_nil_iff hs hp, ← hu.found_eq_nil_iff]
  split
  · next hseen => simp [hseen]
  · next hseen => simp [hseen]

/-- A form that is infeasible as stated is answered without the engine. -/
theorem solve_of_contradiction (hform : m.denseForm = .ok f) (hvars : m.vars ≠ [])
    {why : Contradiction α} (hwhy : BoundedProgram.ofDense library f = .error (.contradiction why))
    (engine : BoundedEngine α) (limit : Literal α) (name : String) (n : Int)
    (inner : InnerProduct α) :
    let o := (⟨name, .bounded library engine limit, n, inner⟩ : Adapter α).solve m
    o.answer = .ok (.infeasible f.variableNames .infeasible name) ∧ o.calls = [] := by
  have hnames := variableNames_ne_nil hform hvars
  have hattempt : (⟨name, .bounded library engine limit, n, inner⟩ : Adapter α).attempt f =
      { result := .ok ⟨none, .infeasible⟩, events := [.contradiction why] } :=
    attemptBounded_of_contradiction hwhy
  have hoptimal : Status.infeasible ≠ .optimal := Status.ne_optimal.1
  refine ⟨?_, ?_⟩
  · rw [(solve_eq hform).2.1, if_neg hnames, solveForm, hattempt]
    simp [hoptimal]
  · rw [(solve_eq hform).2.2, if_neg hnames, hattempt]

end Bounded

/-! ## Every solve -/

/-- A solution is feasible exactly on the verdict of a proven optimum. An engine for inequalities
gives it by success with a code that does not say otherwise, one for native bounds by both of its
codes. The latter is not asked where the form mentions no variable, which is feasible, and where the
form is infeasible as stated, which is not; the library before it has to find the used variables. -/
theorem feasible_solve_iff (hform : m.denseForm = .ok f) (hvars : m.vars ≠ []) (name : String)
    (n : Int) (inner : InnerProduct α) :
    (∀ (engine : InequalityEngine α) (method : String),
      let o := (⟨name, .inequality engine method, n, inner⟩ : Adapter α).solve m
      ∃ s, o.answer = .ok s ∧
        (s.feasible = true ↔ ∃ r, engine (.ofDense f) method n = .ok r ∧ r.success = true ∧
          r.status ∉ ([1, 2, 3, 4] : List Int))) ∧
    ∀ (library : Library α) (engine : BoundedEngine α) (limit : Literal α),
      let o := (⟨name, .bounded library engine limit, n, inner⟩ : Adapter α).solve m
      (library.FindsUsed → ∀ p, BoundedProgram.ofDense library f = .ok p →
        (o.calls = [] ↔ ∀ j, ¬ f.Mentions j) ∧
        ∃ s, o.answer = .ok s ∧
          (s.feasible = true ↔ (∀ j, ¬ f.Mentions j) ∨
            ∃ r, engine p limit n = .ok r ∧ r.status = 1 ∧ r.solution = 1)) ∧
      ∀ why, BoundedProgram.ofDense library f = .error (.contradiction why) →
        o.calls = [] ∧ ∃ s, o.answer = .ok s ∧ s.feasible = false ∧ s.status = .infeasible := by
  have hshaped := (Model.lowers_of_denseForm hform).shaped
  refine ⟨fun engine method => ?_,
    fun library engine limit => ⟨fun hu p hp => ⟨?_, ?_⟩, fun why hwhy => ?_⟩⟩
  · obtain ⟨s, hs, hfeasible⟩ := feasible_solve_iff_not_fails
      (a := ⟨name, .inequality engine method, n, inner⟩) hform hvars trivial
    exact ⟨s, hs, hfeasible.trans not_fails_attemptInequality_iff⟩
  · rw [(solve_eq hform).2.2, if_neg (variableNames_ne_nil hform hvars)]
    exact calls_attemptBounded_eq_nil_iff hshaped hu hp
  · obtain ⟨s, hs, hfeasible⟩ := feasible_solve_iff_not_fails
      (a := ⟨name, .bounded library engine limit, n, inner⟩) hform hvars trivial
    exact ⟨s, hs, hfeasible.trans (not_fails_attemptBounded_iff hshaped hu hp)⟩
  · obtain ⟨hanswer, hcalls⟩ := solve_of_contradiction hform hvars hwhy engine limit name n inner
    exact ⟨hcalls, _, hanswer, rfl, rfl⟩

/-- An engine for native bounds that stopped on its limit and calls that optimal. -/
def stopped : Adapter Exact :=
  ⟨boundedName, .bounded Engine.library
    (fun _ _ _ => .ok ⟨1, 2, [(0, .finite 2), (1, .finite 2)]⟩) .null, 10000, Scalar.dot⟩

/-- An engine for inequalities that succeeds under a code which is not known. -/
def unlisted : Adapter Exact :=
  ⟨inequalityName, .inequality (fun _ _ _ => .ok ⟨9, true, none, none⟩) defaultMethod, 10000,
    Scalar.dot⟩

theorem feasible_solve_iff_stopped_unlisted :
    Model.sample.denseForm = .ok DenseForm.sample ∧ Model.sample.vars ≠ [] ∧
    BoundedProgram.ofDense Engine.library DenseForm.sample = .ok sampleProgram ∧
    (∃ s, (stopped.solve Model.sample).answer = .ok s ∧ ¬ s.feasible = true) ∧
    ∃ s, (unlisted.solve Model.sample).answer = .ok s ∧ s.feasible = true := by
  have hvars : Model.sample.vars ≠ [] := by decide
  obtain ⟨-, hbounded⟩ :=
    feasible_solve_iff Model.denseForm_sample hvars boundedName 10000 Scalar.dot
  obtain ⟨hinequality, -⟩ :=
    feasible_solve_iff Model.denseForm_sample hvars inequalityName 10000 Scalar.dot
  refine ⟨Model.denseForm_sample, hvars, ofDense_sample, ?_, ?_⟩
  · obtain ⟨-, s, hs, hfeasible⟩ :=
      (hbounded _ _ _).1 Engine.findsUsed_library sampleProgram ofDense_sample
    refine ⟨s, hs, fun h => ?_⟩
    rcases hfeasible.1 h with hnone | ⟨r, hr, -, hsolution⟩
    · exact hnone 0 ⟨.finite 3, by decide, .inl (by decide)⟩
    · cases hr
      cases hsolution
  · obtain ⟨s, hs, hfeasible⟩ := hinequality _ _
    exact ⟨s, hs, hfeasible.2 ⟨_, rfl, rfl, by decide⟩⟩

end LinearDispatch.Adapter
