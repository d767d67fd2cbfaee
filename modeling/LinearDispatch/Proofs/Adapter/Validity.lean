-- SUMMARY: A solve whose engine claims an optimum at a point of its own problem answers with a solution that the check accepts.
import LinearDispatch.Proofs.Adapter.Attempt
import LinearDispatch.Proofs.Model.Check

/-!
# Validity

Of an engine nothing is asked but that its point satisfies the problem it was
handed; whether the point is the best does not matter here. The point then
comes back through the lowering, under the names of the model, and the check,
which knows nothing of positions and programs, finds nothing to report.
-/
namespace LinearDispatch

open Exact (vector)

/-- The engine claims an optimum of the problem that it was handed, at a point that satisfies it. -/
def Backend.Satisfies : Backend Exact → EngineCall Exact → Prop
  | .inequality engine _, .inequality p method n =>
    ∃ r x, engine p method n = .ok r ∧ r.Claims x ∧ p.Admits x
  | .bounded _ engine _, .bounded p limit n =>
    ∃ r v, engine p limit n = .ok r ∧ r.Claims p.used v ∧ p.Admits p.used v
  | _, _ => False

namespace Adapter

variable {f : DenseForm Exact} {a : Adapter Exact} {call : EngineCall Exact}

/-- The attempt reaches a point that the form admits. -/
theorem attempt_reaches_of_satisfies (hs : f.Shaped) (hf : f.Regular)
    (hu : a.backend.Keeps Library.FindsUsed) (hcall : call ∈ (a.attempt f).calls)
    (h : a.backend.Satisfies call) :
    ∃ x, f.Admits x ∧ (a.attempt f).Reaches x := by
  rw [attempt] at hcall ⊢
  cases hbackend : a.backend with
  | inequality engine method =>
    rw [hbackend] at hcall h
    obtain rfl := List.mem_singleton.1 hcall
    obtain ⟨r, x, hengine, hr, hx⟩ := h
    have hadmits := (InequalityProgram.admits_ofDense_iff hs hf).1 hx
    exact ⟨x, hadmits, attemptInequality_reaches hengine hr⟩
  | bounded library engine limit =>
    rw [hbackend] at hu
    simp only [hbackend] at hcall h ⊢
    cases hprogram : BoundedProgram.ofDense library f with
    | error e => cases e <;> simp [attemptBounded, hprogram] at hcall
    | ok p =>
      have hp := BoundedProgram.represents_of_ofDense hs hf hprogram
      rw [calls_attemptBounded hprogram] at hcall
      split at hcall
      · cases hcall
      · next hseen =>
        have hused : p.used ≠ [] := mt (hu.found_eq_nil_iff p).2 hseen
        obtain rfl := List.mem_singleton.1 hcall
        obtain ⟨r, v, hengine, hr, hv⟩ := h
        exact ⟨_, hp.admits_completed hv, attemptBounded_reaches hu hprogram hp hused hengine hr⟩
  | custom kind answer => simp [hbackend] at hcall

/-- A solution at an admitted point passes the check of the model that it comes from. -/
theorem check_solutionAt {m : Model Exact} (hw : m.WellFormed) (hl : m.Lowers f) (hm : m.Regular)
    (hinner : a.inner.Accumulates) {x : List Rat} (hx : f.Admits x) {t : Rat} (ht : 0 ≤ t) :
    m.check (a.solutionAt f (vector x)) (.finite t) = .ok [] := by
  have hget : ∀ (i : Nat) v, m.vars[i]? = some v →
      (a.solutionAt f (vector x)).values.get? v.name = some (.finite (x.getD i 0)) := by
    intro i v hv
    have hi : i < x.length := by
      rw [hx.size, hl.length_names]
      exact (List.getElem?_eq_some_iff.1 hv).1
    refine get?_values_solutionAt (i := i) (hl.names ▸ hw.variableNames) hx.size ?_ (by simp [hi])
    rw [hl.names, Model.variableNames, List.getElem?_map, hv]
    rfl
  refine hl.check_eq_nil hm hx rfl ?_ ?_ (objective_solutionAt hinner hl.shaped hx.size) ht
  · intro v hv
    obtain ⟨i, hi⟩ := List.mem_iff_getElem?.1 hv
    rw [Table.contains, hget i v hi]
    rfl
  · intro i v hv
    rw [Solution.valueOf, hget i v hv]
    rfl

/-- Whenever an engine claims an optimum at a point that satisfies what it was handed, the solve
answers with a feasible solution in which the check finds no violation, whatever the tolerance. -/
theorem check_solve_eq_nil {m : Model Exact} (hm : m.Reachable) (hform : m.denseForm = .ok f)
    (hr : m.Regular) (a : Adapter Exact) (hu : a.backend.Keeps Library.FindsUsed)
    (hinner : a.inner.Accumulates) (hcall : call ∈ (a.solve m).calls)
    (hsat : a.backend.Satisfies call) :
    ∃ s, (a.solve m).answer = .ok s ∧ s.feasible = true ∧
      ∀ t : Rat, 0 ≤ t → (a.solve m).state.check s (.finite t) = .ok [] := by
  have hl := Model.lowers_of_denseForm hform
  obtain ⟨hstate, hanswer, hcalls⟩ := solve_eq (a := a) hform
  rw [hcalls] at hcall
  split at hcall
  · cases hcall
  · next hnames =>
    obtain ⟨x, hx, hreaches⟩ :=
      attempt_reaches_of_satisfies hl.shaped (hl.regular hr) hu hcall hsat
    refine ⟨a.solutionAt f (vector x), ?_, rfl, fun t ht => ?_⟩
    · rw [hanswer, if_neg hnames, solveForm_of_reaches hreaches hx.size]
    · rw [hstate]
      exact check_solutionAt hm.wellFormed hl hr hinner hx ht

/-- Both exact engines solve the sample: for one the last variable is a coordinate of its point,
for the other it rests. -/
theorem check_solve_eq_nil_sample :
    (∃ s, (exactInequality.solve Model.sample).answer = .ok s ∧ s.feasible = true ∧
      ∀ t : Rat, 0 ≤ t → (exactInequality.solve Model.sample).state.check s (.finite t) = .ok []) ∧
    ∃ s, (exactBounded.solve Model.sample).answer = .ok s ∧ s.feasible = true ∧
      ∀ t : Rat, 0 ≤ t → (exactBounded.solve Model.sample).state.check s (.finite t) = .ok [] := by
  constructor
  · have hcall : .inequality (.ofDense DenseForm.sample) defaultMethod 10000 ∈
        (exactInequality.solve Model.sample).calls := by
      rw [calls_exactInequality_sample]
      exact List.mem_singleton_self _
    refine check_solve_eq_nil Model.reachable_sample Model.denseForm_sample Model.regular_sample _
      trivial accumulates_dot hcall ⟨_, [2, 2, -5], inequality_sample, ⟨rfl, rfl, rfl⟩, ?_⟩
    exact (InequalityProgram.admits_ofDense_iff (by decide) (by decide)).2 admits_sample
  · have hcall : .bounded sampleProgram .null 10000 ∈ (exactBounded.solve Model.sample).calls := by
      rw [calls_exactBounded_sample]
      exact List.mem_singleton_self _
    exact check_solve_eq_nil Model.reachable_sample Model.denseForm_sample Model.regular_sample _
      Engine.findsUsed_library accumulates_dot hcall ⟨_, ([2, 2, -5].getD · 0), bounded_sample,
        ⟨rfl, rfl, claims_sample⟩, represents_sample.admits_used admits_sample⟩

end Adapter

end LinearDispatch
