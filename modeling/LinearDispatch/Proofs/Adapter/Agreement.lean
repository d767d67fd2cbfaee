-- SUMMARY: Adapters whose engines solve what they are handed agree: each settles the model's form, and what settles a form is unique.
import LinearDispatch.Proofs.Adapter.Attempt
import LinearDispatch.Proofs.Model.Lowering

/-!
# Agreement of the backends

An engine settles a problem when it claims an optimum exactly if there is one,
and at an optimal point. The two backends hand over different problems, and
sometimes none; nevertheless a solve settles the form of its model each time:
its solution is feasible exactly if the form has an optimum, and has the
optimal objective then. There is only one such objective, so two backends
cannot differ.
-/
namespace LinearDispatch

open Exact (vector linear)

/-! ## Optima -/

/-- A best point is as good as any other best point. -/
theorem IsBest.value_eq {β : Type} {Admits : β → Prop} {value : β → Exact} {maximize : Bool}
    {x y : β} {p q : Rat} (hx : IsBest Admits value maximize x)
    (hy : IsBest Admits value maximize y) (hp : value x = .finite p) (hq : value y = .finite q) :
    p = q := by
  have hxy := hx.best y hy.admitted
  have hyx := hy.best x hx.admitted
  rw [hp, hq, AsGood] at hxy
  rw [hp, hq, AsGood] at hyx
  cases maximize with
  | false =>
    simp only [Bool.false_eq_true, if_false, Exact.le_finite] at hxy hyx
    exact le_antisymm hxy hyx
  | true =>
    simp only [if_true, Exact.le_finite] at hxy hyx
    exact le_antisymm hyx hxy

/-! ## Promises of the engines -/

/-- The answer claims an optimum at an optimal point if there is one, and no success otherwise. -/
structure InequalityProgram.SettledBy (p : InequalityProgram Exact)
    (answer : Except String (InequalityReport Exact)) : Prop where
  found : (∃ x, p.Optimal x) → ∃ r x, answer = .ok r ∧ r.Claims x ∧ p.Optimal x
  none : (¬ ∃ x, p.Optimal x) → ∀ r, answer = .ok r → r.success = false

/-- The answer claims an optimum with the values of an optimal assignment if there is one, and one
of its codes denies it otherwise. -/
structure BoundedProgram.SettledBy (p : BoundedProgram Exact)
    (answer : Except String (BoundedReport Exact)) : Prop where
  found : (∃ v, p.Optimal v) → ∃ r v, answer = .ok r ∧ r.Claims p.used v ∧ p.Optimal v
  none : (¬ ∃ v, p.Optimal v) → ∀ r, answer = .ok r → r.status ≠ 1 ∨ r.solution ≠ 1

/-- The engine settles the problem that it was handed. -/
def Backend.Settles : Backend Exact → EngineCall Exact → Prop
  | .inequality engine _, .inequality p method n => p.SettledBy (engine p method n)
  | .bounded _ engine _, .bounded p limit n => p.SettledBy (engine p limit n)
  | _, _ => False

/-! ## Settled forms -/

namespace DenseForm

/-- The attempt reaches an optimum of the form if there is one, and fails otherwise. -/
structure SettledByAttempt (f : DenseForm Exact) (t : Attempt Exact) : Prop where
  found : (∃ x, f.Optimal x) → ∃ x, t.Reaches x ∧ f.Optimal x
  none : (¬ ∃ x, f.Optimal x) → t.Fails

/-- The solution is feasible with the objective of an optimum of the form if there is one, and not
feasible otherwise. -/
structure SettledBySolution (f : DenseForm Exact) (s : Solution Exact) : Prop where
  found : (∃ x, f.Optimal x) → s.feasible = true ∧ ∃ x, s.objective = f.value x ∧ f.Optimal x
  none : (¬ ∃ x, f.Optimal x) → s.feasible = false

/-- Two solutions that settle the same form say the same. -/
theorem SettledBySolution.agree {f : DenseForm Exact} (hf : f.Regular) {s t : Solution Exact}
    (hs : f.SettledBySolution s) (ht : f.SettledBySolution t) :
    s.feasible = t.feasible ∧ (s.feasible = true → s.objective = t.objective) := by
  obtain ⟨c, hc⟩ := Exact.exists_vector hf.objective
  have hvalue : ∀ x, f.value x = .finite (linear c x) := fun x => by
    rw [value, hc, Exact.dot_vector]
  by_cases hoptimal : ∃ x, f.Optimal x
  · obtain ⟨hsf, x, hsx, hx⟩ := hs.found hoptimal
    obtain ⟨htf, y, hty, hy⟩ := ht.found hoptimal
    refine ⟨hsf.trans htf.symm, fun _ => ?_⟩
    rw [hsx, hty, hvalue, hvalue, hx.value_eq hy (hvalue x) (hvalue y)]
  · refine ⟨(hs.none hoptimal).trans (ht.none hoptimal).symm, fun hfeasible => ?_⟩
    rw [hs.none hoptimal] at hfeasible
    cases hfeasible

end DenseForm

namespace Adapter

variable {f : DenseForm Exact} {n : Int}

theorem settled_attemptInequality (hs : f.Shaped) (hf : f.Regular)
    {engine : InequalityEngine Exact} {method : String}
    (h : (InequalityProgram.ofDense f).SettledBy (engine (.ofDense f) method n)) :
    f.SettledByAttempt (attemptInequality engine method n f) := by
  have hoptimal : (∃ x, (InequalityProgram.ofDense f).Optimal x) ↔ ∃ x, f.Optimal x :=
    exists_congr fun x => InequalityProgram.optimal_ofDense_iff hs hf
  constructor
  · intro hfound
    obtain ⟨r, x, hengine, hr, hx⟩ := h.found (hoptimal.2 hfound)
    exact ⟨x, attemptInequality_reaches hengine hr,
      (InequalityProgram.optimal_ofDense_iff hs hf).1 hx⟩
  · intro hnone
    exact attemptInequality_fails (h.none fun hfound => hnone (hoptimal.1 hfound))

/-- A form without a program has no optimum, and one whose program uses no variable has one
without being asked about. -/
theorem settled_attemptBounded (hs : f.Shaped) (hf : f.Regular) {library : Library Exact}
    (hl : library.Accepting) (hu : library.FindsUsed)
    {engine : BoundedEngine Exact} {limit : Literal Exact}
    (h : ∀ p, BoundedProgram.ofDense library f = .ok p → library.found p ≠ [] →
      p.SettledBy (engine p limit n)) :
    f.SettledByAttempt (attemptBounded library engine limit n f) := by
  cases hprogram : BoundedProgram.ofDense library f with
  | error e =>
    obtain ⟨⟨why, rfl⟩, hno⟩ := BoundedProgram.not_admits_of_ofDense hl hs hf hprogram
    refine ⟨fun ⟨x, hx⟩ => absurd hx.admitted (hno x), fun _ => ?_⟩
    exact attemptBounded_fails_of_contradiction hprogram
  | ok p =>
    have hp := BoundedProgram.represents_of_ofDense hs hf hprogram
    by_cases hused : p.used = []
    · have hx := hp.optimal_completed (hp.optimal_of_used_eq_nil hused fun _ => 0)
      refine ⟨fun _ => ⟨_, ?_, hx⟩, fun hnone => absurd ⟨_, hx⟩ hnone⟩
      exact attemptBounded_reaches_of_used_eq_nil hu hprogram hp hused _
    · have hseen : library.found p ≠ [] := mt (hu.found_eq_nil_iff p).1 hused
      have hsettled := h p hprogram hseen
      constructor
      · rintro ⟨x, hx⟩
        obtain ⟨r, v, hengine, hr, hv⟩ := hsettled.found ⟨_, hp.optimal_getD hx⟩
        exact ⟨_, attemptBounded_reaches hu hprogram hp hused hengine hr, hp.optimal_completed hv⟩
      · intro hnone
        refine (fails_attemptBounded_iff hprogram).2 ⟨hseen, fun r hr hcodes => ?_⟩
        have hprogramNone : ¬ ∃ v, p.Optimal v := fun ⟨v, hv⟩ => hnone ⟨_, hp.optimal_completed hv⟩
        rcases hsettled.none hprogramNone r hr with hstatus | hsolution
        · exact hstatus hcodes.1
        · exact hsolution hcodes.2

theorem settled_attempt {a : Adapter Exact} (hs : f.Shaped) (hf : f.Regular)
    (ha : a.backend.AsksEngine) (hl : a.backend.Keeps Library.Accepting)
    (hu : a.backend.Keeps Library.FindsUsed)
    (h : ∀ call ∈ (a.attempt f).calls, a.backend.Settles call) :
    f.SettledByAttempt (a.attempt f) := by
  rw [attempt] at h ⊢
  cases hbackend : a.backend with
  | inequality engine method =>
    simp only [hbackend] at h
    exact settled_attemptInequality hs hf (h _ (List.mem_singleton_self _))
  | bounded library engine limit =>
    rw [hbackend] at hl hu
    simp only [hbackend] at h
    refine settled_attemptBounded hs hf hl hu fun p hprogram hseen => ?_
    refine h (.bounded p limit a.iterations) ?_
    rw [calls_attemptBounded hprogram, if_neg hseen]
    exact List.mem_singleton_self _
  | custom kind answer => simp [hbackend, Backend.AsksEngine] at ha

/-! ## Forms without variables -/

theorem all_constantRows_iff {α : Type} [Scalar α] {f : DenseForm α} :
    f.constantRows.all (·.2) = true ↔
      ∀ c ∈ f.conditions, DenseForm.isConstant c.1 = true → c.2.1.holds 0 c.2.2 0 = true := by
  rw [DenseForm.constantRows, List.all_eq_true]
  constructor
  · intro h c hc hconstant
    obtain ⟨k, hk⟩ := List.mem_iff_getElem?.1 hc
    refine h (k, c.2.1.holds 0 c.2.2 0) (List.mem_filterMap.2 ⟨(c, k), ?_, if_pos hconstant⟩)
    exact List.mem_zipIdx_iff_getElem?.2 hk
  · intro h e he
    obtain ⟨⟨c, k⟩, hmem, hsome⟩ := List.mem_filterMap.1 he
    dsimp only at hsome
    split at hsome
    · next hconstant =>
      cases hsome
      exact h c (List.mem_of_getElem? (List.mem_zipIdx_iff_getElem?.1 hmem)) hconstant
    · cases hsome

/-- The empty point is admitted when the constant rows hold, as they are all rows then. -/
theorem admits_nil_iff (hs : f.Shaped) (hf : f.Regular) (hnames : f.variableNames = []) :
    f.Admits [] ↔ f.constantRows.all (·.2) = true := by
  have hmeets : ∀ c ∈ f.conditions, DenseForm.Meets [] c ↔
      (DenseForm.isConstant c.1 = true → c.2.1.holds 0 c.2.2 0 = true) := by
    intro c hc
    obtain ⟨a, r, b, ha, rfl⟩ := DenseForm.exists_of_mem_conditions hs hf c hc
    obtain rfl : a = [] := by simpa [hnames] using ha
    have hconstant : DenseForm.isConstant (vector []) = true := rfl
    rw [DenseForm.Meets, Exact.dot_vector, Exact.linear_nil, ← r.holds_zero_iff]
    exact ⟨fun h _ => h, fun h => h hconstant⟩
  rw [all_constantRows_iff, ← forall₂_congr hmeets, DenseForm.forall_mem_conditions_iff]
  constructor
  · exact fun h => h.rows
  · exact fun h => ⟨by simp [hnames], by simp, h⟩

/-- The empty point settles a form without variables. -/
theorem settled_solveTrivial (a : Adapter Exact) (hs : f.Shaped) (hf : f.Regular)
    (hnames : f.variableNames = []) : f.SettledBySolution (a.solveTrivial f) := by
  have hempty : ∀ x, f.Admits x → x = [] := fun x hx => by simpa [hnames] using hx.size
  have hoptimal : f.Optimal [] ↔ f.constantRows.all (·.2) = true := by
    rw [← admits_nil_iff hs hf hnames]
    refine ⟨fun h => h.admitted, fun h => ⟨h, fun y hy => ?_⟩⟩
    obtain rfl := hempty y hy
    simp [AsGood, DenseForm.value, Scalar.dot, Scalar.sum]
  rw [solveTrivial]
  constructor
  · rintro ⟨x, hx⟩
    obtain rfl := hempty x hx.admitted
    rw [if_pos (hoptimal.1 hx)]
    exact ⟨rfl, [], by simp [DenseForm.value, Scalar.dot, Scalar.sum], hx⟩
  · intro hnone
    rw [if_neg fun h => hnone ⟨[], hoptimal.2 h⟩]
    rfl

/-! ## Agreement -/

/-- However the backend proceeds, the solution settles the form of the model. -/
theorem settled_solve {a : Adapter Exact} {m : Model Exact} (hform : m.denseForm = .ok f)
    (hm : m.Regular) (ha : a.backend.AsksEngine) (hl : a.backend.Keeps Library.Accepting)
    (hu : a.backend.Keeps Library.FindsUsed) (hinner : a.inner.Accumulates)
    (h : ∀ call ∈ (a.solve m).calls, a.backend.Settles call) :
    ∃ s, (a.solve m).answer = .ok s ∧ f.SettledBySolution s := by
  have hlowers := Model.lowers_of_denseForm hform
  have hf := hlowers.regular hm
  obtain ⟨-, hanswer, hcalls⟩ := solve_eq (a := a) hform
  by_cases hnames : f.variableNames = []
  · rw [if_pos hnames] at hanswer
    exact ⟨_, hanswer, settled_solveTrivial a hlowers.shaped hf hnames⟩
  · rw [if_neg hnames] at hanswer hcalls
    rw [hcalls] at h
    have hsettled := settled_attempt hlowers.shaped hf ha hl hu h
    by_cases hoptimal : ∃ x, f.Optimal x
    · obtain ⟨x, hreaches, hx⟩ := hsettled.found hoptimal
      rw [solveForm_of_reaches hreaches hx.admitted.size] at hanswer
      have hobjective := objective_solutionAt hinner hlowers.shaped hx.admitted.size
      refine ⟨_, hanswer, fun _ => ⟨rfl, x, hobjective, hx⟩, ?_⟩
      exact fun hnone => absurd hoptimal hnone
    · obtain ⟨status, hinfeasible⟩ := solveForm_of_fails (hsettled.none hoptimal)
      rw [hinfeasible] at hanswer
      exact ⟨_, hanswer, fun hfound => absurd hfound hoptimal, fun _ => rfl⟩

/-- The backend of inequalities and the backend of native bounds agree on every model that can be
lowered, as long as each engine settles the problem that it is handed, if it is handed one, and the
library takes finite numbers and finds the used variables. -/
theorem solve_agree {m : Model Exact} (hform : m.denseForm = .ok f) (hm : m.Regular)
    {a b : Adapter Exact} {engine : InequalityEngine Exact} {method : String}
    {library : Library Exact} {engine' : BoundedEngine Exact} {limit : Literal Exact}
    (ha : a.backend = .inequality engine method) (hb : b.backend = .bounded library engine' limit)
    (hl : library.Accepting) (hu : library.FindsUsed)
    (hia : a.inner.Accumulates) (hib : b.inner.Accumulates)
    (hsa : ∀ call ∈ (a.solve m).calls, a.backend.Settles call)
    (hsb : ∀ call ∈ (b.solve m).calls, b.backend.Settles call) :
    ∃ s t, (a.solve m).answer = .ok s ∧ (b.solve m).answer = .ok t ∧
      s.feasible = t.feasible ∧ (s.feasible = true → s.objective = t.objective) := by
  obtain ⟨s, hs, hsettled⟩ :=
    settled_solve hform hm (ha ▸ trivial) (ha ▸ trivial) (ha ▸ trivial) hia hsa
  obtain ⟨t, ht, hsettled'⟩ := settled_solve hform hm (hb ▸ trivial) (hb ▸ hl) (hb ▸ hu) hib hsb
  have hf := (Model.lowers_of_denseForm hform).regular hm
  exact ⟨s, t, hs, ht, hsettled.agree hf hsettled'⟩

/-- The point of the exact engines is an optimum of the sample: its first row and the equality of
the two variables bound the objective. -/
theorem optimal_sample : DenseForm.sample.Optimal [2, 2, -5] := by
  refine ⟨admits_sample, fun y hy => ?_⟩
  obtain ⟨p, q, r, rfl⟩ : ∃ p q r, y = [p, q, r] := List.length_eq_three.1 hy.size
  have hupper := hy.rows 0 _ _ _ rfl rfl rfl
  have hlevel := hy.rows 2 _ _ _ rfl rfl rfl
  simp only [Relation.Relates, Exact.dot_vector, Exact.le_finite, Exact.eq_finite,
    Exact.linear_cons, Exact.linear_nil] at hupper hlevel
  simp only [AsGood, DenseForm.value, DenseForm.sample, Exact.dot_vector, if_true,
    Exact.le_finite, Exact.linear_cons, Exact.linear_nil]
  linarith

theorem solve_agree_sample :
    ∃ s t, (exactInequality.solve Model.sample).answer = .ok s ∧
      (exactBounded.solve Model.sample).answer = .ok t ∧
      s.feasible = t.feasible ∧ (s.feasible = true → s.objective = t.objective) := by
  refine solve_agree Model.denseForm_sample Model.regular_sample rfl rfl Engine.accepting_library
    Engine.findsUsed_library accumulates_dot accumulates_dot ?_ ?_
  · rw [calls_exactInequality_sample, List.forall_mem_singleton]
    have hx := (InequalityProgram.optimal_ofDense_iff (by decide) (by decide)).2 optimal_sample
    refine ⟨fun _ => ?_, fun hnone => absurd ⟨_, hx⟩ hnone⟩
    exact ⟨_, [2, 2, -5], inequality_sample, ⟨rfl, rfl, rfl⟩, hx⟩
  · rw [calls_exactBounded_sample, List.forall_mem_singleton]
    have hv := represents_sample.optimal_getD optimal_sample
    refine ⟨fun _ => ?_, fun hnone => absurd ⟨_, hv⟩ hnone⟩
    exact ⟨_, ([2, 2, -5].getD · 0), bounded_sample, ⟨rfl, rfl, claims_sample⟩, hv⟩

end Adapter

end LinearDispatch
