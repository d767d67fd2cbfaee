-- SUMMARY: When the objective of a solution is a number: always for finite coefficients in the range, but not for every feasible solution.
import LinearDispatch.Number.Binary64
import LinearDispatch.Proofs.Adapter.Answer
import LinearDispatch.Proofs.Indefinite

/-!
# Objectives that are no number

A solve without an optimum leaves no number for the objective, and callers read
such an objective as a failure. The objective of a feasible solution is computed
last, from coefficients that may be anything and values that are finite, and
what it comes to is not looked at. Whichever library forms the product, it is no
number if a coefficient is none, if a zero takes an infinite coefficient with
it, or if two infinite coefficients come to opposite infinities. It is a number
otherwise, unless finite products leave the range.
-/
namespace LinearDispatch

open Accumulation (Indefinite InRange)

variable {α : Type} [Scalar α]

namespace Solution

/-- The coefficients of the form with the values of the solution, in declared order. -/
def terms (s : Solution α) (f : DenseForm α) : List (α × α) :=
  List.zip f.objective (s.values.entries.map Prod.snd)

variable {s : Solution α} {a : Adapter α} {m : Model α} {f : DenseForm α}

theorem WellFormed.length_values (hwell : s.WellFormed a m f) (hl : m.Lowers f) :
    (s.values.entries.map Prod.snd).length = f.objective.length := by
  have hkeys : s.values.entries.length = m.variableNames.length := by
    rw [← hwell.keys, Table.keys, List.length_map]
  rw [List.length_map, hkeys, hl.shaped.objective, hl.names]

theorem WellFormed.isFinite_values (hwell : s.WellFormed a m f) :
    ∀ x ∈ s.values.entries.map Prod.snd, Scalar.isFinite x = true := by
  intro x hx
  obtain ⟨e, he, rfl⟩ := List.mem_map.1 hx
  exact hwell.finite e he

omit [Scalar α] in
/-- A form without variables has no terms. -/
theorem terms_eq_nil (hs : f.Shaped) (hnames : f.variableNames = []) : s.terms f = [] := by
  have hobjective : f.objective = [] := by
    rw [← List.length_eq_zero_iff, hs.objective, hnames]
    rfl
  rw [terms, hobjective]
  rfl

variable [Fused α] [DirectedScalar α]

theorem WellFormed.isNaN_of_indefinite (hwell : s.WellFormed a m f) (hl : m.Lowers f)
    (hinner : a.inner.Accumulates) (hi : Indefinite (s.terms f)) :
    Scalar.isNaN s.objective = true := by
  cases hfeasible : s.feasible with
  | false => exact (hwell.unsolved hfeasible).2
  | true =>
    rw [hwell.solved hfeasible]
    split
    · next hnames =>
      rw [terms_eq_nil hl.shaped hnames] at hi
      cases hi <;> contradiction
    · exact hinner.isNaN_of_indefinite (hwell.length_values hl) hwell.isFinite_values hi

theorem WellFormed.indefinite_of_isNaN (hwell : s.WellFormed a m f) (hl : m.Lowers f)
    (hinner : a.inner.Accumulates) (hrange : InRange (s.terms f)) (hfeasible : s.feasible = true)
    (hnan : Scalar.isNaN s.objective = true) : Indefinite (s.terms f) := by
  rw [hwell.solved hfeasible] at hnan
  split at hnan
  · rw [Scalar.isNaN_zero] at hnan
    cases hnan
  · exact (hinner.isNaN_iff (hwell.length_values hl) hwell.isFinite_values hrange).1 hnan

end Solution

namespace Adapter

/-- The objective of a solution is no number if the solution is not feasible, or if its terms leave
none for a product of vectors. While the sums stay in the range nothing else makes it no number, and
so with finite coefficients only a failure does. -/
theorem isNaN_objective_solve_iff [Fused α] [DirectedScalar α] (a : Adapter α)
    (hinner : a.inner.Accumulates) (m : Model α) (hm : m.Reachable) {f : DenseForm α}
    (hform : m.denseForm = .ok f) {s : Solution α} (hs : (a.solve m).answer = .ok s) :
    (s.feasible = false ∨ Indefinite (s.terms f) → Scalar.isNaN s.objective = true) ∧
    (InRange (s.terms f) →
      (Scalar.isNaN s.objective = true ↔ s.feasible = false ∨ Indefinite (s.terms f))) ∧
    (InRange (s.terms f) → (∀ c ∈ f.objective, Scalar.isFinite c = true) →
      (Scalar.isNaN s.objective = true ↔ s.feasible = false)) := by
  have hl := Model.lowers_of_denseForm hform
  have hwell := wellFormed_solve a m hm hform hs
  have hleft : s.feasible = false ∨ Indefinite (s.terms f) → Scalar.isNaN s.objective = true := by
    rintro (hfeasible | hi)
    · exact (hwell.unsolved hfeasible).2
    · exact hwell.isNaN_of_indefinite hl hinner hi
  have hiff : InRange (s.terms f) →
      (Scalar.isNaN s.objective = true ↔ s.feasible = false ∨ Indefinite (s.terms f)) := by
    intro hrange
    refine ⟨fun hnan => ?_, hleft⟩
    cases hfeasible : s.feasible with
    | false => exact .inl rfl
    | true => exact .inr (hwell.indefinite_of_isNaN hl hinner hrange hfeasible hnan)
  refine ⟨hleft, hiff, fun hrange hcoefficients => ?_⟩
  have hdefinite : ¬ Indefinite (s.terms f) :=
    Accumulation.not_indefinite_of_isFinite fun p hp => hcoefficients _ (List.of_mem_zip hp).1
  rw [hiff hrange, or_iff_left hdefinite]

/-- A model whose goal has no bound on its coefficient. -/
def boundless : Model Float :=
  Model.run { name := "boundless" }
    [.addVariable "x" (.int 0) (.real Scalar.infinity),
      .setObjective (.ofList [("x", .real Scalar.infinity)]) (.text "max")]

def boundlessForm : DenseForm Float where
  variableNames := ["x"]
  objective := [Scalar.infinity]
  lower := [0]
  upper := [Scalar.infinity]
  rows := []
  relations := []
  rhs := []
  maximize := true
  constraintNames := []

theorem reachable_boundless : boundless.Reachable :=
  ⟨"boundless", .null, _, rfl⟩

theorem denseForm_boundless : boundless.denseForm = .ok boundlessForm := by
  rfl

/-- A custom backend that claims an optimum at zero, over any product of vectors. -/
def idle (inner : InnerProduct Float) : Adapter Float :=
  ⟨"stub", .custom "StubSolver" fun _ => .ok ⟨some [.real 0], .optimal⟩, 10000, inner⟩

theorem answer_idle_boundless (inner : InnerProduct Float) :
    ((idle inner).solve boundless).answer = .ok ((idle inner).solutionAt boundlessForm [0]) := by
  rfl

theorem indefinite_boundless : Indefinite [((Scalar.infinity : Float), (0 : Float))] :=
  .erased Scalar.infinity 0 List.mem_cons_self (by decide) (by decide)

/-- The solution is feasible, its value is finite, and yet no library has a number for the product
of infinity with zero. -/
theorem isNaN_objective_solve_boundless :
    boundless.Reachable ∧ boundless.denseForm = .ok boundlessForm ∧
    ∀ inner : InnerProduct Float, inner.Accumulates →
      ∃ s, ((idle inner).solve boundless).answer = .ok s ∧ s.feasible = true ∧
        s.values.entries = [("x", 0)] ∧ Scalar.isNaN s.objective = true :=
  ⟨reachable_boundless, denseForm_boundless, fun inner hinner =>
    ⟨_, answer_idle_boundless inner, rfl, rfl,
      hinner.isNaN_of_indefinite rfl (by decide) indefinite_boundless⟩⟩

/-- The exact engine's solution of the sample is in the range, as every exact one is. -/
theorem isNaN_objective_solve_iff_boundless_sample :
    (∃ s, ((idle Binary64.fusedProduct).solve boundless).answer = .ok s ∧
      Indefinite (s.terms boundlessForm) ∧ Scalar.isNaN s.objective = true) ∧
    ∃ s, (exactInequality.solve Model.sample).answer = .ok s ∧ InRange (s.terms DenseForm.sample) ∧
      (Scalar.isNaN s.objective = true ↔ s.feasible = false) := by
  constructor
  · obtain ⟨hnan, -⟩ := isNaN_objective_solve_iff _ Binary64.accumulates_fusedProduct boundless
      reachable_boundless denseForm_boundless (answer_idle_boundless _)
    exact ⟨_, answer_idle_boundless _, indefinite_boundless, hnan (.inr indefinite_boundless)⟩
  · have hs : (exactInequality.solve Model.sample).answer =
        .ok (exactInequality.solutionAt DenseForm.sample (Exact.vector [2, 2, -5])) := by
      rw [(solve_eq Model.denseForm_sample).2.1, if_neg (by decide)]
      exact solveForm_of_reaches (attemptInequality_reaches inequality_sample ⟨rfl, rfl, rfl⟩) rfl
    have hrange : InRange ((exactInequality.solutionAt DenseForm.sample
        (Exact.vector [2, 2, -5])).terms DenseForm.sample) :=
      Exact.inRange (by decide)
    obtain ⟨-, -, hnumber⟩ := isNaN_objective_solve_iff exactInequality accumulates_dot Model.sample
      Model.reachable_sample Model.denseForm_sample hs
    exact ⟨_, hs, hrange, hnumber hrange (by decide)⟩

end Adapter

end LinearDispatch
