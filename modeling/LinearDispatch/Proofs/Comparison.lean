-- SUMMARY: Comparing the built-in backends: they agree exactly on objectives that are numbers, and equal or finite and close, so never where one of them found no optimum.
import LinearDispatch.Comparison
import LinearDispatch.Proofs.Adapter.Answer
import LinearDispatch.Proofs.Model.Interleaving
import LinearDispatch.Proofs.Registry.History
import LinearDispatch.Proofs.Signed

/-!
# Agreement of the built-in backends

The verdict of a comparison looks at the objectives alone. It can be trusted
because a solve that ends without an optimum, for whatever cause, has no number
for an objective, and because what is no number is close to nothing, itself
included. So one backend that found nothing is enough for disagreement, also if
all of them found nothing in the same way.
-/
namespace LinearDispatch

variable {α : Type} [Scalar α]

/-! ## Close numbers -/

/-- Scalars whose numbers equal themselves. -/
class ReflexiveScalar (α : Type) [Scalar α] : Prop extends OrderedScalar α where
  eq_self {x : α} : Scalar.isNaN x = false → Scalar.eq x x = true

instance : ReflexiveScalar Exact where
  eq_self {x} h := by
    cases x with
    | finite q => simp
    | infinite s => cases s <;> rfl
    | notANumber => cases h

instance : ReflexiveScalar Float where
  eq_self {x} h := by
    have hnumber : x.toModel.unpack ≠ .notANumber := by
      intro hnan
      have hyes : Scalar.isNaN x = true := congrArg Float.Model.UnpackedFloat.isNaN hnan
      rw [hyes] at h
      cases h
    rw [Binary64.eq_eq]
    exact (Float.Model.UnpackedFloat.beq_iff_ne_notANumber_and_eq _ _).2
      ⟨hnumber, hnumber, .inl rfl⟩

namespace Scalar

/-- Two numbers that are equal, or finite and at most the tolerance apart. -/
structure Close (t x y : α) : Prop where
  left : isNaN x = false
  right : isNaN y = false
  near : eq x y = true ∨ isFinite x = true ∧ isFinite y = true ∧ le (abs (y - x)) t = true

theorem isClose_of_isNaN_right [OrderedScalar α] {t x y : α} (h : isNaN y = true) :
    isClose t x y = false := by
  have hdistance : le (abs (y - x)) t = false :=
    OrderedScalar.le_of_isNaN (.inl (isNaN_abs (OrderedScalar.isNaN_sub (.inl h))))
  simp [isClose, OrderedScalar.eq_of_isNaN (.inr h), hdistance]

theorem isClose_iff [OrderedScalar α] {t x y : α} : isClose t x y = true ↔ Close t x y := by
  constructor
  · intro h
    have hx : isNaN x = false := by
      by_contra hnan
      rw [isClose_of_isNaN (by simpa using hnan)] at h
      cases h
    have hy : isNaN y = false := by
      by_contra hnan
      rw [isClose_of_isNaN_right (by simpa using hnan)] at h
      cases h
    refine ⟨hx, hy, ?_⟩
    rw [isClose] at h
    split at h
    · next heq => exact .inl heq
    · split at h
      · cases h
      · next hfinite =>
        simp only [isInfinite, hx, hy] at hfinite
        exact .inr ⟨by simp_all, by simp_all, h⟩
  · rintro ⟨-, -, heq | ⟨hx, hy, hle⟩⟩
    · simp [isClose, heq]
    · simp [isClose, isInfinite, hx, hy, hle]

/-- A number is close to itself, an infinite one included, whatever the tolerance. -/
theorem close_self [ReflexiveScalar α] {t x : α} (h : isNaN x = false) : Close t x x :=
  ⟨h, h, .inl (ReflexiveScalar.eq_self h)⟩

end Scalar

open Scalar (Close)

/-- All numbers are close to the first exactly if each of the others is. -/
theorem Comparison.allClose_cons_iff [ReflexiveScalar α] {x : α} {rest : List α} :
    allClose (x :: rest) = true ↔
      Scalar.isNaN x = false ∧ ∀ y ∈ rest, Close Scalar.millionth y x := by
  have hself : Scalar.isClose Scalar.millionth x x = true ↔ Scalar.isNaN x = false :=
    Scalar.isClose_iff.trans ⟨Close.left, Scalar.close_self⟩
  simp [allClose, hself, Scalar.isClose_iff]

/-! ## Backends that find nothing -/

theorem Model.denseForm_built {m : Model α} {f : DenseForm α} (h : m.denseForm = .ok f) :
    ({ m with built := true } : Model α).denseForm = .ok f := by
  refine denseForm_of_parts ?_ ?_ ?_ h
  · rfl
  · rfl
  · rfl

namespace Adapter

variable {a : Adapter α} {m : Model α} {f : DenseForm α} {s : Solution α}

/-- The adapter finds no optimum of the form: the attempt of its backend fails or, where there is no
variable to attempt anything with, a constant row. -/
def FindsNothing (a : Adapter α) (f : DenseForm α) : Prop :=
  if f.variableNames = [] then ∃ e ∈ f.constantRows, e.2 = false else (a.attempt f).Fails

/-- A solution is feasible exactly if an optimum was found. -/
theorem feasible_iff_not_findsNothing (hform : m.denseForm = .ok f)
    (hs : (a.solve m).answer = .ok s) : s.feasible = true ↔ ¬ a.FindsNothing f := by
  rw [(solve_eq hform).2.1] at hs
  rw [FindsNothing]
  split at hs
  · next hnames =>
    cases hs
    rw [if_pos hnames, solveTrivial]
    split
    · next hall => simpa using hall
    · next hall => simpa [Solution.infeasible] using hall
  · next hnames =>
    rw [if_neg hnames]
    exact feasible_solveForm_iff hs

/-- A solve that returns has found an optimum, or has no number for an objective. -/
theorem optimal_or_isNaN [LawfulScalar α] (hform : m.denseForm = .ok f)
    (hs : (a.solve m).answer = .ok s) :
    s.feasible = true ∧ s.status = .optimal ∨
      s.feasible = false ∧ Scalar.isNaN s.objective = true := by
  have hexit := exit_solve hform a
  rw [hs] at hexit
  cases hexit with
  | unsolved => exact .inr ⟨rfl, LawfulScalar.isNaN_notANumber⟩
  | empty => exact .inl ⟨rfl, rfl⟩
  | solved => exact .inl ⟨rfl, rfl⟩

/-- Solves do not look at the built mark. -/
theorem answer_solve_built (hform : m.denseForm = .ok f) :
    (a.solve { m with built := true }).answer = (a.solve m).answer := by
  rw [(solve_eq hform).2.1, (solve_eq (Model.denseForm_built hform)).2.1]

end Adapter

/-! ## Comparisons -/

namespace Comparison

variable {r : Registry (Factory α)} {m : Model α} {f : DenseForm α}

theorem solveWith_of_create {name : String} {a : Adapter α} (h : r.create (.text name) = .ok a) :
    solveWith r m name = a.solve m := by
  unfold solveWith
  simp only [h]

theorem answer_solveWith_eq_ok_iff {name : String} {s : Solution α} :
    (solveWith r m name).answer = .ok s ↔
      ∃ a, r.create (.text name) = .ok a ∧ (a.solve m).answer = .ok s := by
  unfold solveWith
  split
  · next e he => simp [he, Outcome.fail]
  · next a ha => simp [ha]

theorem state_solveWith (hform : m.denseForm = .ok f) {name : String} {s : Solution α}
    (h : (solveWith r m name).answer = .ok s) :
    (solveWith r m name).state = { m with built := true } := by
  obtain ⟨a, ha, -⟩ := answer_solveWith_eq_ok_iff.1 h
  rw [solveWith_of_create ha]
  exact (Adapter.solve_eq hform).1

/-- A backend that is asked later answers as it would by itself. -/
theorem answer_solveWith_built (hform : m.denseForm = .ok f) {name : String} {s : Solution α} :
    (solveWith r { m with built := true } name).answer = .ok s ↔
      (solveWith r m name).answer = .ok s := by
  simp only [answer_solveWith_eq_ok_iff, Adapter.answer_solve_built hform]

/-- Backends that are asked one after the other answer as each would by itself. -/
theorem answer_solveEach_iff (hform : m.denseForm = .ok f) {names : List String}
    {solutions : List (String × Solution α)} :
    (solveEach r names m).answer = .ok solutions ↔
      List.Forall₂ (fun name e => e.1 = name ∧ (solveWith r m name).answer = .ok e.2)
        names solutions := by
  induction names generalizing m solutions with
  | nil => simp [solveEach, Outcome.pure, eq_comm]
  | cons name names ih =>
    rw [solveEach, Outcome.answer_andThen_eq_ok_iff, List.forall₂_cons_left_iff]
    constructor
    · rintro ⟨s, hs, hmapped⟩
      obtain ⟨rest, hrest, rfl⟩ := map_eq_ok_iff.1 hmapped
      rw [state_solveWith hform hs, ih (Model.denseForm_built hform)] at hrest
      simp only [answer_solveWith_built hform] at hrest
      exact ⟨(name, s), rest, ⟨rfl, hs⟩, hrest, rfl⟩
    · rintro ⟨⟨_, s⟩, rest, ⟨rfl, hs⟩, hrest, rfl⟩
      refine ⟨s, hs, map_eq_ok_iff.2 ⟨rest, ?_, rfl⟩⟩
      rw [state_solveWith hform hs, ih (Model.denseForm_built hform)]
      simpa only [answer_solveWith_built hform] using hrest

theorem answer_run_iff {c : Comparison α} :
    (run r m).answer = .ok c ↔ (solveEach r builtinNames m).answer = .ok c.solutions ∧
      c.agree = allClose (c.solutions.map fun e => e.2.objective) := by
  obtain ⟨solutions, agree⟩ := c
  simp only [run, Outcome.answer_andThen_eq_ok_iff, objectives, List.map_map, Except.ok.injEq,
    mk.injEq]
  constructor
  · rintro ⟨_, hsolutions, rfl, rfl⟩
    exact ⟨hsolutions, rfl⟩
  · rintro ⟨hsolutions, rfl⟩
    exact ⟨_, hsolutions, rfl, rfl⟩

/-- If the built-in backends both answer, whatever is registered for them, they agree exactly where
both objectives are numbers, and equal or finite and at most a millionth apart. So both solutions are
feasible then, and one backend that finds no optimum is enough for disagreement. -/
theorem agree_run_iff [ReflexiveScalar α] (r : Registry (Factory α)) (m : Model α)
    (hform : m.denseForm = .ok f) {a b : Adapter α}
    (ha : r.create (.text Adapter.inequalityName) = .ok a)
    (hb : r.create (.text Adapter.boundedName) = .ok b) {s t : Solution α}
    (hs : (a.solve m).answer = .ok s) (ht : (b.solve m).answer = .ok t) :
    ∃ c, (run r m).answer = .ok c ∧
      c.solutions = [(Adapter.inequalityName, s), (Adapter.boundedName, t)] ∧
      (c.agree = true ↔ Close Scalar.millionth t.objective s.objective) ∧
      (c.agree = true → ∀ u ∈ [s, t], u.feasible = true ∧ u.status = .optimal) ∧
      (a.FindsNothing f ∨ b.FindsNothing f → c.agree = false) := by
  have hsolutions : (solveEach r builtinNames m).answer =
      .ok [(Adapter.inequalityName, s), (Adapter.boundedName, t)] :=
    (answer_solveEach_iff hform).2
      (.cons ⟨rfl, answer_solveWith_eq_ok_iff.2 ⟨a, ha, hs⟩⟩
        (.cons ⟨rfl, answer_solveWith_eq_ok_iff.2 ⟨b, hb, ht⟩⟩ .nil))
  have hagree : allClose [s.objective, t.objective] = true ↔
      Close Scalar.millionth t.objective s.objective := by
    rw [allClose_cons_iff, List.forall_mem_singleton]
    exact and_iff_right_of_imp Close.right
  have hoptimal : allClose [s.objective, t.objective] = true →
      ∀ u ∈ [s, t], u.feasible = true ∧ u.status = .optimal := by
    intro h
    have hclose := hagree.1 h
    rw [List.forall_mem_cons, List.forall_mem_singleton]
    refine ⟨(Adapter.optimal_or_isNaN hform hs).resolve_right fun hnone => ?_,
      (Adapter.optimal_or_isNaN hform ht).resolve_right fun hnone => ?_⟩
    · cases hclose.right.symm.trans hnone.2
    · cases hclose.left.symm.trans hnone.2
  refine ⟨⟨_, _⟩, answer_run_iff.2 ⟨hsolutions, rfl⟩, rfl, hagree, hoptimal, fun hnothing => ?_⟩
  rw [Bool.eq_false_iff]
  intro h
  rcases hnothing with hnothing | hnothing
  · have hfeasible := (hoptimal h s (by simp)).1
    exact (Adapter.feasible_iff_not_findsNothing hform hs).1 hfeasible hnothing
  · have hfeasible := (hoptimal h t (by simp)).1
    exact (Adapter.feasible_iff_not_findsNothing hform ht).1 hfeasible hnothing

/-- A registry of two adapters under the built-in names. -/
def paired (a b : Adapter α) : Registry (Factory α) :=
  ⟨.ofList [(Adapter.inequalityName, .ok a), (Adapter.boundedName, .ok b)]⟩

omit [Scalar α] in
theorem create_paired (a b : Adapter α) :
    (paired a b).create (.text Adapter.inequalityName) = .ok a ∧
      (paired a b).create (.text Adapter.boundedName) = .ok b := by
  have hkeys : (Label.text Adapter.inequalityName).key? = some Adapter.inequalityName ∧
      (Label.text Adapter.boundedName).key? = some Adapter.boundedName := by
    decide +kernel
  constructor
  · refine Registry.create_of_find? (f := .ok a) ?_
    rw [Registry.find?, hkeys.1]
    rfl
  · refine Registry.create_of_find? (f := .ok b) ?_
    rw [Registry.find?, hkeys.2]
    rfl

/-- A custom backend that ends a ten-millionth away from the lower bound of the first variable. -/
def nearby : Adapter Float :=
  ⟨"stub", .custom "StubSolver" fun _ => .ok ⟨some [.text "1e-7", .int 3], .optimal⟩, 10000,
    Scalar.dot⟩

/-- A custom backend that raises. -/
def raising : Adapter Float :=
  ⟨"stub", .custom "StubSolver" fun _ => .error "no engine", 10000, Scalar.dot⟩

theorem answer_nearby_rounded : (nearby.solve Adapter.rounded).answer =
    .ok (nearby.solutionAt Adapter.roundedForm
      [Scalar.ofRat (1 / 10000000), Scalar.ofRat 3]) := by
  have hread : readPoint 2 (some [Literal.text "1e-7", Literal.int 3])
      = .ok [(Scalar.ofRat (1 / 10000000) : Float), Scalar.ofRat 3] := by
    decide +kernel
  rw [(Adapter.solve_eq Adapter.denseForm_rounded).2.1, if_neg (by decide)]
  simp [Adapter.solveForm, Adapter.attempt, nearby, Adapter.roundedForm, hread]

/-- Objectives that are close without being equal agree, and backends that fail alike do not. -/
theorem agree_run_iff_nearby_raising :
    Adapter.rounded.denseForm = .ok Adapter.roundedForm ∧
    (∃ c, (run (paired Adapter.careless nearby) Adapter.rounded).answer = .ok c ∧
      c.agree = true) ∧
    raising.FindsNothing Adapter.roundedForm ∧
    ∃ c, (run (paired raising raising) Adapter.rounded).answer = .ok c ∧ c.agree = false := by
  have hform := Adapter.denseForm_rounded
  have hfails : raising.FindsNothing Adapter.roundedForm := by
    rw [Adapter.FindsNothing, if_neg (by decide)]
    exact nofun
  refine ⟨hform, ?_, hfails, ?_⟩
  · obtain ⟨hcareless, hnearby⟩ := create_paired Adapter.careless nearby
    have hs : (Adapter.careless.solve Adapter.rounded).answer =
        .ok (Adapter.careless.solutionAt Adapter.roundedForm [0, Scalar.ofRat 3]) := by
      rfl
    obtain ⟨c, hc, -, hagree, -⟩ :=
      agree_run_iff _ Adapter.rounded hform hcareless hnearby hs answer_nearby_rounded
    exact ⟨c, hc, hagree.2 ⟨by decide +kernel, by decide +kernel, .inr (by decide +kernel)⟩⟩
  · obtain ⟨hfirst, hsecond⟩ := create_paired raising raising
    have hs : (raising.solve Adapter.rounded).answer =
        .ok (.infeasible Adapter.roundedForm.variableNames .error "stub") := by
      rfl
    obtain ⟨c, hc, -, -, -, hdisagree⟩ :=
      agree_run_iff _ Adapter.rounded hform hfirst hsecond hs hs
    exact ⟨c, hc, hdisagree (.inl hfails)⟩

end Comparison

end LinearDispatch
