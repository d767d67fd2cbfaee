-- SUMMARY: What a solve answers with: a solution that is well-formed whatever the backend did, or one of two errors, whose causes are given exactly.
import LinearDispatch.Number.Binary64
import LinearDispatch.Proofs.Adapter.Exits
import LinearDispatch.Proofs.Model.DenseForm

/-!
# The answer of a solve

A solution has the same shape whichever way the solve ended and whatever the
backend claimed: the names of the model in their order, finite values, zeros
and no objective where nothing was found, and otherwise the objective of its
own values. No solution is answered for a name that was never declared, which
is the caller's fault, and for a whole number out of range in the point of a
custom backend, which is not.
-/
namespace LinearDispatch

variable {α : Type} [Scalar α] {m : Model α} {f : DenseForm α}

/-! ## Solutions -/

/-- A solution for the model, whose form is given, from the adapter. -/
structure Solution.WellFormed (s : Solution α) (a : Adapter α) (m : Model α) (f : DenseForm α) :
    Prop where
  keys : s.values.keys = m.variableNames
  distinct : s.values.keys.Nodup
  finite : ∀ e ∈ s.values.entries, Scalar.isFinite e.2 = true
  backend : s.backend = a.name
  feasible_iff : s.feasible = true ↔ s.status = .optimal
  unsolved : s.feasible = false →
    (∀ e ∈ s.values.entries, e.2 = 0) ∧ Scalar.isNaN s.objective = true
  solved : s.feasible = true → s.objective =
    if f.variableNames = [] then 0 else a.inner f.objective (s.values.entries.map Prod.snd)
  own : a.backend.AsksEngine → s.status ∈ Status.own

namespace Adapter

variable {a : Adapter α}

/-- A solution without values has a zero for every name. -/
theorem wellFormed_infeasible [LawfulScalar α] (hnames : m.variableNames.Nodup) {status : Status}
    (hstatus : status ≠ .optimal) (hown : a.backend.AsksEngine → status ∈ Status.own) :
    (Solution.infeasible m.variableNames status a.name).WellFormed a m f := by
  have hkeys : ((m.variableNames.map fun name => (name, (0 : α))).map Prod.fst) =
      m.variableNames := by
    simp [Function.comp_def]
  have hentries : (Solution.infeasible m.variableNames status a.name : Solution α).values.entries =
      m.variableNames.map fun name => (name, (0 : α)) :=
    Table.entries_ofList (by rwa [hkeys])
  have hzero : ∀ e ∈ (Solution.infeasible m.variableNames status a.name).values.entries,
      e.2 = (0 : α) := by
    intro e he
    rw [hentries] at he
    obtain ⟨name, -, rfl⟩ := List.mem_map.1 he
    rfl
  refine {
    keys := by rw [Table.keys, hentries, hkeys]
    distinct := Table.distinct _
    finite := ?_
    backend := rfl
    feasible_iff := ?_
    unsolved := fun _ => ⟨hzero, LawfulScalar.isNaN_notANumber⟩
    solved := ?_
    own := hown }
  · intro e he
    rw [hzero e he]
    exact LawfulScalar.isFinite_zero
  · constructor
    · intro h
      cases h
    · intro h
      exact absurd h hstatus
  · intro h
    cases h

/-- Without variables the only point is the empty one, and its objective is not computed. -/
theorem wellFormed_empty (hform : f.variableNames = m.variableNames) (hnone : f.variableNames = []) :
    Solution.WellFormed (α := α)
      { values := .empty, objective := 0, feasible := true, status := .optimal, backend := a.name }
      a m f where
  keys := hnone.symm.trans hform
  distinct := Table.distinct _
  finite := nofun
  backend := rfl
  feasible_iff := ⟨fun _ => rfl, fun _ => rfl⟩
  unsolved := nofun
  solved := fun _ => (if_pos hnone).symm
  own := fun _ => by simp [Status.own]

/-- The solution at finite values has them in the order of the names. -/
theorem wellFormed_solutionAt (hnames : m.variableNames.Nodup)
    (hform : f.variableNames = m.variableNames) (hsome : f.variableNames ≠ []) {values : List α}
    (hlength : values.length = m.variableNames.length)
    (hfinite : ∀ x ∈ values, Scalar.isFinite x = true) :
    (a.solutionAt f values).WellFormed a m f := by
  have hkeys : (List.zip m.variableNames values).map Prod.fst = m.variableNames :=
    List.map_fst_zip hlength.ge
  have hentries : (a.solutionAt f values).values.entries = List.zip m.variableNames values := by
    rw [solutionAt, hform]
    exact Table.entries_ofList (by rwa [hkeys])
  have hvalues : (a.solutionAt f values).values.entries.map Prod.snd = values := by
    rw [hentries]
    exact List.map_snd_zip hlength.le
  refine {
    keys := by rw [Table.keys, hentries, hkeys]
    distinct := Table.distinct _
    finite := ?_
    backend := rfl
    feasible_iff := ⟨fun _ => rfl, fun _ => rfl⟩
    unsolved := ?_
    solved := ?_
    own := fun _ => by simp [solutionAt, Status.own] }
  · intro e he
    rw [hentries] at he
    exact hfinite e.2 (List.of_mem_zip he).2
  · intro h
    cases h
  · intro _
    rw [hvalues, if_neg hsome]
    rfl

/-- Whatever an engine or a custom backend does, the solution that a solve answers with is
well-formed. -/
theorem wellFormed_solve [LawfulScalar α] (a : Adapter α) (m : Model α) (hm : m.Reachable)
    (hform : m.denseForm = .ok f) {s : Solution α} (hs : (a.solve m).answer = .ok s) :
    s.WellFormed a m f := by
  have hdistinct : m.variableNames.Nodup := hm.wellFormed.variableNames
  have hnames : f.variableNames = m.variableNames := (Model.lowers_of_denseForm hform).names
  have hexit := exit_solve hform a
  rw [hs] at hexit
  cases hexit with
  | unsolved status hstatus hown =>
    rw [hnames]
    exact wellFormed_infeasible hdistinct hstatus hown
  | empty hnone => exact wellFormed_empty hnames hnone
  | solved hsome point values hread =>
    obtain ⟨hlength, hfinite⟩ := readPoint_eq_ok hread
    exact wellFormed_solutionAt hdistinct hnames hsome (hnames ▸ hlength) hfinite

/-- A model in floating point. -/
def roundedCommands : List (Command Float) :=
  [.addVariable "x" (.int 0) (.int 4),
    .addVariable "y" (.int (-1)) (.real Scalar.infinity),
    .setObjective (.ofList [("y", .int 2), ("x", .int 1)]) (.text "max"),
    .addConstraint "sum" (.ofList [("x", .int 1), ("y", .int 1)]) (.text "<=") (.int 5)]

def rounded : Model Float :=
  Model.run { name := "rounded" } roundedCommands

def roundedForm : DenseForm Float where
  variableNames := ["x", "y"]
  objective := [1, Scalar.ofRat 2]
  lower := [0, -1]
  upper := [Scalar.ofRat 4, Scalar.infinity]
  rows := [[1, 1]]
  relations := [.atMost]
  rhs := [Scalar.ofRat 5]
  maximize := true
  constraintNames := ["sum"]

theorem reachable_rounded : rounded.Reachable :=
  ⟨"rounded", .null, roundedCommands, rfl⟩

theorem denseForm_rounded : rounded.denseForm = .ok roundedForm := by
  rfl

/-- An engine that claims an optimum at a point which is too long and starts with no number. -/
def careless : Adapter Float :=
  ⟨inequalityName, .inequality
    (fun _ _ _ => .ok ⟨0, true, none, some [Scalar.notANumber, Scalar.ofRat 3, Scalar.ofRat 9]⟩)
    defaultMethod, 10000, Scalar.dot⟩

/-- What is no number counts as zero, and what is beyond the last variable does not count. -/
theorem wellFormed_solve_careless :
    ∃ s, (careless.solve rounded).answer = .ok s ∧ s.feasible = true ∧
      s.values.entries = [("x", 0), ("y", Scalar.ofRat 3)] ∧ s.objective = Scalar.ofRat 6 ∧
      s.WellFormed careless rounded roundedForm := by
  have hs : (careless.solve rounded).answer =
      .ok ⟨⟨[("x", 0), ("y", Scalar.ofRat 3)], by decide⟩, Scalar.ofRat 6, true, .optimal,
        inequalityName⟩ := by
    rfl
  exact ⟨_, hs, rfl, rfl, rfl,
    wellFormed_solve careless rounded reachable_rounded denseForm_rounded hs⟩

/-! ## Errors -/

/-- The errors that a solve can end in, each with its exact cause: a name that the model mentions
and does not declare, or an optimum claimed at a point with a whole number out of range. -/
theorem answer_solve_eq_error_iff (a : Adapter α) (m : Model α) (e : Error α) :
    (a.solve m).answer = .error e ↔
      (∃ fault, m.denseForm = .error (.invalidModel fault) ∧ m.Undeclared fault ∧
        e = .invalidModel fault) ∨
      ∃ f, m.denseForm = .ok f ∧ a.Overflows f ∧ e = .notNumber .tooLarge := by
  cases hform : m.denseForm with
  | error e' =>
    obtain ⟨fault, rfl, hundeclared⟩ := Model.undeclared_of_denseForm hform
    have hanswer : (a.solve m).answer = .error (.invalidModel fault) := by
      simp [solve, Model.lower, Model.lowered, hform, Outcome.andThen, Outcome.fail]
    rw [hanswer]
    constructor
    · intro h
      cases h
      exact .inl ⟨fault, rfl, hundeclared, rfl⟩
    · rintro (⟨fault', h, -, rfl⟩ | ⟨f, h, -⟩)
      · cases h
        rfl
      · cases h
  | ok f =>
    constructor
    · intro h
      have hexit := exit_solve hform a
      rw [h] at hexit
      cases hexit with
      | unreadable hoverflow => exact .inr ⟨f, rfl, hoverflow, rfl⟩
    · rintro (⟨fault, h, -⟩ | ⟨f', h, hoverflow, rfl⟩)
      · cases h
      · cases h
        exact answer_solve_of_overflows hform hoverflow

/-- An engine's failure never reaches the caller: a model that is lowered gets a solution. -/
theorem exists_solution_of_asksEngine (ha : a.backend.AsksEngine) (hform : m.denseForm = .ok f) :
    ∃ s, (a.solve m).answer = .ok s := by
  have hexit := exit_solve hform a
  cases hanswer : (a.solve m).answer with
  | ok s => exact ⟨s, rfl⟩
  | error e =>
    rw [hanswer] at hexit
    cases hexit with
    | unreadable hoverflow => exact absurd hoverflow (not_overflows_of_asksEngine ha)

/-- A custom backend that claims an optimum far beyond every double. -/
def overflowing : Adapter Float :=
  ⟨"stub", .custom "StubSolver" fun _ => .ok ⟨some [.int (10 ^ 400)], .optimal⟩, 10000,
    Scalar.dot⟩

/-- The model is in order, and yet there is neither a solution nor a fault of the model. -/
theorem answer_solve_overflowing :
    rounded.Reachable ∧ rounded.denseForm = .ok roundedForm ∧
    (overflowing.solve rounded).answer = .error (.notNumber .tooLarge) ∧
    ¬ ((∃ s, (overflowing.solve rounded).answer = .ok s) ∨
      ∃ fault, (overflowing.solve rounded).answer = .error (.invalidModel fault)) := by
  have hrange : (Literal.int (10 ^ 400) : Literal Float).OutOfRange :=
    ⟨10 ^ 400, rfl, by decide +kernel⟩
  have hoverflow : overflowing.Overflows roundedForm :=
    ⟨_, rfl, rfl, _, List.mem_singleton_self _, hrange⟩
  have hanswer := answer_solve_of_overflows denseForm_rounded hoverflow
  refine ⟨reachable_rounded, denseForm_rounded, hanswer, ?_⟩
  rw [hanswer]
  rintro (⟨s, h⟩ | ⟨fault, h⟩)
  · cases h
  · cases h

end Adapter

end LinearDispatch
