-- SUMMARY: How a solve of a lowered model can end: without an optimum, with the solution at a point that was read back, or with an entry that cannot be read.
import LinearDispatch.Proofs.Adapter.Attempt
import LinearDispatch.Proofs.Except

/-!
# The ends of a solve

A backend may raise, report any status and hand over a point of any length with
any entries. All of it comes to one of three ends. Without an optimum there is
a solution without values, whose status is never that of an optimum; with one
there is the solution at the point that was read back, in which every variable
has a finite value. A form without variables ends in the same two ways. The
third end is no solution: a whole number that is out of range is the one entry
that reading a point does not replace by zero.
-/
namespace LinearDispatch

variable {α : Type} [Scalar α]

/-! ## Points read back -/

/-- A whole number that no scalar stands for. -/
def Literal.OutOfRange (v : Literal α) : Prop :=
  ∃ n : Int, v = .int n ∧ (Scalar.ofInt? n : Option α) = none

/-- Conversion fails for the size of a number exactly where the number is out of range. -/
theorem Literal.toScalar_eq_tooLarge_iff {v : Literal α} :
    v.toScalar = .error .tooLarge ↔ v.OutOfRange := by
  cases v with
  | int n =>
    cases hn : (Scalar.ofInt? n : Option α) with
    | none => simp [toScalar, OutOfRange, hn]
    | some x => simp [toScalar, OutOfRange, hn]
  | text s => cases hs : Numeral.read? s <;> simp [toScalar, OutOfRange, hs]
  | _ => simp [toScalar, OutOfRange]

theorem Literal.finiteOrZero_eq_error_iff {v : Literal α} {e : ConversionError} :
    v.finiteOrZero = .error e ↔ e = .tooLarge ∧ v.OutOfRange := by
  rw [← toScalar_eq_tooLarge_iff, finiteOrZero]
  cases hv : v.toScalar with
  | ok x => simp
  | error fault => cases fault <;> simp [eq_comm]

theorem Literal.isFinite_of_finiteOrZero [LawfulScalar α] {v : Literal α} {x : α}
    (h : v.finiteOrZero = .ok x) : Scalar.isFinite x = true := by
  rw [finiteOrZero] at h
  split at h
  · next y hy =>
    cases h
    split
    · next hfinite => exact hfinite
    · exact LawfulScalar.isFinite_zero
  · cases h
  · cases h
    exact LawfulScalar.isFinite_zero

theorem finiteEntries_eq_error_iff {vs : List (Literal α)} {e : ConversionError} :
    finiteEntries vs = .error e ↔ e = .tooLarge ∧ ∃ v ∈ vs, v.OutOfRange := by
  induction vs with
  | nil => simp [finiteEntries]
  | cons v vs ih =>
    rw [finiteEntries, List.exists_mem_cons_iff]
    cases hv : v.finiteOrZero with
    | error fault =>
      obtain ⟨rfl, hrange⟩ := Literal.finiteOrZero_eq_error_iff.1 hv
      simp [hrange, eq_comm]
    | ok x =>
      have hrange : ¬ v.OutOfRange := by
        intro h
        rw [Literal.finiteOrZero_eq_error_iff.2 ⟨rfl, h⟩] at hv
        cases hv
      simp only [map_eq_error_iff, ih, hrange, false_or]

theorem finiteEntries_eq_ok [LawfulScalar α] {vs : List (Literal α)} {xs : List α}
    (h : finiteEntries vs = .ok xs) :
    xs.length = vs.length ∧ ∀ x ∈ xs, Scalar.isFinite x = true := by
  induction vs generalizing xs with
  | nil =>
    cases h
    simp
  | cons v vs ih =>
    rw [finiteEntries] at h
    split at h
    · cases h
    · next x hv =>
      obtain ⟨ys, hrest, rfl⟩ := map_eq_ok_iff.1 h
      obtain ⟨hlength, hfinite⟩ := ih hrest
      exact ⟨by simp [hlength],
        List.forall_mem_cons.2 ⟨Literal.isFinite_of_finiteOrZero hv, hfinite⟩⟩

/-- Only the entries that are for a variable are looked at, and only one out of range is refused. -/
theorem readPoint_eq_error_iff {n : Nat} {point : Option (List (Literal α))}
    {e : ConversionError} :
    readPoint n point = .error e ↔
      e = .tooLarge ∧ ∃ v ∈ (point.getD []).take n, v.OutOfRange := by
  rw [readPoint, map_eq_error_iff, finiteEntries_eq_error_iff]

/-- A point that is read back has a finite value for every variable. -/
theorem readPoint_eq_ok [LawfulScalar α] {n : Nat} {point : Option (List (Literal α))}
    {xs : List α} (h : readPoint n point = .ok xs) :
    xs.length = n ∧ ∀ x ∈ xs, Scalar.isFinite x = true := by
  obtain ⟨ys, hentries, rfl⟩ := map_eq_ok_iff.1 h
  obtain ⟨hlength, hfinite⟩ := finiteEntries_eq_ok hentries
  have hle : ys.length ≤ n := by
    rw [hlength]
    exact List.length_take_le ..
  refine ⟨by simp [hle], List.forall_mem_append.2 ⟨hfinite, fun x hx => ?_⟩⟩
  rw [List.eq_of_mem_replicate hx]
  exact LawfulScalar.isFinite_zero

/-! ## Statuses -/

namespace Status

/-- The statuses that the library itself reports. -/
def own : List Status :=
  [optimal, infeasible, unbounded, iterationLimit, error]

theorem ofMessage_mem_own (success : Bool) (message : Option String) :
    ofMessage success message ∈ own := by
  simp only [ofMessage]
  split_ifs <;> simp [own]

omit [Scalar α] in
theorem ofInequality_mem_own (r : InequalityReport α) : ofInequality r ∈ own := by
  have hmessage := ofMessage_mem_own r.success r.message
  grind [ofInequality, own]

omit [Scalar α] in
theorem ofBounded_mem_own (r : BoundedReport α) : ofBounded r ∈ own := by
  grind [ofBounded, own]

end Status

namespace Adapter

variable {a : Adapter α} {m : Model α} {f : DenseForm α}

/-! ## Attempts of engines -/

/-- The answer has one of the library's own statuses, and a point of numbers if any. -/
def OfEngine (answer : Answer α) : Prop :=
  answer.status ∈ Status.own ∧ ∀ v ∈ answer.point.getD [], ∃ x, v = .real x

theorem ofEngine_attemptInequality {engine : InequalityEngine α} {method : String} {n : Int}
    {answer : Answer α} (h : (attemptInequality engine method n f).result = .ok answer) :
    OfEngine answer := by
  simp only [attemptInequality] at h
  split at h
  · cases h
  · next r hr =>
    cases h
    refine ⟨Status.ofInequality_mem_own r, ?_⟩
    cases r.point <;> simp

theorem ofEngine_attemptBounded {library : Library α} {engine : BoundedEngine α}
    {limit : Literal α} {n : Int} {answer : Answer α}
    (h : (attemptBounded library engine limit n f).result = .ok answer) : OfEngine answer := by
  have hcompleted : ∀ seen values, ∀ v ∈ BoundedProgram.completePoint seen f values,
      ∃ x, v = .real x := by
    intro seen values v hv
    obtain ⟨b, -, rfl⟩ := List.mem_map.1 hv
    exact ⟨_, rfl⟩
  rw [attemptBounded] at h
  split at h
  · cases h
    exact ⟨by simp [Status.own], by simp⟩
  · cases h
  · dsimp only at h
    split at h
    · cases h
      exact ⟨by simp [Status.own], hcompleted _ []⟩
    · split at h
      · cases h
      · next r hr =>
        cases h
        refine ⟨Status.ofBounded_mem_own r, ?_⟩
        dsimp only
        split
        · exact hcompleted _ r.values
        · simp

theorem ofEngine_attempt (ha : a.backend.AsksEngine) {answer : Answer α}
    (h : (a.attempt f).result = .ok answer) : OfEngine answer := by
  rw [attempt] at h
  cases hbackend : a.backend with
  | inequality engine method =>
    rw [hbackend] at h
    exact ofEngine_attemptInequality h
  | bounded engine limit =>
    rw [hbackend] at h
    exact ofEngine_attemptBounded h
  | custom kind answer => simp [hbackend, Backend.AsksEngine] at ha

/-! ## Exits -/

/-- The backend claims an optimum of the form at a point with an entry out of range, among those
that are for a variable. -/
def Overflows (a : Adapter α) (f : DenseForm α) : Prop :=
  ∃ answer, (a.attempt f).result = .ok answer ∧ answer.status = .optimal ∧
    ∃ v ∈ (answer.point.getD []).take f.variableNames.length, v.OutOfRange

/-- How a solve of a form can end. -/
inductive Exit (a : Adapter α) (f : DenseForm α) : Except (Error α) (Solution α) → Prop where
  | unsolved (status : Status) (noOptimum : status ≠ .optimal)
    (own : a.backend.AsksEngine → status ∈ Status.own) :
    Exit a f (.ok (.infeasible f.variableNames status a.name))
  | empty (names : f.variableNames = []) : Exit a f (.ok
    { values := .empty, objective := 0, feasible := true, status := .optimal, backend := a.name })
  | solved (names : f.variableNames ≠ []) (point : Option (List (Literal α))) (values : List α)
    (read : readPoint f.variableNames.length point = .ok values) :
    Exit a f (.ok (a.solutionAt f values))
  | unreadable (overflow : a.Overflows f) : Exit a f (.error (.notNumber .tooLarge))

theorem exit_solveForm (hnames : f.variableNames ≠ []) (a : Adapter α) (model : String) :
    Exit a f (a.solveForm model f).1 := by
  rw [solveForm]
  split
  · exact .unsolved .error (by decide) fun _ => by simp [Status.own]
  · next answer hanswer =>
    split
    · next hstatus => exact .unsolved _ hstatus fun ha => (ofEngine_attempt ha hanswer).1
    · next hstatus =>
      rw [ne_eq, not_not] at hstatus
      split
      · next e hread =>
        obtain ⟨rfl, hrange⟩ := readPoint_eq_error_iff.1 hread
        exact .unreadable ⟨answer, hanswer, hstatus, hrange⟩
      · next values hread => exact .solved hnames answer.point values hread

/-- If a solve of a form with variables answers, the attempt alone settles whether the solution is
feasible. -/
theorem feasible_solveForm_iff {model : String} {s : Solution α}
    (hs : (a.solveForm model f).1 = .ok s) :
    s.feasible = true ↔ ¬ (a.attempt f).Fails := by
  by_cases hfails : (a.attempt f).Fails
  · obtain ⟨status, hstatus⟩ := solveForm_of_fails hfails
    cases hstatus.symm.trans hs
    simp [hfails, Solution.infeasible]
  · obtain ⟨answer, hanswer, hoptimal⟩ := Attempt.not_fails_iff.1 hfails
    simp only [solveForm, hanswer, hoptimal, ne_eq, not_true_eq_false, if_false] at hs
    split at hs
    · cases hs
    · cases hs
      simp [hfails, solutionAt]

theorem exit_solveTrivial (hnames : f.variableNames = []) (a : Adapter α) :
    Exit a f (.ok (a.solveTrivial f)) := by
  rw [solveTrivial]
  split
  · exact .empty hnames
  · have hexit : Exit a f (.ok (.infeasible f.variableNames .infeasible a.name)) :=
      .unsolved .infeasible (by decide) fun _ => by simp [Status.own]
    rwa [hnames] at hexit

/-- Every solve of a model that is lowered ends in one of these ways. -/
theorem exit_solve (h : m.denseForm = .ok f) (a : Adapter α) : Exit a f (a.solve m).answer := by
  rw [(solve_eq h).2.1]
  split
  · next hnames => exact exit_solveTrivial hnames a
  · next hnames => exact exit_solveForm hnames a m.name

/-- A number out of range does end the solve. -/
theorem answer_solve_of_overflows (h : m.denseForm = .ok f) (hoverflow : a.Overflows f) :
    (a.solve m).answer = .error (.notNumber .tooLarge) := by
  obtain ⟨answer, hanswer, hstatus, hrange⟩ := hoverflow
  have hnames : f.variableNames ≠ [] := by
    intro hnames
    simp [hnames] at hrange
  have hread : readPoint f.variableNames.length answer.point = .error .tooLarge :=
    readPoint_eq_error_iff.2 ⟨rfl, hrange⟩
  rw [(solve_eq h).2.1, if_neg hnames, solveForm, hanswer]
  simp [hstatus, hread]

/-- The points of engines have numbers for entries, none of them out of range. -/
theorem not_overflows_of_asksEngine (ha : a.backend.AsksEngine) : ¬ a.Overflows f := by
  rintro ⟨answer, hanswer, -, v, hv, n, rfl, -⟩
  obtain ⟨x, hx⟩ := (ofEngine_attempt ha hanswer).2 _ (List.mem_of_mem_take hv)
  cases hx

end Adapter

end LinearDispatch
