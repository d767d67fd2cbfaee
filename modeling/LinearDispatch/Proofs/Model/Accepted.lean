-- SUMMARY: What the check guarantees of the values that it accepts, over all scalars: they lie within their bounds, but a variable that no expression mentions may have no number for a value.
import LinearDispatch.Proofs.Model.Mentions
import LinearDispatch.Proofs.Ordered

/-!
# Accepted values

The check reports a value that is below its lower bound or above its upper one,
and what is no number is neither. The constraints and the objective ask for a
comparison to hold, so a value that is no number is reported there, under any
coefficient, zero included. What is left is a variable without a coefficient
anywhere: nothing is ever said of a value of it that is no number. Every other
value that the check accepts, an infinite one too, lies within its bounds.
-/
namespace LinearDispatch

variable {α : Type} [Scalar α]

/-- The value lies between the bounds, up to the tolerance. -/
def Variable.Within (t : α) (v : Variable α) (x : α) : Prop :=
  Scalar.le (v.lower - t) x = true ∧ Scalar.le x (v.upper + t) = true

/-! ## Writing a value -/

theorem Solution.valueOf_insert {values : Table α} {name key : String} {x : α} :
    valueOf (values.insert name x) key = if key = name then x else valueOf values key := by
  rw [valueOf, valueOf, Table.get?_insert]
  split <;> rfl

namespace Model

variable {m : Model α} {s : Solution α} {t : α}

/-- An expression only looks at the names that it mentions. -/
theorem evaluate_insert {coefficients values : Table α} {name : String} {x : α}
    (h : name ∉ coefficients.keys) :
    evaluate coefficients (values.insert name x) = evaluate coefficients values := by
  refine congrArg Scalar.sum (List.map_congr_left fun e he => ?_)
  have hne : e.1 ≠ name := by
    rintro rfl
    exact h (List.mem_map.2 ⟨e, he, rfl⟩)
  have hvalue : Solution.valueOf (values.insert name x) e.1 = Solution.valueOf values e.1 := by
    rw [Solution.valueOf_insert, if_neg hne]
  exact congrArg (e.2 * ·) hvalue

/-! ## Parts of the check -/

omit [Scalar α] in
theorem missingNames_eq_nil_iff {values : Table α} :
    m.missingNames values = [] ↔ ∀ v ∈ m.vars, values.contains v.name = true := by
  simp [missingNames, variableNames]

theorem boundViolations_eq_nil_iff {v : Variable α} {values : Table α} :
    boundViolations v values t = [] ↔
      Scalar.lt (Solution.valueOf values v.name) (v.lower - t) = false ∧
        Scalar.lt (v.upper + t) (Solution.valueOf values v.name) = false := by
  simp [boundViolations]

theorem constraintViolations_eq_nil_iff {c : Constraint α} {values : Table α} :
    constraintViolations c values t = [] ↔
      c.relation.holds (evaluate c.coefficients values) c.rhs t = true := by
  simp [constraintViolations]

theorem objectiveViolations_eq_nil_iff :
    m.objectiveViolations s t = [] ↔
      Scalar.isClose t (m.objectiveAt s.values) s.objective = true := by
  simp [objectiveViolations]

/-- The solution passes each part of the check: there is nothing to report in any. -/
structure Passes (m : Model α) (s : Solution α) (t : α) : Prop where
  complete : ∀ v ∈ m.vars, s.values.contains v.name = true
  bounds : ∀ v ∈ m.vars, boundViolations v s.values t = []
  constraints : ∀ c ∈ m.constraints, constraintViolations c s.values t = []
  objective : m.objectiveViolations s t = []

theorem violations_eq_nil_iff (hfeasible : s.feasible = true) :
    m.violations s t = [] ↔ m.Passes s t := by
  rw [violations, if_pos hfeasible]
  cases hmissing : m.missingNames s.values with
  | nil =>
    simp only [List.append_eq_nil_iff, List.flatMap_eq_nil_iff]
    constructor
    · rintro ⟨⟨⟨-, hbounds⟩, hconstraints⟩, hobjective⟩
      exact ⟨missingNames_eq_nil_iff.1 hmissing, hbounds, hconstraints, hobjective⟩
    · rintro ⟨-, hbounds, hconstraints, hobjective⟩
      exact ⟨⟨⟨trivial, hbounds⟩, hconstraints⟩, hobjective⟩
  | cons name names =>
    constructor
    · intro h
      simp at h
    · intro h
      rw [missingNames_eq_nil_iff.2 h.complete] at hmissing
      cases hmissing

theorem check_eq_nil_iff (hfeasible : s.feasible = true) :
    m.check s t = .ok [] ↔ Scalar.lt t 0 = false ∧ m.Passes s t := by
  rw [← violations_eq_nil_iff hfeasible, check, hfeasible, Bool.true_and]
  cases Scalar.lt t 0 <;> simp

/-! ## Values that are no number -/

variable [OrderedScalar α]

/-- What is no number passes any bounds, and every other value only those that it lies within. -/
theorem boundViolations_eq_nil_iff_within {v : Variable α} {values : Table α}
    (ht : Scalar.isFinite t = true) (hlower : Scalar.isNaN v.lower = false)
    (hupper : Scalar.isNaN v.upper = false) :
    boundViolations v values t = [] ↔
      Scalar.isNaN (Solution.valueOf values v.name) = true ∨
        v.Within t (Solution.valueOf values v.name) := by
  rw [boundViolations_eq_nil_iff, Variable.Within]
  cases hx : Scalar.isNaN (Solution.valueOf values v.name) with
  | true =>
    rw [OrderedScalar.lt_of_isNaN (.inl hx), OrderedScalar.lt_of_isNaN (.inr hx)]
    simp
  | false =>
    have hbelow : Scalar.isNaN (v.lower - t) = false := by
      rw [OrderedScalar.isNaN_sub_finite ht, hlower]
    have habove : Scalar.isNaN (v.upper + t) = false := by
      rw [OrderedScalar.isNaN_add_finite ht, hupper]
    rw [OrderedScalar.le_eq_not_lt hbelow hx, OrderedScalar.le_eq_not_lt hx habove]
    simp

theorem not_within_of_isNaN {v : Variable α} {x : α} (h : Scalar.isNaN x = true) :
    ¬ v.Within t x := by
  rintro ⟨hlower, -⟩
  rw [OrderedScalar.le_of_isNaN (.inr h)] at hlower
  cases hlower

/-- The value of a mentioned name spreads to the expression, whatever its coefficient is. -/
theorem isNaN_evaluate {coefficients values : Table α} {name : String}
    (hname : name ∈ coefficients.keys)
    (h : Scalar.isNaN (Solution.valueOf values name) = true) :
    Scalar.isNaN (evaluate coefficients values) = true := by
  obtain ⟨e, he, rfl⟩ := List.mem_map.1 hname
  apply Scalar.isNaN_sum
  exact ⟨_, List.mem_map.2 ⟨e, he, rfl⟩, OrderedScalar.isNaN_mul (.inr h)⟩

/-- A mentioned name without a number for a value fails the check. -/
theorem Passes.not_mentions (h : m.Passes s t) {name : String}
    (hnan : Scalar.isNaN (Solution.valueOf s.values name) = true) : ¬ m.Mentions name := by
  rintro (hname | ⟨c, hc, hname⟩)
  · have hclose := objectiveViolations_eq_nil_iff.1 h.objective
    rw [objectiveAt, Scalar.isClose_of_isNaN (isNaN_evaluate hname hnan)] at hclose
    cases hclose
  · have hholds := constraintViolations_eq_nil_iff.1 (h.constraints c hc)
    rw [c.relation.holds_of_isNaN (isNaN_evaluate hname hnan)] at hholds
    cases hholds

/-- A name that is not mentioned passes the check without a number for a value. -/
theorem Passes.insert (h : m.Passes s t) {name : String} (hname : ¬ m.Mentions name) :
    m.Passes { s with values := s.values.insert name Scalar.notANumber } t := by
  obtain ⟨hobjective, hconstraint⟩ := not_or.1 hname
  constructor
  · intro v hv
    have hcontains := h.complete v hv
    rw [Table.contains] at hcontains ⊢
    rw [Table.get?_insert]
    split
    · rfl
    · exact hcontains
  · intro v hv
    have hbounds := boundViolations_eq_nil_iff.1 (h.bounds v hv)
    rw [boundViolations_eq_nil_iff, Solution.valueOf_insert]
    split
    · have hnan : Scalar.isNaN (Scalar.notANumber : α) = true := LawfulScalar.isNaN_notANumber
      exact ⟨OrderedScalar.lt_of_isNaN (.inl hnan), OrderedScalar.lt_of_isNaN (.inr hnan)⟩
    · exact hbounds
  · intro c hc
    have hkeys : name ∉ c.coefficients.keys := fun hmem => hconstraint ⟨c, hc, hmem⟩
    rw [constraintViolations_eq_nil_iff, evaluate_insert hkeys]
    exact constraintViolations_eq_nil_iff.1 (h.constraints c hc)
  · rw [objectiveViolations_eq_nil_iff, objectiveAt, evaluate_insert hobjective]
    exact objectiveViolations_eq_nil_iff.1 h.objective

/-- Where the check accepts a solution, every variable has a value, and it lies within the bounds
unless it is no number. Only a variable without a coefficient anywhere can have such a value, and
each of these can: the check accepts the solution with it as well. -/
theorem within_of_check_eq_nil (hfeasible : s.feasible = true) (ht : Scalar.isFinite t = true)
    (hbounds : ∀ v ∈ m.vars, Scalar.isNaN v.lower = false ∧ Scalar.isNaN v.upper = false)
    (haccepted : m.check s t = .ok []) :
    (∀ v ∈ m.vars, ∃ x, s.values.get? v.name = some x ∧
      (v.Within t x ↔ Scalar.isNaN x = false) ∧
      (Scalar.isNaN x = true → ¬ m.Mentions v.name)) ∧
    ∀ v ∈ m.vars, ¬ m.Mentions v.name →
      m.check { s with values := s.values.insert v.name Scalar.notANumber } t = .ok [] := by
  obtain ⟨hsign, hpasses⟩ := (check_eq_nil_iff hfeasible).1 haccepted
  constructor
  · intro v hv
    obtain ⟨x, hx⟩ := Option.isSome_iff_exists.1 (hpasses.complete v hv)
    have hvalue : Solution.valueOf s.values v.name = x := by rw [Solution.valueOf, hx]; rfl
    have hwithin := (boundViolations_eq_nil_iff_within ht (hbounds v hv).1 (hbounds v hv).2).1
      (hpasses.bounds v hv)
    rw [hvalue] at hwithin
    refine ⟨x, hx, ?_, fun hnan => hpasses.not_mentions (hvalue ▸ hnan)⟩
    constructor
    · intro h
      rw [Bool.eq_false_iff]
      exact fun hnan => not_within_of_isNaN hnan h
    · intro hnumber
      exact hwithin.resolve_left (Bool.eq_false_iff.1 hnumber)
  · intro v _ hunmentioned
    refine (check_eq_nil_iff ?_).2 ⟨hsign, hpasses.insert hunmentioned⟩
    exact hfeasible

/-- A variable that nothing mentions, and one that is as large as it can be. -/
def looseCommands : List (Command Float) :=
  [.addVariable "x" (.int 0) (.int 1),
    .addVariable "y" (.int 0) (.real Scalar.infinity),
    .setObjective (.ofList [("y", .int 1)]) (.text "max"),
    .addConstraint "floor" (.ofList [("y", .int 1)]) (.text ">=") (.int 2)]

def loose : Model Float :=
  Model.run { name := "loose" } looseCommands

/-- An answer without a number for the variable that nothing mentions. -/
def looseSolution : Solution Float where
  values := .ofList [("x", Scalar.notANumber), ("y", Scalar.infinity)]
  objective := Scalar.infinity
  feasible := true
  status := .optimal
  backend := "stub"

theorem within_of_check_eq_nil_loose :
    loose.Reachable ∧ loose.check looseSolution Scalar.millionth = .ok [] ∧
      (∀ v ∈ loose.vars, ∃ x, looseSolution.values.get? v.name = some x ∧
        (v.Within Scalar.millionth x ↔ Scalar.isNaN x = false) ∧
        (Scalar.isNaN x = true → ¬ loose.Mentions v.name)) ∧
      loose.vars.map (fun v => (looseSolution.values.get? v.name).map Scalar.isNaN) =
        [some true, some false] := by
  have haccepted : loose.check looseSolution Scalar.millionth = .ok [] := by
    rfl
  have hbounds : ∀ v ∈ loose.vars, Scalar.isNaN v.lower = false ∧ Scalar.isNaN v.upper = false := by
    decide
  have hwithin := (within_of_check_eq_nil rfl rfl hbounds haccepted).1
  exact ⟨⟨"loose", .null, looseCommands, rfl⟩, haccepted, hwithin, rfl⟩

/-- A single variable, which nothing mentions. -/
def silentCommands : List (Command Float) :=
  [.addVariable "x" (.int 0) (.int 1)]

def silent : Model Float :=
  Model.run { name := "silent" } silentCommands

def silentSolution : Solution Float where
  values := .ofList [("x", Scalar.notANumber)]
  objective := 0
  feasible := true
  status := .optimal
  backend := "stub"

/-- The check accepts a value that is not within its bounds. -/
theorem check_silent :
    silent.Reachable ∧ silentSolution.feasible = true ∧
      (∀ v ∈ silent.vars, Scalar.isNaN v.lower = false ∧ Scalar.isNaN v.upper = false) ∧
      Scalar.isFinite (Scalar.millionth : Float) = true ∧
      silent.check silentSolution Scalar.millionth = .ok [] ∧
      ¬ ∀ v ∈ silent.vars, ∃ x, silentSolution.values.get? v.name = some x ∧
        v.Within Scalar.millionth x := by
  refine ⟨⟨"silent", .null, silentCommands, rfl⟩, rfl, by decide, rfl, rfl, fun h => ?_⟩
  obtain ⟨x, hx, hwithin⟩ := h ⟨"x", 0, 1, 0⟩ (List.mem_singleton_self _)
  have hnan : x = Scalar.notANumber := (Option.some.inj hx).symm
  exact not_within_of_isNaN (hnan ▸ LawfulScalar.isNaN_notANumber) hwithin

end Model

end LinearDispatch
