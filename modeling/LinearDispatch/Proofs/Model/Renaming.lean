-- SUMMARY: The operations of a model commute with renaming: lookups, edits, evaluation, the check of a solution, and lowering.
import LinearDispatch.Proofs.Model.Lowering
import LinearDispatch.Proofs.Renaming

/-!
# Renamed models

A model compares names for equality only. Under new names a lookup finds the
same position, an entry is written over the same entry, and a row of cells gets
the same coefficients; what is refused is refused for the same kind of cause.
So every operation leaves the renamed model as the renaming of what it leaves
the model as, and answers the renamed answer.
-/
namespace LinearDispatch

/-! ## Answers -/

namespace Alike

variable {α ρ ρ' : Type} {g : ρ → ρ} {g' : ρ' → ρ'} {x x' : Except (Error α) ρ}

theorem ok_of_eq {y z : ρ} (h : z = g y) : Alike (α := α) g (.ok y) (.ok z) := by
  rw [h]
  exact .ok y

theorem map (h : Alike g x x') {f f' : ρ → ρ'} (hf : ∀ y, f' (g y) = g' (f y)) :
    Alike g' (x.map f) (x'.map f') := by
  cases h with
  | error kind => exact .error kind
  | ok y =>
    rw [Except.map, Except.map, hf]
    exact .ok (f y)

end Alike

namespace Outcome.Alike

variable {α ρ ρ' : Type} {r : Renaming} {g : ρ → ρ} {g' : ρ' → ρ'}
  {o o' : Outcome α (Model α) ρ}

theorem map (h : Outcome.Alike r g o o') {f f' : ρ → ρ'} (hf : ∀ y, f' (g y) = g' (f y)) :
    Outcome.Alike r g' (o.map f) (o'.map f') :=
  ⟨h.state, h.answer.map hf, h.calls⟩

/-- Work that goes on alike after outcomes that are alike. -/
theorem andThen (h : Outcome.Alike r g o o') {next next' : Model α → ρ → Outcome α (Model α) ρ'}
    (hnext : ∀ m x, Outcome.Alike r g' (next m x) (next' (m.rename r) (g x))) :
    Outcome.Alike r g' (o.andThen next) (o'.andThen next') := by
  obtain ⟨state, answer, events, calls⟩ := o
  obtain ⟨state', answer', events', calls'⟩ := o'
  obtain ⟨hstate, hanswer, hcalls⟩ := h
  dsimp only at hstate hanswer hcalls
  subst hstate hcalls
  cases hanswer with
  | error kind => exact ⟨rfl, .error kind, rfl⟩
  | ok x =>
    obtain ⟨hstate, hanswer, hcalls⟩ := hnext state x
    refine ⟨hstate, hanswer, ?_⟩
    simp only [Outcome.andThen, hcalls]

end Outcome.Alike

namespace Model

variable {α : Type} (r : Renaming) (m : Model α)

/-! ## Lookups -/

@[simp] theorem length_vars_rename : (m.rename r).vars.length = m.vars.length := by
  simp [rename]

@[simp] theorem variableNames_rename :
    (m.rename r).variableNames = m.variableNames.map r.vars := by
  simp [rename, variableNames, Variable.rename]

@[simp] theorem variableIndex?_rename (name : String) :
    (m.rename r).variableIndex? (r.vars name) = m.variableIndex? name := by
  simp [variableIndex?, rename, List.findIdx?_map, Function.comp_def, Variable.rename, beq_rename]

@[simp] theorem constraintIndex?_rename (name : String) :
    (m.rename r).constraintIndex? (r.constraints name) = m.constraintIndex? name := by
  simp [constraintIndex?, rename, List.findIdx?_map, Function.comp_def, Constraint.rename,
    beq_rename]

@[simp] theorem hasVariable_rename (name : String) :
    (m.rename r).hasVariable (r.vars name) = m.hasVariable name := by
  rw [hasVariable, hasVariable, variableIndex?_rename]

@[simp] theorem hasConstraint_rename (name : String) :
    (m.rename r).hasConstraint (r.constraints name) = m.hasConstraint name := by
  rw [hasConstraint, hasConstraint, constraintIndex?_rename]

theorem alike_variableIndex (name : String) :
    Alike id (m.variableIndex name) ((m.rename r).variableIndex (r.vars name)) := by
  rw [variableIndex, variableIndex, variableIndex?_rename]
  split
  · next i _ => exact .ok i
  · exact .error rfl

theorem alike_constraintIndex (name : String) :
    Alike id (m.constraintIndex name) ((m.rename r).constraintIndex (r.constraints name)) := by
  rw [constraintIndex, constraintIndex, constraintIndex?_rename]
  split
  · next i _ => exact .ok i
  · exact .error rfl

theorem alike_variableNamed (name : String) :
    Alike (·.rename r) (m.variableNamed name) ((m.rename r).variableNamed (r.vars name)) := by
  have hfind : (m.rename r).vars.find? (·.name == r.vars name) =
      (m.vars.find? (·.name == name)).map (·.rename r) := by
    simp only [rename, List.find?_map, Function.comp_def, Variable.rename, beq_rename]
  rw [variableNamed, variableNamed, hfind]
  cases m.vars.find? (·.name == name) with
  | none => exact .error rfl
  | some v => exact .ok v

theorem alike_constraintNamed (name : String) :
    Alike (·.rename r) (m.constraintNamed name)
      ((m.rename r).constraintNamed (r.constraints name)) := by
  have hfind : (m.rename r).constraints.find? (·.name == r.constraints name) =
      (m.constraints.find? (·.name == name)).map (·.rename r) := by
    simp only [rename, List.find?_map, Function.comp_def, Constraint.rename, beq_rename]
  rw [constraintNamed, constraintNamed, hfind]
  cases m.constraints.find? (·.name == name) with
  | none => exact .error rfl
  | some c => exact .ok c

variable [Scalar α]

theorem coefficient_rename (c : Constraint α) (name : String) :
    (c.rename r).coefficient (r.vars name) = c.coefficient name := by
  simp [Constraint.coefficient, Constraint.rename]

/-! ## Edits -/

theorem alike_addVariable (name : String) (lower upper : Literal α) :
    Outcome.Alike r id (m.addVariable name lower upper)
      ((m.rename r).addVariable (r.vars name) lower upper) := by
  rw [addVariable, addVariable, hasVariable_rename]
  split
  · exact ⟨rfl, .error rfl, rfl⟩
  · rw [appendVariable, appendVariable]
    split
    · exact ⟨rfl, .error rfl, rfl⟩
    · split
      · exact ⟨rfl, .error rfl, rfl⟩
      · refine ⟨by simp [rename, unbuilt, Variable.rename], ?_, rfl⟩
        rw [length_vars_rename]
        exact .ok _

theorem ofLiterals_rename (name : String) (coefficients : Table (Literal α)) (relation : Relation)
    (rhs : Literal α) :
    Constraint.ofLiterals (r.constraints name) (coefficients.rename r.vars) relation rhs =
      (Constraint.ofLiterals name coefficients relation rhs).map (·.rename r) := by
  rw [Constraint.ofLiterals, Constraint.ofLiterals, Table.traverse_rename]
  cases coefficients.traverse Literal.toScalar with
  | error e => rfl
  | ok table => cases rhs.toScalar <;> rfl

theorem alike_addConstraint (name : String) (coefficients : Table (Literal α))
    (relation rhs : Literal α) :
    Outcome.Alike r (·.rename r) (m.addConstraint name coefficients relation rhs)
      ((m.rename r).addConstraint (r.constraints name) (coefficients.rename r.vars) relation
        rhs) := by
  rw [addConstraint, addConstraint, hasConstraint_rename]
  split
  · exact ⟨rfl, .error rfl, rfl⟩
  · rw [appendConstraint, appendConstraint]
    split
    · exact ⟨rfl, .error rfl, rfl⟩
    · next relation _ =>
      rw [ofLiterals_rename]
      cases Constraint.ofLiterals name coefficients relation rhs with
      | error e => exact ⟨rfl, .error rfl, rfl⟩
      | ok c => exact ⟨by simp [rename, unbuilt, Except.map], .ok c, rfl⟩

theorem alike_setObjective (coefficients : Table (Literal α)) (direction : Literal α) :
    Outcome.Alike r id (m.setObjective coefficients direction)
      ((m.rename r).setObjective (coefficients.rename r.vars) direction) := by
  rw [setObjective, setObjective, Table.traverse_rename]
  cases coefficients.traverse Literal.toScalar with
  | error e => exact ⟨rfl, .error rfl, rfl⟩
  | ok table =>
    dsimp only [Except.map]
    split
    · exact ⟨rfl, .error rfl, rfl⟩
    · exact ⟨rfl, .ok _, rfl⟩

theorem alike_setObjectiveCoefficient (name : String) (coefficient : Literal α) :
    Outcome.Alike r id (m.setObjectiveCoefficient name coefficient)
      ((m.rename r).setObjectiveCoefficient (r.vars name) coefficient) := by
  rw [setObjectiveCoefficient, setObjectiveCoefficient]
  split
  · exact ⟨rfl, .error rfl, rfl⟩
  · refine ⟨?_, .ok _, rfl⟩
    simp [rename, unbuilt, Table.insert_rename]

omit [Scalar α] in
theorem alike_setDirection (direction : Literal α) :
    Outcome.Alike r id (m.setDirection direction) ((m.rename r).setDirection direction) := by
  rw [setDirection, setDirection]
  split
  · exact ⟨rfl, .error rfl, rfl⟩
  · exact ⟨rfl, .ok _, rfl⟩

/-! ## Evaluation and check -/

theorem valueOf_rename (values : Table α) (name : String) :
    Solution.valueOf (values.rename r.vars) (r.vars name) = Solution.valueOf values name := by
  rw [Solution.valueOf, Solution.valueOf, Table.get?_rename]

theorem evaluate_rename (coefficients values : Table α) :
    evaluate (coefficients.rename r.vars) (values.rename r.vars) = evaluate coefficients values := by
  simp [evaluate, Function.comp_def, valueOf_rename]

theorem objectiveAt_rename (values : Table α) :
    (m.rename r).objectiveAt (values.rename r.vars) = m.objectiveAt values :=
  evaluate_rename r m.objective values

omit [Scalar α] in
theorem missingNames_rename (values : Table α) :
    (m.rename r).missingNames (values.rename r.vars) = (m.missingNames values).map r.vars := by
  simp [missingNames, List.filter_map, Function.comp_def]

theorem boundViolations_rename (v : Variable α) (values : Table α) (tolerance : α) :
    boundViolations (v.rename r) (values.rename r.vars) tolerance =
      (boundViolations v values tolerance).map (·.rename r) := by
  simp only [boundViolations, Variable.rename, valueOf_rename, List.map_append]
  split <;> split <;> rfl

theorem constraintViolations_rename (c : Constraint α) (values : Table α) (tolerance : α) :
    constraintViolations (c.rename r) (values.rename r.vars) tolerance =
      (constraintViolations c values tolerance).map (·.rename r) := by
  simp only [constraintViolations, Constraint.rename, evaluate_rename]
  split <;> rfl

theorem objectiveViolations_rename (s : Solution α) (tolerance : α) :
    (m.rename r).objectiveViolations (s.rename r) tolerance =
      (m.objectiveViolations s tolerance).map (·.rename r) := by
  simp only [objectiveViolations, Solution.rename, objectiveAt_rename]
  split <;> rfl

theorem violations_rename (s : Solution α) (tolerance : α) :
    (m.rename r).violations (s.rename r) tolerance =
      (m.violations s tolerance).map (·.rename r) := by
  have hmissing := missingNames_rename r m s.values
  have hbounds : (m.rename r).vars.flatMap (boundViolations · (s.rename r).values tolerance) =
      (m.vars.flatMap (boundViolations · s.values tolerance)).map (·.rename r) := by
    simp only [rename, Solution.rename, List.flatMap_map, List.map_flatMap, boundViolations_rename]
  have hconstraints :
      (m.rename r).constraints.flatMap (constraintViolations · (s.rename r).values tolerance) =
        (m.constraints.flatMap (constraintViolations · s.values tolerance)).map (·.rename r) := by
    simp only [rename, Solution.rename, List.flatMap_map, List.map_flatMap,
      constraintViolations_rename]
  rw [violations, violations, hbounds, hconstraints, objectiveViolations_rename]
  have hfeasible : (s.rename r).feasible = s.feasible := rfl
  by_cases h : s.feasible = true
  · rw [if_pos h, if_pos (hfeasible.trans h), List.map_append, List.map_append, List.map_append]
    dsimp only [Solution.rename]
    rw [hmissing]
    cases m.missingNames s.values <;> rfl
  · rw [if_neg h, if_neg (hfeasible ▸ h)]
    rfl

theorem alike_check (s : Solution α) (tolerance : α) :
    Alike (List.map (·.rename r)) (m.check s tolerance)
      ((m.rename r).check (s.rename r) tolerance) := by
  have hguard : ((s.rename r).feasible && Scalar.lt tolerance 0) =
      (s.feasible && Scalar.lt tolerance 0) := rfl
  rw [check, check, violations_rename, hguard]
  split
  · exact .error rfl
  · exact .ok _

/-! ## Lowering -/

theorem scatter_rename {position position' : String → Option Nat} (ρ : String ↪ String)
    (h : ∀ name, position' (ρ name) = position name) {β : Type} (entries : List (String × β))
    (cells : List β) :
    scatter position' (Table.renameEntries ρ entries) cells =
      (scatter position entries cells).mapError ρ := by
  induction entries generalizing cells with
  | nil => rfl
  | cons e entries ih =>
    obtain ⟨name, x⟩ := e
    rw [Table.renameEntries] at ih
    simp only [Table.renameEntries, List.map_cons, scatter, h]
    cases position name with
    | none => rfl
    | some j => exact ih _

theorem row_rename (t : Table α) :
    (m.rename r).row (t.rename r.vars) = (m.row t).mapError r.vars := by
  rw [row, row, length_vars_rename]
  exact scatter_rename r.vars (variableIndex?_rename r m) _ _

theorem rowsOf_rename (cs : List (Constraint α)) :
    rowsOf (m.rename r).row (cs.map (·.rename r)) =
      (rowsOf m.row cs).mapError (Prod.map r.constraints r.vars) := by
  induction cs with
  | nil => rfl
  | cons c cs ih =>
    rw [List.map_cons, rowsOf, rowsOf, ih, Constraint.rename, row_rename]
    cases m.row c.coefficients with
    | error name => rfl
    | ok cells => cases rowsOf m.row cs <;> rfl

omit [Scalar α] in
theorem assembled_rename (objective : List α) (rows : List (List α)) :
    (m.rename r).assembled objective rows = (m.assembled objective rows).rename r := by
  simp [assembled, DenseForm.rename, rename, Variable.rename, Constraint.rename, isMaximize,
    variableNames]

theorem alike_denseForm : Alike (·.rename r) m.denseForm (m.rename r).denseForm := by
  have hobjective : (m.rename r).row (m.rename r).objective =
      (m.row m.objective).mapError r.vars := row_rename r m m.objective
  have hrows : rowsOf (m.rename r).row (m.rename r).constraints =
      (rowsOf m.row m.constraints).mapError (Prod.map r.constraints r.vars) :=
    rowsOf_rename r m m.constraints
  rw [denseForm_eq, denseForm_eq, hobjective, hrows]
  cases m.row m.objective with
  | error name => exact .error rfl
  | ok objective =>
    cases rowsOf m.row m.constraints with
    | error e => exact .error rfl
    | ok rows =>
      dsimp only [Except.mapError]
      rw [assembled_rename]
      exact .ok _

theorem alike_lower : Outcome.Alike r (·.rename r) m.lower (m.rename r).lower := by
  have hform := alike_denseForm r m
  rw [lower, lower]
  generalize m.denseForm = form at hform
  generalize (m.rename r).denseForm = form' at hform
  cases hform with
  | error kind => exact ⟨rfl, .error kind, rfl⟩
  | ok f => exact ⟨rfl, .ok f, rfl⟩

end Model

end LinearDispatch
