-- SUMMARY: Runs taken apart by the groups of their commands: each part of a model is what its own group makes of it, however the groups are interleaved.
import LinearDispatch.Proofs.Model.DenseForm

/-!
# Interleaved runs

The variables, the constraints, the objective and the preference of a model are
each the business of one group of commands: the other groups leave the part alone, and
what a command of the group makes of it depends on that part only, whether it
goes through or is refused. So a part comes out of a run as it comes out of the
commands of its group alone. The dense form is made of the first three and keeps
nothing of earlier builds, lowerings and solves.
-/
namespace LinearDispatch.Model

variable {α : Type} [Scalar α]

/-! ## Parts left alone -/

/-- The objective and its direction. -/
def goal {α : Type} (m : Model α) : Table α × Direction :=
  (m.objective, m.direction)

namespace Effect

variable {m : Model α} {c : Command α} {o : Outcome α (Model α) (Reply α)}

theorem vars_eq (h : m.Effect c o) (hc : c.group ≠ .variables) : o.state.vars = m.vars := by
  cases h with
  | declared => exact absurd rfl hc
  | lowered _ _ hstate _ => rw [hstate]
  | _ => rfl

theorem constraints_eq (h : m.Effect c o) (hc : c.group ≠ .constraints) :
    o.state.constraints = m.constraints := by
  cases h with
  | constrained => exact absurd rfl hc
  | lowered _ _ hstate _ => rw [hstate]
  | _ => rfl

theorem goal_eq (h : m.Effect c o) (hc : c.group ≠ .objective) :
    o.state.goal = m.goal := by
  cases h with
  | restated group => exact absurd group hc
  | lowered _ _ hstate _ =>
    rw [hstate]
    rfl
  | _ => rfl

theorem preferred_eq (h : m.Effect c o) (hc : c.group ≠ .preference) :
    o.state.preferred = m.preferred := by
  cases h with
  | preferred => exact absurd rfl hc
  | lowered _ _ hstate _ => rw [hstate]
  | _ => rfl

theorem name_eq (h : m.Effect c o) : o.state.name = m.name := by
  cases h with
  | lowered _ _ hstate _ => rw [hstate]
  | _ => rfl

end Effect

/-! ## Parts of a group -/

/-- A part of a model is the business of a group: other commands leave it alone, and those of the
group look at nothing else when they change it. -/
structure Owns {β : Type} (g : Group) (part : Model α → β) : Prop where
  frame : ∀ (m : Model α) (c : Command α), c.group ≠ g → part (m.perform c).state = part m
  congr : ∀ (m m' : Model α) (c : Command α), c.group = g → part m = part m' →
    part (m.perform c).state = part (m'.perform c).state

theorem owns_vars : Owns (α := α) .variables (·.vars) where
  frame m c hc := (effect_perform m c).vars_eq hc
  congr m m' c hc h := by
    cases c with
    | addVariable name lower upper =>
      have hknown : m.hasVariable name = m'.hasVariable name := by
        simp only [hasVariable, variableIndex?, h]
      simp only [perform, addVariable, appendVariable, hknown]
      split
      · exact h
      · split
        · exact h
        · split
          · exact h
          · simp [Outcome.map, h]
    | _ => cases hc

theorem owns_constraints : Owns (α := α) .constraints (·.constraints) where
  frame m c hc := (effect_perform m c).constraints_eq hc
  congr m m' c hc h := by
    cases c with
    | addConstraint name coefs relation rhs =>
      have hknown : m.hasConstraint name = m'.hasConstraint name := by
        simp only [hasConstraint, constraintIndex?, h]
      simp only [perform, addConstraint, appendConstraint, hknown]
      split
      · exact h
      · split
        · exact h
        · split
          · exact h
          · simp [Outcome.map, h]
    | _ => cases hc

theorem owns_goal : Owns (α := α) .objective goal where
  frame m c hc := (effect_perform m c).goal_eq hc
  congr m m' c hc h := by
    obtain ⟨hobjective, hdirection⟩ := Prod.mk.inj h
    cases c with
    | setObjective coefs direction =>
      simp only [perform, setObjective]
      split
      · exact h
      · split
        · exact h
        · rfl
    | setObjectiveCoefficient name coef =>
      simp only [perform, setObjectiveCoefficient]
      split
      · exact h
      · simp [Outcome.map, unbuilt, goal, hobjective, hdirection]
    | setDirection direction =>
      simp only [perform, setDirection]
      split
      · exact h
      · simp [Outcome.map, unbuilt, goal, hobjective]
    | _ => cases hc

theorem owns_preferred : Owns (α := α) .preference (·.preferred) where
  frame m c hc := (effect_perform m c).preferred_eq hc
  congr m m' c hc _ := by
    cases c with
    | setPreferred solver => rfl
    | _ => cases hc

namespace Owns

variable {β : Type} {g : Group} {part : Model α → β}

/-- No command looks at anything but the part when it changes it. -/
theorem perform_congr (h : Owns g part) {m m' : Model α} (hpart : part m = part m')
    (c : Command α) : part (m.perform c).state = part (m'.perform c).state := by
  by_cases hc : c.group = g
  · exact h.congr m m' c hc hpart
  · rw [h.frame m c hc, h.frame m' c hc, hpart]

/-- A run makes of the part what the commands of its group alone make of it. -/
theorem run_filter (h : Owns g part) {m m' : Model α} (hpart : part m = part m')
    (commands : List (Command α)) :
    part (m.run commands) = part (m'.run (commands.filter (·.group = g))) := by
  induction commands generalizing m m' with
  | nil => exact hpart
  | cons c commands ih =>
    by_cases hc : c.group = g
    · rw [List.filter_cons_of_pos (by simpa using hc)]
      exact ih (h.congr m m' c hc hpart)
    · rw [List.filter_cons_of_neg (by simpa using hc)]
      exact ih ((h.frame m c hc).trans hpart)

/-- Runs with the same commands of the group agree on its part. -/
theorem run_eq (h : Owns g part) {m m' : Model α} (hpart : part m = part m')
    {cs ds : List (Command α)} (hcs : cs.filter (·.group = g) = ds.filter (·.group = g)) :
    part (m.run cs) = part (m'.run ds) := by
  rw [h.run_filter hpart cs, hcs, ← h.run_filter rfl ds]

end Owns

/-! ## The form of the parts -/

variable {m m' : Model α}

theorem row_congr (hvars : m.vars = m'.vars) (t : Table α) : m.row t = m'.row t := by
  have hindex : m.variableIndex? = m'.variableIndex? := by
    funext name
    rw [variableIndex?, variableIndex?, hvars]
  rw [row, row, hindex, hvars]

theorem rowsOf_congr (hvars : m.vars = m'.vars) (cs : List (Constraint α)) :
    rowsOf m.row cs = rowsOf m'.row cs := by
  induction cs with
  | nil => rfl
  | cons c cs ih => rw [rowsOf, rowsOf, row_congr hvars, ih]

theorem denseForm_of_parts (hvars : m.vars = m'.vars) (hconstraints : m.constraints = m'.constraints)
    (hgoal : m.goal = m'.goal) {f : DenseForm α} (h : m.denseForm = .ok f) :
    m'.denseForm = .ok f := by
  obtain ⟨hobjective, hdirection⟩ := Prod.mk.inj hgoal
  obtain ⟨objective, rows, hrow, hrows, rfl⟩ := exists_assembled_of_denseForm h
  rw [row_congr hvars, hobjective] at hrow
  rw [rowsOf_congr hvars, hconstraints] at hrows
  have hparts : m.assembled objective rows = m'.assembled objective rows := by
    simp only [assembled, variableNames, isMaximize, hvars, hconstraints, hdirection]
  rw [denseForm_eq, hrow]
  dsimp only
  rw [hrows, hparts]

/-! ## Runs that differ in their interleaving -/

/-- Two runs with the same commands in each of the three groups end in the same linear program and
in the same form, however the groups are interleaved and whatever else is asked on the way. -/
theorem lower_run_of_groups (name name' : String) (preferred preferred' : Literal α)
    (cs ds : List (Command α))
    (hvariables : cs.filter (·.group = .variables) = ds.filter (·.group = .variables))
    (hconstraints : cs.filter (·.group = .constraints) = ds.filter (·.group = .constraints))
    (hobjective : cs.filter (·.group = .objective) = ds.filter (·.group = .objective)) :
    let m := Model.run { name, preferred } cs
    let m' := Model.run { name := name', preferred := preferred' } ds
    m.vars = m'.vars ∧ m.constraints = m'.constraints ∧ m.objective = m'.objective ∧
      m.direction = m'.direction ∧ ∀ f, m.lower.answer = .ok f ↔ m'.lower.answer = .ok f := by
  intro m m'
  have hvars : m.vars = m'.vars := by
    refine owns_vars.run_eq ?_ hvariables
    rfl
  have hcons : m.constraints = m'.constraints := by
    refine owns_constraints.run_eq ?_ hconstraints
    rfl
  have hgoal : m.goal = m'.goal := by
    refine owns_goal.run_eq ?_ hobjective
    rfl
  obtain ⟨hobj, hdir⟩ := Prod.mk.inj hgoal
  refine ⟨hvars, hcons, hobj, hdir, fun f => ?_⟩
  rw [answer_lower, answer_lower]
  exact ⟨denseForm_of_parts hvars hcons hgoal,
    denseForm_of_parts hvars.symm hcons.symm hgoal.symm⟩

/-- The edits of the tangled commands group by group, with other steps in between: the bound that is
no number now finds a built model, and an engine fails halfway. -/
def sortedCommands : List (Command Exact) :=
  [.setPreferred (.text "pulp"),
    .addVariable "x" (.int 0) (.int 1),
    .addVariable "x" (.int 5) (.int 6),
    .build,
    .addVariable "y" .null (.int 1),
    .addVariable "z" (.real (.infinite true)) (.int 3),
    .addVariable "y" (.int (-2)) (.int 2),
    .solve ⟨"stub", .custom "StubSolver" fun _ => .error "no engine", 10000, Scalar.dot⟩,
    .setObjectiveCoefficient "y" (.int 7),
    .setObjectiveCoefficient "x" (.int 3),
    .variableIndex "w",
    .addConstraint "late" (.ofList [("y", .int 2), ("x", .int (-1))]) (.text "<=") (.int 4),
    .addConstraint "late" (.ofList [("z", .int 1)]) (.text "==") (.int 0),
    .inequalities,
    .addConstraint "empty" .empty (.text ">=") (.int 0)]

theorem lower_run_of_groups_tangled :
    tangledCommands.filter (·.group = .variables) = sortedCommands.filter (·.group = .variables) ∧
    tangledCommands.filter (·.group = .constraints)
      = sortedCommands.filter (·.group = .constraints) ∧
    tangledCommands.filter (·.group = .objective) = sortedCommands.filter (·.group = .objective) ∧
    (Model.run { name := "sorted", preferred := .text "scipy" } sortedCommands).lower.answer
      = .ok tangledForm := by
  have hform : (Model.run { name := "tangled" } tangledCommands).lower.answer = .ok tangledForm := by
    rfl
  obtain ⟨-, -, -, -, hlower⟩ := lower_run_of_groups "tangled" "sorted" .null (.text "scipy")
    tangledCommands sortedCommands rfl rfl rfl
  exact ⟨rfl, rfl, rfl, (hlower tangledForm).1 hform⟩

end LinearDispatch.Model
