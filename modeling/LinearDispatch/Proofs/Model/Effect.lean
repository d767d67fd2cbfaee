-- SUMMARY: The groups of commands, and all that performing one command can come to: the model, the answer and the reports together.
import LinearDispatch.Model.Command

/-!
# The effect of a command

Commands fall into groups: those that declare variables, state constraints or
state the objective are edits, some build or lower the model, and the others
only look at it. An edit goes through or is refused; most edits read everything
they are given before they touch the model, two are hasty and take the built
mark away first. What holds of runs is read off the effects, without looking
into the operations again.
-/
namespace LinearDispatch

/-! ## Groups -/

/-- What a command is about. -/
inductive Group where
  | variables
  | constraints
  | objective
  | build
  | lowering
  | preference
  | inquiry
deriving DecidableEq

/-- Whether the group changes the linear program. -/
def Group.edits : Group → Bool
  | .variables   => true
  | .constraints => true
  | .objective   => true
  | _            => false

/-- The group of a command. Lookups, evaluations and checks of a solution are inquiries; whatever
starts from the dense form lowers the model. -/
def Command.group {α : Type} : Command α → Group
  | .addVariable ..             => .variables
  | .addConstraint ..           => .constraints
  | .setObjective ..            => .objective
  | .setObjectiveCoefficient .. => .objective
  | .setDirection _             => .objective
  | .build                      => .build
  | .denseForm                  => .lowering
  | .inequalities               => .lowering
  | .boundedProgram _           => .lowering
  | .readPoint _                => .lowering
  | .solve _                    => .lowering
  | .setPreferred _             => .preference
  | .variableIndex _            => .inquiry
  | .constraintIndex _          => .inquiry
  | .variableNamed _            => .inquiry
  | .constraintNamed _          => .inquiry
  | .hasVariable _              => .inquiry
  | .hasConstraint _            => .inquiry
  | .coefficient ..             => .inquiry
  | .objectiveAt _              => .inquiry
  | .check ..                   => .inquiry

namespace Outcome

variable {α σ ρ ρ' ρ'' : Type}

theorem map_map (f : ρ → ρ') (g : ρ' → ρ'') (o : Outcome α σ ρ) :
    (o.map f).map g = o.map (g ∘ f) := by
  obtain ⟨state, answer, events, calls⟩ := o
  cases answer <;> rfl

end Outcome

namespace Model

variable {α : Type}

/-! ## Effects -/

/-- No report that a change took the built mark away. -/
def Quiet (events : List (Event α)) : Prop :=
  ∀ model, .changedAfterBuild model ∉ events

/-- Whether an edit takes the built mark away before it converts its numbers: a variable under a new
name does, and a single coefficient of the objective. -/
def hasty (m : Model α) : Command α → Bool
  | .addVariable name ..        => !m.hasVariable name
  | .setObjectiveCoefficient .. => true
  | _                           => false

variable [Scalar α]

/-- What performing a command can come to. Every edit that goes through ends without the built mark;
of a lowering only what is left of the model and reported of a change is told. -/
inductive Effect (m : Model α) : Command α → Outcome α (Model α) (Reply α) → Prop where
  | declared (v : Variable α) (lower upper : Literal α) (fresh : m.hasVariable v.name = false)
    (position : v.index = m.vars.length) :
    Effect m (.addVariable v.name lower upper)
      { state := { m.unbuilt with vars := m.vars ++ [v] }
        answer := .ok (.position m.vars.length)
        events := m.changeEvents ++ [.variableAdded v.name lower upper] }
  | constrained (c : Constraint α) (coefficients : Table (Literal α)) (relation rhs : Literal α)
    (fresh : m.hasConstraint c.name = false) :
    Effect m (.addConstraint c.name coefficients relation rhs)
      { state := { m.unbuilt with constraints := m.constraints ++ [c] }
        answer := .ok (.constraint c)
        events := m.changeEvents
          ++ [.constraintAdded c.name c.relation c.rhs c.coefficients.keys] }
  | restated {c : Command α} (group : c.group = .objective) (table : Table α)
    (direction : Direction) :
    Effect m c
      { state := { m.unbuilt with objective := table, direction := direction }
        answer := .ok .done
        events := m.changeEvents }
  -- A patient edit is refused before it touches the model, a hasty one after the mark is gone.
  | refused {c : Command α} (edits : c.group.edits = true) (patient : m.hasty c = false)
    (e : Error α) : Effect m c (.fail m e)
  | refusedHastily {c : Command α} (hasty : m.hasty c = true) (fault : ConversionError) :
    Effect m c
      { state := m.unbuilt, answer := .error (.notNumber fault), events := m.changeEvents }
  | built :
    Effect m .build
      { state := { m with built := true }, answer := .ok .done, events := m.buildEvents }
  | lowered {c : Command α} {o : Outcome α (Model α) (Reply α)} (group : c.group = .lowering)
    {f : DenseForm α} (form : m.denseForm = .ok f) (state : o.state = { m with built := true })
    (quiet : Quiet o.events) : Effect m c o
  | unlowered {c : Command α} (group : c.group = .lowering) {e : Error α}
    (refusal : m.denseForm = .error e) : Effect m c (.fail m e)
  | preferred (solver : Literal α) :
    Effect m (.setPreferred solver)
      { state := { m with preferred := solver }, answer := .ok (.preference solver) }
  | looked {c : Command α} (group : c.group = .inquiry) (answer : Except (Error α) (Reply α)) :
    Effect m c { state := m, answer }

/-! ## Edits -/

theorem effect_addVariable (m : Model α) (name : String) (lower upper : Literal α) :
    Effect m (.addVariable name lower upper) (m.perform (.addVariable name lower upper)) := by
  rw [perform, addVariable]
  split
  · next hknown => exact .refused rfl (by simp [hasty, hknown]) _
  · next hknown =>
    have hfresh : m.hasVariable name = false := by simpa using hknown
    have hhasty : m.hasty (.addVariable name lower upper) = true := by simp [hasty, hfresh]
    rw [appendVariable]
    split
    · exact .refusedHastily hhasty _
    · next lo _ =>
      split
      · exact .refusedHastily hhasty _
      · next up _ => exact .declared ⟨name, lo, up, m.vars.length⟩ lower upper hfresh rfl

theorem name_ofLiterals {name : String} {coefficients : Table (Literal α)} {relation : Relation}
    {rhs : Literal α} {c : Constraint α}
    (h : Constraint.ofLiterals name coefficients relation rhs = .ok c) : c.name = name := by
  rw [Constraint.ofLiterals] at h
  split at h
  · cases h
  · split at h
    · cases h
    · cases h
      rfl

theorem effect_addConstraint (m : Model α) (name : String) (coefficients : Table (Literal α))
    (relation rhs : Literal α) :
    Effect m (.addConstraint name coefficients relation rhs)
      (m.perform (.addConstraint name coefficients relation rhs)) := by
  rw [perform, addConstraint]
  split
  · exact .refused rfl rfl _
  · next hknown =>
    rw [appendConstraint]
    split
    · exact .refused rfl rfl _
    · split
      · exact .refused rfl rfl _
      · next c hc =>
        obtain rfl := name_ofLiterals hc
        exact .constrained c coefficients relation rhs (by simpa using hknown)

theorem effect_setObjective (m : Model α) (coefficients : Table (Literal α))
    (direction : Literal α) :
    Effect m (.setObjective coefficients direction)
      (m.perform (.setObjective coefficients direction)) := by
  rw [perform, setObjective]
  split
  · exact .refused rfl rfl _
  · split
    · exact .refused rfl rfl _
    · exact .restated rfl _ _

theorem effect_setObjectiveCoefficient (m : Model α) (name : String) (coefficient : Literal α) :
    Effect m (.setObjectiveCoefficient name coefficient)
      (m.perform (.setObjectiveCoefficient name coefficient)) := by
  rw [perform, setObjectiveCoefficient]
  split
  · exact .refusedHastily rfl _
  · exact .restated rfl _ m.direction

theorem effect_setDirection (m : Model α) (direction : Literal α) :
    Effect m (.setDirection direction) (m.perform (.setDirection direction)) := by
  rw [perform, setDirection]
  split
  · exact .refused rfl rfl _
  · exact .restated rfl m.objective _

/-! ## Lowering -/

omit [Scalar α] in
theorem Quiet.append {es fs : List (Event α)} (hes : Quiet es) (hfs : Quiet fs) :
    Quiet (es ++ fs) := by
  intro model hmem
  rcases List.mem_append.1 hmem with h | h
  · exact hes model h
  · exact hfs model h

omit [Scalar α] in
theorem quiet_buildEvents (m : Model α) : Quiet m.buildEvents := by
  intro model
  rw [buildEvents]
  split <;> simp

theorem quiet_attempt (a : Adapter α) (f : DenseForm α) : Quiet (a.attempt f).events := by
  intro model
  rw [Adapter.attempt]
  split
  · simp [Adapter.attemptInequality]
  · rw [Adapter.attemptBounded]
    split
    · simp
    · simp
    · dsimp only
      split
      · simp
      · split <;> simp
  · simp

theorem quiet_solveForm (a : Adapter α) (model : String) (f : DenseForm α) :
    Quiet (a.solveForm model f).2.1 := by
  have hattempt := quiet_attempt a f
  rw [Adapter.solveForm]
  dsimp only
  split
  · exact hattempt.append (by simp [Quiet])
  · split
    · exact hattempt.append (by simp [Quiet])
    · split
      · exact hattempt
      · exact hattempt.append (by simp [Quiet])

/-- Lowering builds the model and reports nothing of a change, or leaves the model alone. -/
theorem lower_cases (m : Model α) :
    (∃ e, m.denseForm = .error e ∧ m.lower = .fail m e) ∨
    ∃ f, m.denseForm = .ok f ∧ m.lower =
      { state := { m with built := true }
        answer := .ok f
        events := m.buildEvents ++ [.lowered m.name f.outline] } := by
  rw [lower]
  cases hform : m.denseForm with
  | error e => exact .inl ⟨e, rfl, rfl⟩
  | ok f => exact .inr ⟨f, rfl, rfl⟩

omit [Scalar α] in
theorem quiet_lowered (m : Model α) (f : DenseForm α) :
    Quiet (m.buildEvents ++ [.lowered m.name f.outline]) :=
  (quiet_buildEvents m).append (by simp [Quiet])

theorem effect_lower (m : Model α) {c : Command α} (group : c.group = .lowering)
    (reply : DenseForm α → Reply α) : Effect m c (m.lower.map reply) := by
  rcases lower_cases m with ⟨e, hform, hlower⟩ | ⟨f, hform, hlower⟩
  · rw [hlower]
    exact .unlowered group hform
  · rw [hlower]
    exact .lowered group hform rfl (quiet_lowered m f)

/-- Whatever is done with the form that a model is lowered to, the model stays as lowering left
it. -/
theorem effect_andThen (m : Model α) {c : Command α} (group : c.group = .lowering) {ρ : Type}
    {next : Model α → DenseForm α → Outcome α (Model α) ρ} (reply : ρ → Reply α)
    (hstate : ∀ m f, (next m f).state = m) (hquiet : ∀ m f, Quiet (next m f).events) :
    Effect m c ((m.lower.andThen next).map reply) := by
  rcases lower_cases m with ⟨e, hform, hlower⟩ | ⟨f, hform, hlower⟩
  · rw [hlower]
    exact .unlowered group hform
  · rw [hlower]
    exact .lowered group hform (hstate _ f) ((quiet_lowered m f).append (hquiet _ f))

/-! ## Every command -/

theorem effect_perform (m : Model α) (c : Command α) : Effect m c (m.perform c) := by
  cases c with
  | addVariable name lower upper => exact effect_addVariable m name lower upper
  | addConstraint name coefs relation rhs => exact effect_addConstraint m name coefs relation rhs
  | setObjective coefs direction => exact effect_setObjective m coefs direction
  | setObjectiveCoefficient name coef => exact effect_setObjectiveCoefficient m name coef
  | setDirection direction => exact effect_setDirection m direction
  | build => exact .built
  | setPreferred solver => exact .preferred solver
  | denseForm => exact effect_lower m rfl _
  | inequalities =>
    rw [perform, inequalities, Outcome.map_map]
    exact effect_lower m rfl _
  | boundedProgram library =>
    refine effect_andThen m rfl _ (fun m f => ?_) (fun m f => ?_) <;> rw [programOf]
    · split <;> rfl
    · split <;> simp [Quiet, Outcome.pure, Outcome.fail]
  | readPoint point =>
    refine effect_andThen m rfl _ (fun m f => ?_) (fun m f => ?_) <;> rw [readOver]
    · split <;> rfl
    · split <;> simp [Quiet, Outcome.pure, Outcome.fail]
  | solve a =>
    refine effect_andThen m rfl _ (fun m f => ?_) (fun m f => ?_) <;>
      rw [Adapter.solveLowered] <;> dsimp only
    · split <;> rfl
    · split
      · simp [Quiet]
      · exact Quiet.append (by simp [Quiet]) (quiet_solveForm a m.name f)
  | _ => exact .looked rfl _

end Model

end LinearDispatch
