-- SUMMARY: The names that a model mentions, in the order in which lowering looks at them: it is refused for the first that nobody declared, and for nothing else.
import LinearDispatch.Proofs.Model.Interleaving

/-!
# Mentioned names

Expressions may mention variables that are declared later, or never. A name is
mentioned by its coefficient, whatever this is, zero included. Lowering looks at
the names of the objective as they first came, then at those of the constraints
in theirs, and stops at the first that nobody declared. The refusal says where
that name stands and leaves the model alone, and no adapter gets as far as its
backend. What is missing can be declared later, in any order.
-/
namespace LinearDispatch

/-- Whether the command declares the name, unless it is taken: its bounds have to be numbers. -/
def Command.declares {α : Type} [Scalar α] (name : String) : Command α → Bool
  | .addVariable key lower upper => key = name && lower.toScalar.isOk && upper.toScalar.isOk
  | _                            => false

namespace Model

variable {α : Type}

/-- The name has a coefficient in the objective or in a constraint. -/
def Mentions (m : Model α) (name : String) : Prop :=
  name ∈ m.objective.keys ∨ ∃ c ∈ m.constraints, name ∈ c.coefficients.keys

/-- The mentioned names in the order in which they are looked at, each with what is wrong with the
model if nobody declared it. -/
def mentions (m : Model α) : List (String × ModelFault) :=
  m.objective.keys.map (fun name => (name, .objectiveUnknown name m.name))
    ++ m.constraints.flatMap fun c =>
      c.coefficients.keys.map fun name => (name, .constraintUnknown c.name name)

/-- What is wrong with the first mentioned name that nobody declared. -/
def dangling? (m : Model α) : Option ModelFault :=
  (m.mentions.find? fun mention => mention.1 ∉ m.variableNames).map Prod.snd

/-! ## The first undeclared name -/

theorem mentions_iff {m : Model α} {name : String} :
    m.Mentions name ↔ ∃ fault, (name, fault) ∈ m.mentions := by
  simp only [Mentions, mentions, List.mem_append, List.mem_map, List.mem_flatMap]
  constructor
  · rintro (h | ⟨c, hc, h⟩)
    · exact ⟨_, .inl ⟨name, h, rfl⟩⟩
    · exact ⟨_, .inr ⟨c, hc, name, h, rfl⟩⟩
  · rintro ⟨fault, ⟨key, h, heq⟩ | ⟨c, hc, key, h, heq⟩⟩
    · cases heq
      exact .inl h
    · cases heq
      exact .inr ⟨c, hc, h⟩

theorem isSome_dangling?_iff {m : Model α} :
    m.dangling?.isSome = true ↔ ∃ name, m.Mentions name ∧ name ∉ m.variableNames := by
  simp only [dangling?, Option.isSome_map, List.find?_isSome, decide_eq_true_eq, mentions_iff]
  constructor
  · rintro ⟨⟨name, fault⟩, hmem, hname⟩
    exact ⟨name, ⟨fault, hmem⟩, hname⟩
  · rintro ⟨name, ⟨fault, hmem⟩, hname⟩
    exact ⟨(name, fault), hmem, hname⟩

/-- The first name of an expression that nobody declared. -/
def undeclared? (m : Model α) (coefficients : Table α) : Option String :=
  coefficients.keys.find? (· ∉ m.variableNames)

/-- The objective is looked at first, then the constraints in their order. -/
theorem dangling?_eq (m : Model α) :
    m.dangling? =
      ((m.undeclared? m.objective).map (.objectiveUnknown · m.name)).or
        (m.constraints.findSome? fun c =>
          (m.undeclared? c.coefficients).map (.constraintUnknown c.name)) := by
  simp only [dangling?, mentions, List.find?_append, List.find?_map, List.find?_flatMap,
    Option.map_or, Option.map_map, List.map_findSome?]
  congr 1
  refine congrArg (List.findSome? · m.constraints) (funext fun c => ?_)
  simp only [Function.comp_apply, Option.map_map]
  rfl

/-! ## Refusals -/

/-- Writing entries is refused for the first name without a position. -/
theorem scatter_eq_error_iff {position : String → Option Nat} {entries : List (String × α)}
    {cells : List α} {name : String} :
    scatter position entries cells = .error name ↔
      (entries.map Prod.fst).find? (fun key => (position key).isNone) = some name := by
  induction entries generalizing cells with
  | nil => simp [scatter]
  | cons e entries ih =>
    obtain ⟨key, x⟩ := e
    rw [scatter, List.map_cons, List.find?_cons]
    cases hkey : position key with
    | none => simp
    | some j => simp [ih]

variable [Scalar α]

theorem row_eq_error_iff {m : Model α} {coefficients : Table α} {name : String} :
    m.row coefficients = .error name ↔ m.undeclared? coefficients = some name := by
  have hundeclared : ∀ key, (m.variableIndex? key).isNone = decide (key ∉ m.variableNames) := by
    intro key
    rw [Bool.eq_iff_iff, decide_eq_true_iff, ← hasVariable_iff, hasVariable]
    simp
  simp only [row, scatter_eq_error_iff, hundeclared]
  rfl

theorem undeclared?_of_row {m : Model α} {coefficients : Table α} {cells : List α}
    (h : m.row coefficients = .ok cells) : m.undeclared? coefficients = none := by
  rw [Option.eq_none_iff_forall_ne_some]
  intro name hname
  rw [row_eq_error_iff.2 hname] at h
  cases h

/-- The rows are refused for the first constraint with an undeclared name. -/
theorem findSome?_of_rowsOf {m : Model α} {cs : List (Constraint α)} :
    (cs.findSome? fun c => (m.undeclared? c.coefficients).map (ModelFault.constraintUnknown c.name))
      = match rowsOf m.row cs with
        | .error (constraint, name) => some (.constraintUnknown constraint name)
        | .ok _                     => none := by
  induction cs with
  | nil => rfl
  | cons c cs ih =>
    rw [rowsOf, List.findSome?_cons]
    cases hrow : m.row c.coefficients with
    | error name => rw [row_eq_error_iff.1 hrow, Option.map_some]
    | ok cells =>
      rw [undeclared?_of_row hrow, Option.map_none]
      dsimp only
      rw [ih]
      cases rowsOf m.row cs <;> rfl

/-- Lowering without its rows: what is wrong with the first undeclared name, if there is one. -/
theorem dangling?_of_denseForm (m : Model α) :
    match m.dangling? with
    | some fault => m.denseForm = .error (.invalidModel fault)
    | none       => ∃ f, m.denseForm = .ok f := by
  rw [dangling?_eq, findSome?_of_rowsOf, denseForm_eq]
  cases hobjective : m.row m.objective with
  | error name =>
    rw [row_eq_error_iff.1 hobjective]
    rfl
  | ok objective =>
    rw [undeclared?_of_row hobjective]
    cases hrows : rowsOf m.row m.constraints with
    | error fault => rfl
    | ok rows => exact ⟨_, rfl⟩

theorem isOk_answer_lower_iff {m : Model α} :
    m.lower.answer.isOk = true ↔ ∀ name, m.Mentions name → name ∈ m.variableNames := by
  have hnone : m.dangling? = none ↔ ∀ name, m.Mentions name → name ∈ m.variableNames := by
    rw [← Option.not_isSome_iff_eq_none, isSome_dangling?_iff]
    simp only [not_exists, not_and, not_not]
  have hform := m.dangling?_of_denseForm
  rw [answer_lower, ← hnone]
  cases hdangling : m.dangling? with
  | some fault =>
    rw [hdangling] at hform
    simp [hform]
  | none =>
    rw [hdangling] at hform
    obtain ⟨f, hf⟩ := hform
    simp [hf]

/-! ## Declaring what is missing -/

/-- A command adds the name that it declares to the variables, and no other. -/
theorem mem_variableNames_perform {m : Model α} {c : Command α} {name : String} :
    name ∈ (m.perform c).state.variableNames ↔ name ∈ m.variableNames ∨ c.declares name = true := by
  by_cases hc : c.group = .variables
  · cases c with
    | addVariable key lower upper =>
      simp only [perform, addVariable, appendVariable, Outcome.map, Command.declares,
        Bool.and_eq_true, decide_eq_true_iff]
      split
      · next hknown =>
        rw [hasVariable_iff] at hknown
        simp only [Outcome.fail]
        constructor
        · exact .inl
        · rintro (h | ⟨⟨rfl, -⟩, -⟩)
          · exact h
          · exact hknown
      · split
        · next e he => simp [unbuilt, variableNames, he]
        · next lo hlo =>
          split
          · next e he => simp [unbuilt, variableNames, he]
          · next up hup => simp [variableNames, hlo, hup, eq_comm]
    | _ => cases hc
  · have hvars : (m.perform c).state.vars = m.vars := (effect_perform m c).vars_eq hc
    have hdeclares : c.declares name = false := by
      cases c with
      | addVariable => exact absurd rfl hc
      | _ => rfl
    simp [variableNames, hvars, hdeclares]

theorem mem_variableNames_run {m : Model α} {commands : List (Command α)} {name : String} :
    name ∈ (m.run commands).variableNames ↔
      name ∈ m.variableNames ∨ ∃ c ∈ commands, c.declares name = true := by
  induction commands generalizing m with
  | nil => simp [run]
  | cons c commands ih =>
    have hrun : m.run (c :: commands) = (m.perform c).state.run commands := rfl
    rw [hrun, ih, mem_variableNames_perform, List.exists_mem_cons_iff, or_assoc]

/-- The expressions of a model stay as they are where neither constraints nor the objective are
edited. -/
theorem mentions_run {m : Model α} {commands : List (Command α)}
    (h : ∀ c ∈ commands, c.group ≠ .constraints ∧ c.group ≠ .objective) {name : String} :
    (m.run commands).Mentions name ↔ m.Mentions name := by
  have hconstraints : (m.run commands).constraints = m.constraints := by
    have hnone : commands.filter (·.group = .constraints) = [] := by
      simpa [List.filter_eq_nil_iff] using fun c hc => (h c hc).1
    rw [owns_constraints.run_filter rfl commands, hnone]
    rfl
  have hgoal : (m.run commands).goal = m.goal := by
    have hnone : commands.filter (·.group = .objective) = [] := by
      simpa [List.filter_eq_nil_iff] using fun c hc => (h c hc).2
    rw [owns_goal.run_filter rfl commands, hnone]
    rfl
  have hobjective : (m.run commands).objective = m.objective := congrArg Prod.fst hgoal
  rw [Mentions, Mentions, hconstraints, hobjective]

/-- Lowering refuses exactly the models that mention a name which nobody declared. The refusal is
about the first such name in the order of `mentions`; it leaves the model as it is, and every
adapter ends with it, without events and without a call of its engine. Once declarations of the
missing names are among what is asked of the model, in whatever order, lowering succeeds, unless
other expressions were stated meanwhile. -/
theorem lower_decided_by_dangling (m : Model α) :
    (match m.dangling? with
      | some fault =>
        m.lower = .fail m (.invalidModel fault) ∧
          ∀ a : Adapter α, a.solve m = .fail m (.invalidModel fault)
      | none       => ∃ f, m.lower.answer = .ok f) ∧
    (m.dangling?.isSome = true ↔ ∃ name, m.Mentions name ∧ name ∉ m.variableNames) ∧
    ∀ commands : List (Command α),
      (∀ c ∈ commands, c.group ≠ .constraints ∧ c.group ≠ .objective) →
      ((m.run commands).lower.answer.isOk = true ↔
        ∀ name, m.Mentions name → name ∉ m.variableNames →
          ∃ c ∈ commands, c.declares name = true) := by
  have hform := m.dangling?_of_denseForm
  refine ⟨?_, isSome_dangling?_iff, fun commands hcommands => ?_⟩
  · cases hdangling : m.dangling? with
    | some fault =>
      rw [hdangling] at hform
      have hlower : m.lower = .fail m (.invalidModel fault) := by rw [lower, hform, lowered]
      exact ⟨hlower, fun a => by rw [Adapter.solve, hlower]; rfl⟩
    | none =>
      rw [hdangling] at hform
      obtain ⟨f, hf⟩ := hform
      exact ⟨f, by rw [answer_lower, hf]⟩
  · simp only [isOk_answer_lower_iff, mentions_run hcommands, mem_variableNames_run,
      ← or_iff_not_imp_left]

/-- Commands that mention two variables which nobody declares, one of them with a zero. -/
def hurriedCommands : List (Command Exact) :=
  [.addConstraint "cap" (.ofList [("x", .int 1), ("y", .int 0)]) (.text "<=") (.int 4),
    .setObjectiveCoefficient "x" (.int 1),
    .setObjectiveCoefficient "z" (.int 2),
    .addVariable "x" (.int 0) (.int 9)]

def hurried : Model Exact :=
  Model.run { name := "hurried" } hurriedCommands

/-- The missing declarations, the later name first, with others that are refused. -/
def belatedCommands : List (Command Exact) :=
  [.addVariable "y" (.int 0) (.int 1), .denseForm, .addVariable "z" .null (.int 1), .build,
    .addVariable "x" (.int 5) (.int 6), .addVariable "z" (.int 0) (.text "inf")]

/-- The name in the objective is the first, although the constraint was stated before. -/
theorem lower_decided_by_dangling_hurried :
    hurried.lower = .fail hurried (.invalidModel (.objectiveUnknown "z" "hurried")) ∧
      (hurried.run belatedCommands).lower.answer.isOk = true := by
  obtain ⟨hrefused, -, hdeclared⟩ := lower_decided_by_dangling hurried
  have hdangling : hurried.dangling? = some (.objectiveUnknown "z" "hurried") := by
    rfl
  rw [hdangling] at hrefused
  have hcommands : ∀ c ∈ belatedCommands, c.group ≠ .constraints ∧ c.group ≠ .objective := by
    decide
  refine ⟨hrefused.1, (hdeclared belatedCommands hcommands).2 fun name hname hmissing => ?_⟩
  have hmentions : hurried.mentions.map Prod.fst = ["x", "z", "x", "y"] := by
    rfl
  obtain ⟨fault, hmem⟩ := mentions_iff.1 hname
  have hmentioned : name ∈ ["x", "z", "x", "y"] := hmentions ▸ List.mem_map.2 ⟨_, hmem, rfl⟩
  have hdeclares : ∀ key ∈ ["x", "z", "x", "y"], key ∉ hurried.variableNames →
      ∃ c ∈ belatedCommands, c.declares key = true := by
    decide
  exact hdeclares name hmentioned hmissing

end Model

end LinearDispatch
