-- SUMMARY: Changing a model: declaring variables and constraints, stating the objective, finalising.
import LinearDispatch.Outcome

/-!
# Editing a model

Every change of a built model takes its built mark away and reports that. When
an edit is refused, the mark goes or stays with the moment of the refusal: a
new variable and a single coefficient lose it before their numbers are
converted, every other edit only after everything given has been read.
-/
namespace LinearDispatch.Model

variable {α : Type} [Scalar α]

/-! ## The built mark -/

/-- The model without its built mark. -/
def unbuilt (m : Model α) : Model α :=
  { m with built := false }

/-- What losing the built mark reports. -/
def changeEvents (m : Model α) : List (Event α) :=
  if m.built then [.changedAfterBuild m.name] else []

/-- What gaining the built mark reports. -/
def buildEvents (m : Model α) : List (Event α) :=
  if m.built then [] else [.building m.name m.vars.length m.constraints.length]

/-- Finalise the model. A built model stays as it is. -/
def build (m : Model α) : Outcome α (Model α) Unit where
  state := { m with built := true }
  answer := .ok ()
  events := m.buildEvents

/-! ## Declarations -/

/-- Append a variable under a new name and answer its position. -/
def appendVariable (m : Model α) (name : String) (lower upper : Literal α) :
    Outcome α (Model α) Nat :=
  match lower.toScalar with
  | .error e => { state := m.unbuilt, answer := .error (.notNumber e), events := m.changeEvents }
  | .ok lo =>
    match upper.toScalar with
    | .error e =>
      { state := m.unbuilt, answer := .error (.notNumber e), events := m.changeEvents }
    | .ok up =>
      let index := m.vars.length
      { state := { m.unbuilt with vars := m.vars ++ [⟨name, lo, up, index⟩] }
        answer := .ok index
        events := m.changeEvents ++ [.variableAdded name lower upper] }

/-- Declare a variable, unless its name is taken. -/
def addVariable (m : Model α) (name : String) (lower upper : Literal α) :
    Outcome α (Model α) Nat :=
  if m.hasVariable name then .fail m (.duplicateName "variable" name)
  else m.appendVariable name lower upper

/-- Append a constraint under a new name and answer it. -/
def appendConstraint (m : Model α) (name : String) (coefficients : Table (Literal α))
    (relation rhs : Literal α) : Outcome α (Model α) (Constraint α) :=
  match Relation.ofLiteral? relation with
  | none   => .fail m (.badRelation relation)
  | some r =>
    match Constraint.ofLiterals name coefficients r rhs with
    | .error e => .fail m (.notNumber e)
    | .ok c    =>
      { state := { m.unbuilt with constraints := m.constraints ++ [c] }
        answer := .ok c
        events := m.changeEvents ++ [.constraintAdded name c.relation c.rhs c.coefficients.keys] }

/-- Declare a constraint, unless its name is taken. -/
def addConstraint (m : Model α) (name : String) (coefficients : Table (Literal α))
    (relation rhs : Literal α) : Outcome α (Model α) (Constraint α) :=
  if m.hasConstraint name then .fail m (.duplicateName "constraint" name)
  else m.appendConstraint name coefficients relation rhs

/-! ## The objective -/

/-- State the whole objective and its direction anew. -/
def setObjective (m : Model α) (coefficients : Table (Literal α)) (direction : Literal α) :
    Outcome α (Model α) Unit :=
  match coefficients.traverse Literal.toScalar with
  | .error e  => .fail m (.notNumber e)
  | .ok table =>
    match Direction.ofLiteral? direction with
    | none   => .fail m (.badDirection direction)
    | some d =>
      { state := { m.unbuilt with objective := table, direction := d }
        answer := .ok ()
        events := m.changeEvents }

/-- State the coefficient of one variable in the objective. -/
def setObjectiveCoefficient (m : Model α) (name : String) (coefficient : Literal α) :
    Outcome α (Model α) Unit :=
  match coefficient.toScalar with
  | .error e => { state := m.unbuilt, answer := .error (.notNumber e), events := m.changeEvents }
  | .ok x    =>
    { state := { m.unbuilt with objective := m.objective.insert name x }
      answer := .ok ()
      events := m.changeEvents }

/-- State the direction alone. -/
def setDirection (m : Model α) (direction : Literal α) : Outcome α (Model α) Unit :=
  match Direction.ofLiteral? direction with
  | none   => .fail m (.badDirection direction)
  | some d =>
    { state := { m.unbuilt with direction := d }
      answer := .ok ()
      events := m.changeEvents }

/-- State the backend that the model asks for. The program itself stays the same, and so does the
built mark. -/
def setPreferred (m : Model α) (solver : Literal α) : Outcome α (Model α) (Literal α) where
  state := { m with preferred := solver }
  answer := .ok solver

end LinearDispatch.Model
