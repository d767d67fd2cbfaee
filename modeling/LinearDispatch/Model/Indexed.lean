-- SUMMARY: Models with an index: the positions of the declarations by name, entered one by one, and the commands that look names up in it.
import LinearDispatch.Model.Command

/-!
# Indexed models

An indexed model keeps the positions of its declarations by name, in a table
for the variables and a table for the constraints. A declaration is entered
once it was appended. Whatever needs a name looks into the tables and not
through the declarations: a declaration for a name that is taken, a lookup for
its position, and lowering for the cell of every coefficient.
-/
namespace LinearDispatch

/-- Positions by name, entered one by one. -/
structure Model.Index where
  variablePositions : Table Nat := .empty
  constraintPositions : Table Nat := .empty

structure IndexedModel (α : Type) where
  model : Model α
  index : Model.Index := {}

namespace IndexedModel

/-! ## Lookups -/

section Lookups

variable {α δ : Type}

/-- The position of a name. -/
def position (positions : Table Nat) (kind name : String) : Except (Error α) Nat :=
  match positions.get? name with
  | some i => .ok i
  | none   => .error (.notFound kind name)

/-- The declaration at the position of a name. A position without a declaration, which no run
enters, finds nothing. -/
def entity (positions : Table Nat) (declared : List δ) (kind name : String) :
    Except (Error α) δ :=
  match (positions.get? name).bind (declared[·]?) with
  | some d => .ok d
  | none   => .error (.notFound kind name)

end Lookups

variable {α : Type} [Scalar α]

/-! ## Operations -/

/-- What an operation on the model alone leaves; the index stays as it is. -/
def inside {ρ : Type} (t : IndexedModel α) (o : Outcome α (Model α) ρ) :
    Outcome α (IndexedModel α) ρ :=
  o.mapState fun m => { t with model := m }

/-- What a declaration leaves, with the index that it is entered in if it goes through. -/
def entering {ρ : Type} (t : IndexedModel α) (o : Outcome α (Model α) ρ) (index : Model.Index) :
    Outcome α (IndexedModel α) ρ :=
  (t.inside o).andThen fun t x => .pure { t with index } x

/-- Declare a variable and enter its position, unless its name is taken. -/
def addVariable (t : IndexedModel α) (name : String) (lower upper : Literal α) :
    Outcome α (IndexedModel α) Nat :=
  if t.index.variablePositions.contains name then .fail t (.duplicateName "variable" name)
  else
    let i := t.model.vars.length
    t.entering (t.model.appendVariable name lower upper)
      { t.index with variablePositions := t.index.variablePositions.insert name i }

/-- Declare a constraint and enter its position, unless its name is taken. -/
def addConstraint (t : IndexedModel α) (name : String) (coefficients : Table (Literal α))
    (relation rhs : Literal α) : Outcome α (IndexedModel α) (Constraint α) :=
  if t.index.constraintPositions.contains name then .fail t (.duplicateName "constraint" name)
  else
    let i := t.model.constraints.length
    t.entering (t.model.appendConstraint name coefficients relation rhs)
      { t.index with constraintPositions := t.index.constraintPositions.insert name i }

/-- The coefficients of an expression as a row of cells, one per variable. -/
def row (t : IndexedModel α) (coefficients : Table α) : Except String (List α) :=
  Model.scatter t.index.variablePositions.get? coefficients.entries
    (List.replicate t.model.vars.length 0)

/-- Lower the model, with the rows that the index gives. -/
def lower (t : IndexedModel α) : Outcome α (Model α) (DenseForm α) :=
  t.model.lowered (t.model.denseFormBy t.row)

/-! ## Commands -/

/-- Perform one command. The commands at the end need no name. -/
def perform (t : IndexedModel α) : Command α → Outcome α (IndexedModel α) (Reply α)
  | .addVariable name lower upper          => (t.addVariable name lower upper).map .position
  | .addConstraint name coefs relation rhs =>
    (t.addConstraint name coefs relation rhs).map .constraint
  | .variableIndex name                    =>
    t.inside (t.model.look .position (position t.index.variablePositions "variable" name))
  | .constraintIndex name                  =>
    t.inside (t.model.look .position (position t.index.constraintPositions "constraint" name))
  | .variableNamed name                    =>
    t.inside <| t.model.look .variable <|
      entity t.index.variablePositions t.model.vars "variable" name
  | .constraintNamed name                  =>
    t.inside <| t.model.look .constraint <|
      entity t.index.constraintPositions t.model.constraints "constraint" name
  | .hasVariable name                      =>
    t.inside (t.model.look .truth (.ok (t.index.variablePositions.contains name)))
  | .hasConstraint name                    =>
    t.inside (t.model.look .truth (.ok (t.index.constraintPositions.contains name)))
  | .coefficient constraint name           =>
    t.inside <| t.model.look .number <|
      (entity t.index.constraintPositions t.model.constraints "constraint" constraint).map
        (·.coefficient name)
  | .denseForm                             => t.inside (t.lower.map .form)
  | .inequalities                          =>
    t.inside ((t.lower.map InequalityProgram.ofDense).map .inequalities)
  | .boundedProgram library                =>
    t.inside ((t.lower.andThen (Model.programOf library)).map .boundedProgram)
  | .readPoint point                       =>
    t.inside ((t.lower.andThen (Model.readOver point)).map .point)
  | .solve adapter                         =>
    t.inside ((t.lower.andThen adapter.solveLowered).map .solution)
  | .setObjective coefs direction          =>
    t.inside (t.model.perform (.setObjective coefs direction))
  | .setObjectiveCoefficient name coef     =>
    t.inside (t.model.perform (.setObjectiveCoefficient name coef))
  | .setDirection direction                => t.inside (t.model.perform (.setDirection direction))
  | .build                                 => t.inside (t.model.perform .build)
  | .setPreferred solver                   => t.inside (t.model.perform (.setPreferred solver))
  | .objectiveAt values                    => t.inside (t.model.perform (.objectiveAt values))
  | .check solution tolerance              =>
    t.inside (t.model.perform (.check solution tolerance))

/-- The indexed model after a run of commands. -/
def run (t : IndexedModel α) (commands : List (Command α)) : IndexedModel α :=
  commands.foldl (fun t c => (t.perform c).state) t

end IndexedModel

end LinearDispatch
