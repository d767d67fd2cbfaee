-- SUMMARY: Lowering a model to a dense form and from there to the programs of the engines.
import LinearDispatch.Model.Edit

/-!
# Lowering

Lowering writes every coefficient into the cell of its variable. A name that
was never declared is refused: the names of the objective are looked at first,
then those of the constraints in their order. A model that is lowered is built;
one that is refused keeps its mark.
-/
namespace LinearDispatch.Model

variable {α : Type} [Scalar α]

/-- Write each entry into the cell that `position` gives for its name, or name the first entry
that has none. -/
def scatter (position : String → Option Nat) :
    List (String × α) → List α → Except String (List α)
  | [], cells => .ok cells
  | (name, x) :: rest, cells =>
    match position name with
    | none   => .error name
    | some j => scatter position rest (cells.set j x)

/-- The coefficients of an expression as a row of cells, one per variable. -/
def row (m : Model α) (coefficients : Table α) : Except String (List α) :=
  scatter m.variableIndex? coefficients.entries (List.replicate m.vars.length 0)

/-- The rows of constraints, or the first constraint with an unknown name and that name. `row` gives
the row of an expression, or the first name in it that is unknown. -/
def rowsOf (row : Table α → Except String (List α)) :
    List (Constraint α) → Except (String × String) (List (List α))
  | [] => .ok []
  | c :: rest =>
    match row c.coefficients with
    | .error name => .error (c.name, name)
    | .ok cells   => (rowsOf row rest).map (cells :: ·)

/-- The dense form of the model, made of the rows that `row` gives. -/
def denseFormBy (m : Model α) (row : Table α → Except String (List α)) :
    Except (Error α) (DenseForm α) :=
  match row m.objective with
  | .error name    => .error (.invalidModel (.objectiveUnknown name m.name))
  | .ok objective =>
    match rowsOf row m.constraints with
    | .error (constraint, name) => .error (.invalidModel (.constraintUnknown constraint name))
    | .ok rows =>
      let form : DenseForm α :=
        { variableNames := m.variableNames
          objective := objective
          lower := m.vars.map (·.lower)
          upper := m.vars.map (·.upper)
          rows := rows
          relations := m.constraints.map (·.relation)
          rhs := m.constraints.map (·.rhs)
          maximize := m.isMaximize
          constraintNames := m.constraints.map (·.name) }
      match form.checked with
      | .error fault => .error (.badShape fault)
      | .ok form     => .ok form

/-- The dense form of the model. -/
def denseForm (m : Model α) : Except (Error α) (DenseForm α) :=
  m.denseFormBy m.row

/-- The model lowered to a form, which builds it, or refused. -/
def lowered (m : Model α) : Except (Error α) (DenseForm α) → Outcome α (Model α) (DenseForm α)
  | .error e => .fail m e
  | .ok form =>
    { state := { m with built := true }
      answer := .ok form
      events := m.buildEvents ++ [.lowered m.name form.outline] }

/-- Lower the model, and build it if that succeeds. -/
def lower (m : Model α) : Outcome α (Model α) (DenseForm α) :=
  m.lowered m.denseForm

/-- Lower the model to a program of inequalities. -/
def inequalities (m : Model α) : Outcome α (Model α) (InequalityProgram α) :=
  m.lower.map InequalityProgram.ofDense

/-- The program with native bounds of a lowered model; there is none if the form is infeasible as
stated. -/
def programOf (library : Library α) (m : Model α) (form : DenseForm α) :
    Outcome α (Model α) (Option (BoundedProgram α)) :=
  match BoundedProgram.ofDense library form with
  | .ok program                 => .pure m (some program)
  | .error (.refusal text)      => .fail m (.badProgram text)
  | .error (.contradiction why) =>
    { state := m, answer := .ok none, events := [.contradiction why] }

/-- Lower the model to a program with native bounds. -/
def boundedProgram (m : Model α) (library : Library α) :
    Outcome α (Model α) (Option (BoundedProgram α)) :=
  m.lower.andThen (programOf library)

end LinearDispatch.Model
