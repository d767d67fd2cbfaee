-- SUMMARY: Everything that can be asked of a model, as commands, and runs of commands.
import LinearDispatch.Adapter.Solve

/-!
# Commands on a model

A command asks one thing of a model: a declaration, a change, a lookup, a
lowering, a check or a solve. Performing it leaves the model in the state in
which the next command finds it, whether the command was answered or refused.
A run performs commands one after the other.
-/
namespace LinearDispatch

inductive Command (α : Type) where
  | addVariable (name : String) (lower upper : Literal α)
  | addConstraint (name : String) (coefficients : Table (Literal α)) (relation rhs : Literal α)
  | setObjective (coefficients : Table (Literal α)) (direction : Literal α)
  | setObjectiveCoefficient (name : String) (coefficient : Literal α)
  | setDirection (direction : Literal α)
  | build
  | setPreferred (solver : Literal α)
  | variableIndex (name : String)
  | constraintIndex (name : String)
  | variableNamed (name : String)
  | constraintNamed (name : String)
  | hasVariable (name : String)
  | hasConstraint (name : String)
  | coefficient (constraint name : String)
  | denseForm
  | inequalities
  | boundedProgram (library : Library α)
  | readPoint (point : Option (List (Literal α)))
  | objectiveAt (values : Table α)
  | check (solution : Solution α) (tolerance : α)
  | solve (adapter : Adapter α)

/-- The answer to a command. -/
inductive Reply (α : Type) where
  | done
  | position (index : Nat)
  | truth (b : Bool)
  | preference (solver : Literal α)
  | variable (v : Variable α)
  | constraint (c : Constraint α)
  | number (x : α)
  | form (f : DenseForm α)
  | inequalities (p : InequalityProgram α)
  | boundedProgram (p : Option (BoundedProgram α))
  | point (xs : List α)
  | violations (vs : List (Violation α))
  | solution (s : Solution α)

namespace Model

variable {α : Type} [Scalar α]

/-- A look at the model, which changes nothing. -/
def look {ρ : Type} (m : Model α) (reply : ρ → Reply α) (answer : Except (Error α) ρ) :
    Outcome α (Model α) (Reply α) where
  state := m
  answer := answer.map reply

/-- A point read back over the variables of a lowered model. -/
def readOver (point : Option (List (Literal α))) (m : Model α) (form : DenseForm α) :
    Outcome α (Model α) (List α) :=
  match LinearDispatch.readPoint form.variableNames.length point with
  | .error e => .fail m (.notNumber e)
  | .ok xs   => .pure m xs

/-- Lower the model and read a point back over its variables. -/
def lowerAndRead (m : Model α) (point : Option (List (Literal α))) :
    Outcome α (Model α) (List α) :=
  m.lower.andThen (readOver point)

/-- Perform one command. -/
def perform (m : Model α) : Command α → Outcome α (Model α) (Reply α)
  | .addVariable name lower upper              => (m.addVariable name lower upper).map .position
  | .addConstraint name coefs relation rhs     =>
    (m.addConstraint name coefs relation rhs).map .constraint
  | .setObjective coefs direction              =>
    (m.setObjective coefs direction).map fun _ => .done
  | .setObjectiveCoefficient name coefficient  =>
    (m.setObjectiveCoefficient name coefficient).map fun _ => .done
  | .setDirection direction                    => (m.setDirection direction).map fun _ => .done
  | .build                                     => m.build.map fun _ => .done
  | .setPreferred solver                       => (m.setPreferred solver).map .preference
  | .variableIndex name                        => m.look .position (m.variableIndex name)
  | .constraintIndex name                      => m.look .position (m.constraintIndex name)
  | .variableNamed name                        => m.look .variable (m.variableNamed name)
  | .constraintNamed name                      => m.look .constraint (m.constraintNamed name)
  | .hasVariable name                          => m.look .truth (.ok (m.hasVariable name))
  | .hasConstraint name                        => m.look .truth (.ok (m.hasConstraint name))
  | .coefficient constraint name               =>
    m.look .number ((m.constraintNamed constraint).map (·.coefficient name))
  | .denseForm                                 => m.lower.map .form
  | .inequalities                              => m.inequalities.map .inequalities
  | .boundedProgram library                    => (m.boundedProgram library).map .boundedProgram
  | .readPoint point                           => (m.lowerAndRead point).map .point
  | .objectiveAt values                        => m.look .number (.ok (m.objectiveAt values))
  | .check solution tolerance                  => m.look .violations (m.check solution tolerance)
  | .solve adapter                             => (adapter.solve m).map .solution

/-- The model after a run of commands. -/
def run (m : Model α) (commands : List (Command α)) : Model α :=
  commands.foldl (fun m c => (m.perform c).state) m

/-- The model that a run from a fresh one ends in. -/
def Reachable (m : Model α) : Prop :=
  ∃ (name : String) (preferred : Literal α) (commands : List (Command α)),
    m = Model.run { name, preferred } commands

end Model

end LinearDispatch
