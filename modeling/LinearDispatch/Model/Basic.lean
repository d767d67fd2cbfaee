-- SUMMARY: Models: named variables, named constraints, an objective over names, and their display.
import LinearDispatch.Error
import LinearDispatch.Table

/-!
# Models

A model states a linear program by names. Variables and constraints keep the
order in which they were declared and each has a name of its own; coefficients
refer to variables by name and need not be declared yet. A model that was
finalised is built, until it is changed.
-/
namespace LinearDispatch

/-- A decision variable; `index` is its position in its model, or -1 outside of any. The bounds may
be infinite, and the lower one is not checked against the upper one. -/
structure Variable (α : Type) where
  name : String
  lower : α
  upper : α
  index : Int
deriving DecidableEq

/-- The sum of the coefficients times their variables, in a relation to a right-hand side. -/
structure Constraint (α : Type) where
  name : String
  coefficients : Table α
  relation : Relation
  rhs : α
deriving DecidableEq

structure Model (α : Type) where
  name : String
  vars : List (Variable α) := []
  constraints : List (Constraint α) := []
  objective : Table α := .empty
  direction : Direction := .maximize
  built : Bool := false
  /-- The backend that the model asks for, if any. -/
  preferred : Literal α := .null
deriving DecidableEq

/-! ## Variables -/

namespace Variable

variable {α : Type} [Scalar α]

/-- A variable that is given no lower bound starts at zero. -/
def defaultLower : α :=
  0

/-- A variable that is given no upper bound has none. -/
def defaultUpper : α :=
  Scalar.infinity

/-- A variable outside of any model; what is not given takes its default. -/
def standalone (name : String) (lower upper : Option α) (index : Option Int) : Variable α :=
  ⟨name, lower.getD defaultLower, upper.getD defaultUpper, index.getD (-1)⟩

end Variable

/-! ## Constraints -/

/-- The constraint of values as given: the coefficients are converted first, in their order, and
the right-hand side after them. -/
def Constraint.ofLiterals {α : Type} [Scalar α] (name : String)
    (coefficients : Table (Literal α)) (relation : Relation) (rhs : Literal α) :
    Except ConversionError (Constraint α) :=
  match coefficients.traverse Literal.toScalar with
  | .error e => .error e
  | .ok table =>
    match rhs.toScalar with
    | .error e => .error e
    | .ok b    => .ok ⟨name, table, relation, b⟩

/-- The constraint of values as given, the relation among them: it is read between the coefficients
and the right-hand side. -/
def Constraint.parse {α : Type} [Scalar α] (name : String) (coefficients : Table (Literal α))
    (relation rhs : Literal α) : Except (Error α) (Constraint α) :=
  match coefficients.traverse Literal.toScalar with
  | .error e => .error (.notNumber e)
  | .ok table =>
    match Relation.ofLiteral? relation with
    | none   => .error (.badRelation relation)
    | some r =>
      match rhs.toScalar with
      | .error e => .error (.notNumber e)
      | .ok b    => .ok ⟨name, table, r, b⟩

/-- The coefficient of a variable, zero if it has none. -/
def Constraint.coefficient {α : Type} [Scalar α] (c : Constraint α) (name : String) : α :=
  (c.coefficients.get? name).getD 0

/-! ## Lookups -/

namespace Model

variable {α : Type}

/-- The position of a variable. -/
def variableIndex? (m : Model α) (name : String) : Option Nat :=
  m.vars.findIdx? (·.name == name)

/-- The position of a constraint. -/
def constraintIndex? (m : Model α) (name : String) : Option Nat :=
  m.constraints.findIdx? (·.name == name)

def hasVariable (m : Model α) (name : String) : Bool :=
  (m.variableIndex? name).isSome

def hasConstraint (m : Model α) (name : String) : Bool :=
  (m.constraintIndex? name).isSome

def variableIndex (m : Model α) (name : String) : Except (Error α) Nat :=
  match m.variableIndex? name with
  | some i => .ok i
  | none   => .error (.notFound "variable" name)

def constraintIndex (m : Model α) (name : String) : Except (Error α) Nat :=
  match m.constraintIndex? name with
  | some i => .ok i
  | none   => .error (.notFound "constraint" name)

def variableNamed (m : Model α) (name : String) : Except (Error α) (Variable α) :=
  match m.vars.find? (·.name == name) with
  | some v => .ok v
  | none   => .error (.notFound "variable" name)

def constraintNamed (m : Model α) (name : String) : Except (Error α) (Constraint α) :=
  match m.constraints.find? (·.name == name) with
  | some c => .ok c
  | none   => .error (.notFound "constraint" name)

/-- The names of the variables in their order. -/
def variableNames (m : Model α) : List String :=
  m.vars.map (·.name)

def isMaximize (m : Model α) : Bool :=
  m.direction == .maximize

end Model

/-! ## Display -/

def Variable.text (v : Variable Float) : String :=
  "Variable(" ++ Text.quote v.name ++ ", [" ++ Binary64.shortest v.lower ++ ", "
    ++ Binary64.shortest v.upper ++ "], index=" ++ toString v.index ++ ")"

def Constraint.text (c : Constraint Float) : String :=
  "Constraint(" ++ Text.quote c.name ++ ", rel=" ++ c.relation.label ++ ", rhs="
    ++ Binary64.shortest c.rhs ++ ", coeffs=" ++ c.coefficients.render Binary64.shortest ++ ")"

/-- The model with everything in it, a line for each part. -/
def Model.description (m : Model Float) : String :=
  "\n".intercalate <|
    ["LpModel '" ++ m.name ++ "':", "Variables:"]
      ++ m.vars.map (fun v => "  " ++ v.text)
      ++ ["Constraints:"]
      ++ m.constraints.map (fun c => "  " ++ c.text)
      ++ ["Objective: " ++ m.objective.render Binary64.shortest ++ " direction="
            ++ m.direction.label]

/-- The model in one line. -/
def Model.text (m : Model Float) : String :=
  "LpModel(name=" ++ Text.quote m.name ++ ", vars=" ++ toString m.vars.length
    ++ ", constraints=" ++ toString m.constraints.length ++ ", built="
    ++ (if m.built then "True" else "False") ++ ")"

end LinearDispatch
