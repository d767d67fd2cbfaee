-- SUMMARY: Evaluating a model's expressions at named values, and the list of everything in which a solution violates its model.
import LinearDispatch.Model.Basic
import LinearDispatch.Solution

/-!
# Checking a solution

The check compares a solution with the model it was computed for: every
variable has a value, every value lies between its bounds, every constraint
holds, and the objective is the one reported, each up to a tolerance. What a
solution does not mention counts as zero.
-/
namespace LinearDispatch

/-- A way in which a solution disagrees with its model. -/
inductive Violation (α : Type) where
  | unsolved (status : Status)
  | missingValues (names : List String)
  | belowLower (name : String) (value bound : α)
  | aboveUpper (name : String) (value bound : α)
  | broken (name : String) (lhs : α) (relation : Relation) (rhs : α)
  | objectiveMismatch (reported recomputed : α)
deriving DecidableEq

def Violation.message : Violation Float → String
  | .unsolved status                       =>
    "Cannot validate infeasible solution (status: " ++ status.label ++ ")"
  | .missingValues names                   =>
    "Missing values for variables: " ++ ", ".intercalate names
  | .belowLower name value bound           =>
    "Variable " ++ name ++ " = " ++ Binary64.brief value ++ " below lower bound "
      ++ Binary64.brief bound
  | .aboveUpper name value bound           =>
    "Variable " ++ name ++ " = " ++ Binary64.brief value ++ " above upper bound "
      ++ Binary64.brief bound
  | .broken name lhs relation rhs          =>
    "Constraint " ++ name ++ " violated: " ++ Binary64.brief lhs ++ " " ++ relation.symbol ++ " "
      ++ Binary64.brief rhs
  | .objectiveMismatch reported recomputed =>
    "Objective mismatch: reported " ++ Binary64.brief reported ++ ", recomputed "
      ++ Binary64.brief recomputed

namespace Model

variable {α : Type} [Scalar α]

/-- The sum of the coefficients times the values of their names. -/
def evaluate (coefficients values : Table α) : α :=
  Scalar.sum (coefficients.entries.map fun (name, x) => x * Solution.valueOf values name)

/-- The objective at named values. -/
def objectiveAt (m : Model α) (values : Table α) : α :=
  evaluate m.objective values

/-- The variables without a value. -/
def missingNames (m : Model α) (values : Table α) : List String :=
  m.variableNames.filter fun name => !values.contains name

/-- The bounds of a variable that its value violates. -/
def boundViolations (v : Variable α) (values : Table α) (tolerance : α) : List (Violation α) :=
  let value := Solution.valueOf values v.name
  (if Scalar.lt value (v.lower - tolerance) then [.belowLower v.name value v.lower] else [])
    ++ (if Scalar.lt (v.upper + tolerance) value then [.aboveUpper v.name value v.upper] else [])

/-- The violation of a constraint, if it does not hold. -/
def constraintViolations (c : Constraint α) (values : Table α) (tolerance : α) :
    List (Violation α) :=
  let lhs := evaluate c.coefficients values
  if c.relation.holds lhs c.rhs tolerance then [] else [.broken c.name lhs c.relation c.rhs]

/-- The violation of the objective, if the reported one is not close to the one of the values. -/
def objectiveViolations (m : Model α) (s : Solution α) (tolerance : α) : List (Violation α) :=
  let recomputed := m.objectiveAt s.values
  if Scalar.isClose tolerance recomputed s.objective then []
  else [.objectiveMismatch s.objective recomputed]

/-- Everything in which a solution violates the model: missing values, then bounds, constraints and
objective, in declared order. A solution that found nothing cannot be checked. -/
def violations (m : Model α) (s : Solution α) (tolerance : α) : List (Violation α) :=
  if s.feasible then
    (match m.missingNames s.values with
      | []            => []
      | name :: names => [.missingValues (name :: names)])
      ++ m.vars.flatMap (boundViolations · s.values tolerance)
      ++ m.constraints.flatMap (constraintViolations · s.values tolerance)
      ++ m.objectiveViolations s tolerance
  else [.unsolved s.status]

/-- The violations of a solution. A tolerance below zero is refused, once there is something to
compare. -/
def check (m : Model α) (s : Solution α) (tolerance : α) : Except (Error α) (List (Violation α)) :=
  if s.feasible && Scalar.lt tolerance 0 then .error .negativeTolerance
  else .ok (m.violations s tolerance)

end Model

end LinearDispatch
