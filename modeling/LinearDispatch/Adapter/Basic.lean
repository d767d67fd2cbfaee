-- SUMMARY: Backends, the engines behind them, their raw reports and verdicts, and adapters with their limits.
import LinearDispatch.Outcome

/-!
# Adapters

An adapter solves models through one backend. Two backends hand the problem to
an engine: one takes a program of inequalities, the other a program with native
bounds. An engine is a function from the problem to a raw report, and may raise
instead. A custom backend answers the dense form by itself.

A status is read off a raw report. Only a report that claims a proven optimum
counts as optimal.
-/
namespace LinearDispatch

/-! ## Engines -/

/-- What an engine for programs of inequalities reports. -/
structure InequalityReport (α : Type) where
  status : Int
  success : Bool
  message : Option String
  point : Option (List α)
deriving DecidableEq

/-- What an engine for programs with native bounds reports: the code of its verdict, the code of
what it found, and values by the position of the variable. -/
structure BoundedReport (α : Type) where
  status : Int
  solution : Int
  values : List (Nat × α)
deriving DecidableEq

/-- An engine gets the program, the method's name and the iteration limit. -/
abbrev InequalityEngine (α : Type) :=
  InequalityProgram α → String → Int → Except String (InequalityReport α)

/-- An engine gets the program, the time limit and the iteration limit. -/
abbrev BoundedEngine (α : Type) :=
  BoundedProgram α → Literal α → Int → Except String (BoundedReport α)

/-- A backend's answer to a form: a point in declared order, if there is one, and a status. -/
structure Answer (α : Type) where
  point : Option (List (Literal α))
  status : Status
deriving DecidableEq

/-! ## Verdicts -/

/-- Whether a word occurs in a text. -/
def occursIn (word : List Char) : List Char → Bool
  | []     => word.isEmpty
  | c :: s => word.isPrefixOf (c :: s) || occursIn word s

namespace Status

/-- The status behind a flag of success and a message. -/
def ofMessage (success : Bool) (message : Option String) : Status :=
  if success then .optimal
  else
    let low := (Text.lower (message.getD "")).toList
    if occursIn "infeasible".toList low then .infeasible
    else if occursIn "unbounded".toList low then .unbounded
    else if occursIn "iteration".toList low || occursIn "limit".toList low
        || occursIn "not solved".toList low then .iterationLimit
    else .error

/-- The status of a report on a program of inequalities. An unknown code leaves the decision to
the flag and the message; the code of an optimum counts only together with success. -/
def ofInequality {α : Type} (r : InequalityReport α) : Status :=
  if r.status = 0 then (if r.success then .optimal else .error)
  else if r.status = 1 then .iterationLimit
  else if r.status = 2 then .infeasible
  else if r.status = 3 then .unbounded
  else if r.status = 4 then .error
  else ofMessage r.success r.message

/-- The status of a report on a program with native bounds. A run that stopped on its limit also
calls itself optimal; only what it found tells a proven optimum from the last point reached. -/
def ofBounded {α : Type} (r : BoundedReport α) : Status :=
  if r.status = 1 then
    if r.solution = 1 then .optimal
    else if r.solution = 2 || r.solution = 0 then .iterationLimit
    else if r.solution = -1 then .infeasible
    else if r.solution = -2 then .unbounded
    else .error
  else if r.status = 0 then .iterationLimit
  else if r.status = -1 then .infeasible
  else if r.status = -2 then .unbounded
  else .error

end Status

/-! ## Backends -/

inductive Backend (α : Type) where
  | inequality (engine : InequalityEngine α) (method : String)
  | bounded (library : Library α) (engine : BoundedEngine α) (timeLimit : Literal α)
  /-- `kind` is what such backends are called. -/
  | custom (kind : String) (answer : DenseForm α → Except String (Answer α))

structure Adapter (α : Type) where
  name : String
  backend : Backend α
  /-- How many iterations the engine may take. -/
  iterations : Int
  /-- What the objective of a solution is computed with. -/
  inner : InnerProduct α

namespace Adapter

variable {α : Type}

/-! ## Limits -/

/-- The limit of an adapter that is given none. -/
def defaultIterations : Literal α :=
  .int 10000

/-- A limit as given: it must be positive, and loses its fraction after that. -/
def readLimit [Scalar α] (v : Literal α) : Except (LimitFault α) Int :=
  match v with
  | .int n  => if n ≤ 0 then .error (.notPositive v) else .ok n
  | .bool b => if b then .ok 1 else .error (.notPositive v)
  | .real x =>
    if Scalar.le x 0 then .error (.notPositive v)
    else
      match Scalar.toRat? x with
      | some q => .ok (Int.fdiv q.num q.den)
      | none   => .error (if Scalar.isNaN x then .notNumber else .infinite)
  | _       => .error (.notComparable v)

/-- An adapter with a limit as given. -/
def withLimit [Scalar α] (name : String) (backend : Backend α) (limit : Literal α)
    (inner : InnerProduct α) : Except (Error α) (Adapter α) :=
  match readLimit limit with
  | .error fault   => .error (.badLimit fault)
  | .ok iterations => .ok ⟨name, backend, iterations, inner⟩

/-- The name of the backend of inequalities. -/
def inequalityName : String := "scipy"

/-- The name of the backend of native bounds. -/
def boundedName : String := "pulp"

/-- The method of an inequality backend that is given none. -/
def defaultMethod : String := "highs"

/-! ## Display -/

/-- What the adapter's kind is called. -/
def kind (a : Adapter α) : String :=
  match a.backend with
  | .inequality .. => "ScipySolver"
  | .bounded ..    => "PulpSolver"
  | .custom kind _ => kind

/-- The adapter in one line. -/
def text (a : Adapter α) : String :=
  a.kind ++ "(max_iterations=" ++ toString a.iterations ++ ")"

/-- The method handed to the engine, of adapters that have one. -/
def method? (a : Adapter α) : Option String :=
  match a.backend with
  | .inequality _ method => some method
  | _                    => none

/-- The time limit handed to the engine, null for adapters that have none. -/
def timeLimit (a : Adapter α) : Literal α :=
  match a.backend with
  | .bounded _ _ limit => limit
  | _                  => .null

end Adapter

end LinearDispatch
