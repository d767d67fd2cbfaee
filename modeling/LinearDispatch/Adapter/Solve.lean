-- SUMMARY: Solving a model with an adapter: the attempt of its backend, the point read back by position, and the solution.
import LinearDispatch.Adapter.Basic
import LinearDispatch.Model.Lowering

/-!
# Solving

Solving lowers the model, lets the backend attempt the form, and turns what it
answers into a solution. An engine that raises, a form that has no program and
a status other than optimal all end in the same way, a solution without
values; the status tells them apart. The objective of a solution is always
computed from its values, whatever the engine claimed.
-/
namespace LinearDispatch

/-- What a backend made of a form, with its events and its calls of the engine. -/
structure Attempt (α : Type) where
  result : Except String (Answer α)
  events : List (Event α) := []
  calls : List (EngineCall α) := []

/-- The entries that are finite numbers, zero for the others. -/
def finiteEntries {α : Type} [Scalar α] : List (Literal α) → Except ConversionError (List α)
  | [] => .ok []
  | v :: rest =>
    match v.finiteOrZero with
    | .error e => .error e
    | .ok x    => (finiteEntries rest).map (x :: ·)

/-- A point read back in declared order over `n` variables: zeros are added at its end, and what is
beyond the last variable is dropped. -/
def readPoint {α : Type} [Scalar α] (n : Nat) (point : Option (List (Literal α))) :
    Except ConversionError (List α) :=
  (finiteEntries ((point.getD []).take n)).map fun xs => xs ++ List.replicate (n - xs.length) 0

namespace BoundedProgram

variable {α : Type} [Scalar α]

/-- The values of all variables of the form, by what the engine reports on those it saw; the
others rest. -/
def completePoint (seen : List Nat) (f : DenseForm α) (values : List (Nat × α)) :
    List (Literal α) :=
  (List.zip f.lower f.upper).zipIdx.map fun ((lower, upper), i) =>
    .real ((if i ∈ seen then values.lookup i else none).getD (restingValue lower upper))

end BoundedProgram

namespace Adapter

variable {α : Type} [Scalar α]

/-- Let an engine for programs of inequalities attempt the form. -/
def attemptInequality (engine : InequalityEngine α) (method : String) (iterations : Int)
    (f : DenseForm α) : Attempt α :=
  let program := InequalityProgram.ofDense f
  { result :=
      match engine program method iterations with
      | .error text => .error text
      | .ok report  =>
        .ok ⟨report.point.map (·.map Literal.real), Status.ofInequality report⟩
    calls := [.inequality program method iterations] }

/-- Let an engine for programs with native bounds attempt the form. It is not asked about a form
that is infeasible as stated, nor where the library finds no variable. -/
def attemptBounded (library : Library α) (engine : BoundedEngine α) (timeLimit : Literal α)
    (iterations : Int) (f : DenseForm α) : Attempt α :=
  match BoundedProgram.ofDense library f with
  | .error (.contradiction why) =>
    { result := .ok ⟨none, .infeasible⟩, events := [.contradiction why] }
  | .error (.refusal text)      => { result := .error text }
  | .ok program =>
    let seen := library.found program
    if seen.isEmpty then
      { result := .ok ⟨some (BoundedProgram.completePoint seen f []), .optimal⟩ }
    else
      let calls := [.bounded program timeLimit iterations]
      match engine program timeLimit iterations with
      | .error text => { result := .error text, calls }
      | .ok report  =>
        let status := Status.ofBounded report
        { result :=
            .ok ⟨if status = .optimal then
                some (BoundedProgram.completePoint seen f report.values) else none, status⟩
          events := [.engineFinished report.status report.solution]
          calls }

/-- Let the adapter's backend attempt the form. -/
def attempt (a : Adapter α) (f : DenseForm α) : Attempt α :=
  match a.backend with
  | .inequality engine method          => attemptInequality engine method a.iterations f
  | .bounded library engine timeLimit  => attemptBounded library engine timeLimit a.iterations f
  | .custom _ answer                   => { result := answer f }

/-- A form without variables is solved by the empty point if its constant rows hold. -/
def solveTrivial (a : Adapter α) (f : DenseForm α) : Solution α :=
  if f.constantRows.all (·.2) then
    { values := .empty, objective := 0, feasible := true, status := .optimal, backend := a.name }
  else .infeasible [] .infeasible a.name

/-- The solution at an optimal point. -/
def solutionAt (a : Adapter α) (f : DenseForm α) (values : List α) : Solution α where
  values := .ofList (List.zip f.variableNames values)
  objective := a.inner f.objective values
  feasible := true
  status := .optimal
  backend := a.name

/-- The solution of a form with variables, and what is reported on the way. `model` is the name of
the model that the form comes from. -/
def solveForm (a : Adapter α) (model : String) (f : DenseForm α) :
    Except (Error α) (Solution α) × List (Event α) × List (EngineCall α) :=
  let t := a.attempt f
  match t.result with
  | .error text =>
    (.ok (.infeasible f.variableNames .error a.name), t.events ++ [.engineFailed a.name model text],
      t.calls)
  | .ok answer =>
    if answer.status ≠ .optimal then
      (.ok (.infeasible f.variableNames answer.status a.name),
        t.events ++ [.unsolved a.name model answer.status], t.calls)
    else
      match readPoint f.variableNames.length answer.point with
      | .error e   => (.error (.notNumber e), t.events, t.calls)
      | .ok values =>
        let s := a.solutionAt f values
        (.ok s, t.events ++ [.optimum a.name s.objective], t.calls)

/-- Solve a model that was lowered to the form. -/
def solveLowered (a : Adapter α) (m : Model α) (f : DenseForm α) :
    Outcome α (Model α) (Solution α) :=
  let opening := [.solving a.name f.outline]
  if f.variableNames.isEmpty then
    { state := m, answer := .ok (a.solveTrivial f), events := opening }
  else
    let (answer, events, calls) := a.solveForm m.name f
    { state := m, answer, events := opening ++ events, calls }

/-- Solve a model, which is lowered and thereby built first. -/
def solve (a : Adapter α) (m : Model α) : Outcome α (Model α) (Solution α) :=
  m.lower.andThen a.solveLowered

/-- Solve a model that may be missing. -/
def solve? (a : Adapter α) (m : Option (Model α)) : Except (Error α) (Solution α) :=
  match m with
  | none   => .error (.invalidModel (.missing a.kind))
  | some m => (a.solve m).answer

end Adapter

end LinearDispatch
