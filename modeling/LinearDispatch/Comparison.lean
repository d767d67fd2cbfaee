-- SUMMARY: Solving a model with every built-in backend and comparing the objectives.
import LinearDispatch.Selection

/-!
# Comparison

The built-in backends agree on a model when their objectives are close to the
first one's. An objective that is no number is close to none, not even to
itself, so backends that found nothing do not agree.
-/
namespace LinearDispatch

/-- The solutions of the backends in the order in which they were asked, and whether they agree. -/
structure Comparison (α : Type) where
  solutions : List (String × Solution α)
  agree : Bool

namespace Comparison

variable {α : Type} [Scalar α]

/-- The objectives by the names of the backends. -/
def objectives (solutions : List (String × Solution α)) : List (String × α) :=
  solutions.map fun (name, s) => (name, s.objective)

/-- Whether all numbers are close to the first. -/
def allClose : List α → Bool
  | []        => true
  | x :: rest => (x :: rest).all fun y => Scalar.isClose Scalar.millionth y x

/-- Solve the model with the backend of a name. -/
def solveWith (r : Registry (Factory α)) (m : Model α) (name : String) :
    Outcome α (Model α) (Solution α) :=
  match r.create (.text name) with
  | .error e    => .fail m e
  | .ok adapter => adapter.solve m

/-- Solve the model with one backend after the other. -/
def solveEach (r : Registry (Factory α)) :
    List String → Model α → Outcome α (Model α) (List (String × Solution α))
  | [], m => .pure m []
  | name :: rest, m =>
    (solveWith r m name).andThen fun m s => (solveEach r rest m).map ((name, s) :: ·)

/-- Solve the model with every built-in backend, and say whether they agree. -/
def run (r : Registry (Factory α)) (m : Model α) : Outcome α (Model α) (Comparison α) :=
  (solveEach r builtinNames m).andThen fun m solutions =>
    let found := objectives solutions
    let agree := allClose (found.map (·.2))
    { state := m
      answer := .ok ⟨solutions, agree⟩
      events := if agree then [] else [.disagreement found] }

end Comparison

/-- A line per solution. -/
def Comparison.text (c : Comparison Float) : String :=
  String.join (c.solutions.map fun (_, s) => s.summary ++ "\n")

end LinearDispatch
