-- SUMMARY: The status of a solve and the solution that every backend answers with.
import LinearDispatch.Number.Rounded
import LinearDispatch.Number.Scalar
import LinearDispatch.Table

/-!
# Solutions

A solution gives each variable a value in declared order. When there is none,
whatever the cause, all values are zero and the objective is no number; the
status then hints at the cause. Five statuses are the library's own, and a
custom backend may report others.
-/
namespace LinearDispatch

/-- The status of a solve, known by its label. -/
structure Status where
  label : String
deriving DecidableEq, Repr

namespace Status

def optimal : Status := ⟨"optimal"⟩
def infeasible : Status := ⟨"infeasible"⟩
def unbounded : Status := ⟨"unbounded"⟩
def iterationLimit : Status := ⟨"iteration_limit"⟩
def error : Status := ⟨"error"⟩

end Status

structure Solution (α : Type) where
  values : Table α
  objective : α
  feasible : Bool
  status : Status
  backend : String

namespace Solution

variable {α : Type}

/-- The solution of a solve that found none. -/
def infeasible [Scalar α] (names : List String) (status : Status) (backend : String) :
    Solution α where
  values := .ofList (names.map fun name => (name, 0))
  objective := Scalar.notANumber
  feasible := false
  status := status
  backend := backend

/-- The value of a name, zero if it has none. -/
def valueOf [Scalar α] (values : Table α) (name : String) : α :=
  (values.get? name).getD 0

/-- Whether two tables give the same names equal numbers, in whatever order. -/
def sameValues [Scalar α] (s t : Table α) : Bool :=
  s.entries.length == t.entries.length
    && s.entries.all fun (name, x) => (t.get? name).any (Scalar.eq x)

/-- Equal in every part; a solution without a number for an objective equals none. -/
def equals [Scalar α] (s t : Solution α) : Bool :=
  sameValues s.values t.values && Scalar.eq s.objective t.objective && s.feasible == t.feasible
    && s.status == t.status && s.backend == t.backend

/-- The solution with all its parts in one line. -/
def text (s : Solution Float) : String :=
  "Solution(backend=" ++ (if s.backend = "" then "?" else s.backend)
    ++ ", status=" ++ s.status.label
    ++ ", feasible=" ++ (if s.feasible then "True" else "False")
    ++ ", obj=" ++ Binary64.brief s.objective
    ++ ", values=" ++ s.values.render Binary64.shortest ++ ")"

/-- The solution in brief: its backend, its status, and what was found. -/
def summary (s : Solution Float) : String :=
  let head := "[" ++ s.backend ++ "] " ++ s.status.label ++ ": "
  if s.feasible then
    head ++ "objective=" ++ Binary64.brief s.objective ++ " ("
      ++ ", ".intercalate (s.values.entries.map fun (name, x) => name ++ "=" ++ Binary64.brief x)
      ++ ")"
  else head ++ "no solution"

end Solution

end LinearDispatch
