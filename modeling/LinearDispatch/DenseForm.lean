-- SUMMARY: A linear program without names in its rows: cells indexed by the order of declaration, the check of its dimensions, and its constant rows.
import LinearDispatch.Relation

/-!
# Dense forms

A dense form is a linear program whose variables and constraints are known by
position:

    opt  objective · x
    s.t. rows[k] · x  relations[k]  rhs[k]
         lower ≤ x ≤ upper

Every lowering to an engine starts from it. Its parts fit together when each
has one entry per variable or per constraint.
-/
namespace LinearDispatch

structure DenseForm (α : Type) where
  variableNames : List String
  objective : List α
  lower : List α
  upper : List α
  rows : List (List α)
  relations : List Relation
  rhs : List α
  maximize : Bool
  constraintNames : List String
deriving DecidableEq

/-- The part of a dense form that has the wrong number of entries. -/
inductive ShapeFault where
  | objective
  | lower
  | upper
  | rows
  | rhs
deriving DecidableEq, Repr

def ShapeFault.message : ShapeFault → String
  | .objective => "objective must have one entry per variable"
  | .lower     => "lower_bounds must have one entry per variable"
  | .upper     => "upper_bounds must have one entry per variable"
  | .rows      => "rows must be (constraints x variables)"
  | .rhs       => "rhs must have one entry per constraint"

/-- The sense and the size of a form, as messages show it. -/
structure Outline where
  maximize : Bool
  variableCount : Nat
  constraintCount : Nat
deriving DecidableEq, Repr

def Outline.text (o : Outline) : String :=
  "DenseForm(" ++ (if o.maximize then "max" else "min") ++ ", vars=" ++ toString o.variableCount
    ++ ", rows=" ++ toString o.constraintCount ++ ")"

namespace DenseForm

variable {α : Type}

def outline (f : DenseForm α) : Outline where
  maximize := f.maximize
  variableCount := f.variableNames.length
  constraintCount := f.relations.length

/-- The first part that does not fit the variables and the relations. -/
def shapeFault? (f : DenseForm α) : Option ShapeFault :=
  let n := f.variableNames.length
  let m := f.relations.length
  if f.objective.length ≠ n then some .objective
  else if f.lower.length ≠ n then some .lower
  else if f.upper.length ≠ n then some .upper
  else if f.rows.length ≠ m || f.rows.any (fun row => row.length ≠ n) then some .rows
  else if f.rhs.length ≠ m then some .rhs
  else none

/-- The form itself if its parts fit. -/
def checked (f : DenseForm α) : Except ShapeFault (DenseForm α) :=
  match f.shapeFault? with
  | some fault => .error fault
  | none       => .ok f

/-- The rows with their relations and right-hand sides. -/
def conditions (f : DenseForm α) : List (List α × Relation × α) :=
  List.zip f.rows (List.zip f.relations f.rhs)

variable [Scalar α]

/-- Whether no coefficient of a row differs from zero. -/
def isConstant (row : List α) : Bool :=
  !row.any Scalar.isNonzero

/-- The positions of the constant rows, each with whether zero satisfies it. -/
def constantRows (f : DenseForm α) : List (Nat × Bool) :=
  f.conditions.zipIdx.filterMap fun ((row, relation, rhs), k) =>
    if isConstant row then some (k, relation.holds 0 rhs 0) else none

end DenseForm

end LinearDispatch
