-- SUMMARY: The engines that really solve: exact simplex runs behind both kinds of program, and their reports.
import LinearDispatch.Adapter.Basic
import LinearDispatch.Simplex.Solve

/-!
# Exact engines

Both engines read their program as rationals, minimise it exactly, and report
the point in the scalars of the program, each coordinate rounded once. The
engine for inequalities refuses numbers that are not finite, and its zeros are
negative ones where a row decided them. The other engine leaves refusals to the
library before it.
-/
namespace LinearDispatch.Engine

variable {α : Type} [Scalar α]

/-- A list of finite numbers as rationals. -/
def rationals? : List α → Option (List Rat)
  | [] => some []
  | x :: rest =>
    match Scalar.toRat? x, rationals? rest with
    | some q, some qs => some (q :: qs)
    | _,      _       => none

/-- Rows of finite numbers as rationals. -/
def rationalRows? : List (List α) → Option (List (List Rat))
  | [] => some []
  | row :: rest =>
    match rationals? row, rationalRows? rest with
    | some q, some qs => some (q :: qs)
    | _,      _       => none

/-- What is said of a part of a program that is not finite. -/
def refusal (part : String) : String :=
  "Invalid input for linprog: " ++ part ++ " must not contain values inf, nan, or None"

/-- A point in the scalars of the program. Where there are rows, each coordinate is rounded as the
negative of what the rows leave over, so that a zero becomes a negative zero; without rows it
stays as it is. -/
def reported (p : InequalityProgram α) (x : List Rat) : List α :=
  if p.matrix.isEmpty then x.map Scalar.ofRat else x.map fun q => -Scalar.ofRat (-q)

/-- Minimise a program of inequalities. -/
def inequality : InequalityEngine α := fun p _ iterations =>
  match rationals? p.cost with
  | none      => .error (refusal "c")
  | some cost =>
    match rationalRows? p.matrix with
    | none         => .error (refusal "A_ub")
    | some normals =>
      match rationals? p.bounds with
      | none        => .error (refusal "b_ub")
      | some bounds =>
        .ok <|
          match Simplex.solve iterations.toNat (.ofInequalities cost (List.zip normals bounds)) with
          | .optimal x  => ⟨0, true, none, some (reported p x)⟩
          | .stopped    => ⟨1, false, none, none⟩
          | .infeasible => ⟨2, false, none, none⟩
          | .unbounded  => ⟨3, false, none, none⟩

/-- A library that takes finite numbers only. An infinite bound never gets to it. -/
def library : Library α where
  boundsRefusal lower upper :=
    if !lower.all Scalar.isFinite then some "The lower bound of a variable must be finite, got nan"
    else if !upper.all Scalar.isFinite then
      some "The upper bound of a variable must be finite, got nan"
    else none
  coefficientRefusal x :=
    if Scalar.isFinite x then none else some "Cannot multiply variables with NaN/inf values"
  rhsRefusal x :=
    if Scalar.isFinite x then none else some "Cannot set constraint RHS to NaN/inf values"
  found := BoundedProgram.used

/-- Non-zero coefficients as a row of `n` rationals. -/
def spread (n : Nat) (terms : List (Nat × α)) : List Rat :=
  terms.foldl (fun cells (j, x) => cells.set j ((Scalar.toRat? x).getD 0)) (List.replicate n 0)

/-- A constraint as a condition on `n` variables. -/
def condition (n : Nat) (r : NativeRow α) : Simplex.Condition :=
  let cells := spread n r.terms
  let rhs := (Scalar.toRat? r.rhs).getD 0
  match r.relation with
  | .atMost  => ⟨cells, false, rhs⟩
  | .atLeast => ⟨cells.map (- ·), false, -rhs⟩
  | .equal   => ⟨cells, true, rhs⟩

/-- A program with native bounds as a problem. -/
def problem (p : BoundedProgram α) : Simplex.Problem :=
  let n := p.bounds.length
  let objective := spread n p.objective
  { cost := if p.maximize then objective.map (- ·) else objective
    bounds := p.bounds.map fun (low, up) => (low.bind Scalar.toRat?, up.bind Scalar.toRat?)
    conditions := p.rows.map (condition n) }

/-- Optimise a program with native bounds. -/
def bounded : BoundedEngine α := fun p _ iterations =>
  .ok <|
    match Simplex.solve iterations.toNat (problem p) with
    | .optimal x  => ⟨1, 1, x.zipIdx.map fun (q, i) => (i, Scalar.ofRat q)⟩
    | .stopped    => ⟨1, 2, []⟩
    | .infeasible => ⟨-1, -1, []⟩
    | .unbounded  => ⟨-2, -2, []⟩

end LinearDispatch.Engine
