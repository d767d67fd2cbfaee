-- SUMMARY: Linear programs of inequalities only, and the lowering of a dense form to one.
import LinearDispatch.DenseForm

/-!
# Programs of inequalities

The plainest form of a linear program minimises `cost · x` over the `x` with
`normal · x ≤ bound` for every row, and has no bounds of its own. Lowering a
dense form writes each finite bound as a row, negates the rows that bound from
below, splits an equality into two rows, and negates the objective of a
maximisation.

Rows and right-hand sides are two lists, which grow side by side.
-/
namespace LinearDispatch

/-- The points `x` with `normal · x ≤ bound`. -/
structure HalfSpace (α : Type) where
  normal : List α
  bound : α
deriving DecidableEq

/-- Minimise `cost · x` over the points for which no row of the matrix exceeds the bound at the
same position. -/
structure InequalityProgram (α : Type) where
  cost : List α
  matrix : List (List α)
  bounds : List α
deriving DecidableEq

namespace InequalityProgram

/-- The rows with their right-hand sides. -/
def rows {α : Type} (p : InequalityProgram α) : List (HalfSpace α) :=
  List.zipWith HalfSpace.mk p.matrix p.bounds

variable {α : Type} [Scalar α]

/-- The row of `n` cells that is `x` at position `i` and zero elsewhere. -/
def unitRow (n i : Nat) (x : α) : List α :=
  (List.replicate n 0).set i x

/-- Add the bounds of variable `i`: the lower before the upper, infinite ones left out. -/
def addBounds (n : Nat) (p : InequalityProgram α) : (α × α) × Nat → InequalityProgram α
  | ((lower, upper), i) =>
    let p :=
      if Scalar.isFinite lower then
        { p with matrix := p.matrix ++ [unitRow n i (-1)], bounds := p.bounds ++ [-lower] }
      else p
    if Scalar.isFinite upper then
      { p with matrix := p.matrix ++ [unitRow n i 1], bounds := p.bounds ++ [upper] }
    else p

/-- Add a constraint. An equality is added twice, the second time negated. -/
def addConstraint (p : InequalityProgram α) : List α × Relation × α → InequalityProgram α
  | (row, .atMost, rhs) =>
    { p with matrix := p.matrix ++ [row], bounds := p.bounds ++ [rhs] }
  | (row, .atLeast, rhs) =>
    { p with matrix := p.matrix ++ [row.map (- ·)], bounds := p.bounds ++ [-rhs] }
  | (row, .equal, rhs) =>
    { p with matrix := p.matrix ++ [row] ++ [row.map (- ·)],
             bounds := p.bounds ++ [rhs] ++ [-rhs] }

/-- The program of a form before any row is added. -/
def unconstrained (f : DenseForm α) : InequalityProgram α where
  cost := if f.maximize then f.objective.map (- ·) else f.objective
  matrix := []
  bounds := []

/-- The form as a program of inequalities: the bounds in the order of the variables, then the
constraints in theirs. -/
def ofDense (f : DenseForm α) : InequalityProgram α :=
  f.conditions.foldl addConstraint <|
    (List.zip f.lower f.upper).zipIdx.foldl (addBounds f.variableNames.length) (unconstrained f)

end InequalityProgram

end LinearDispatch
