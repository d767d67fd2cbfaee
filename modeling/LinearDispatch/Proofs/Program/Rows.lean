-- SUMMARY: The rows of a program of inequalities and their right-hand sides grow side by side, a block for each pair of bounds and for each constraint.
import LinearDispatch.Program.Inequality

/-!
# Rows and right-hand sides

A program keeps its rows and its right-hand sides in two lists, and every
addition writes to both. What one addition appends is a block of half-spaces:
their normals go to the end of one list, their bounds to the end of the other.
So the lists stay aligned, and the rows of the whole program are the blocks one
after another.
-/
namespace LinearDispatch.InequalityProgram

variable {α : Type}

/-! ## Appending a block -/

/-- The program `q` is `p` with the half-spaces of a block at the end of both lists. -/
structure Appends (p : InequalityProgram α) (block : List (HalfSpace α))
    (q : InequalityProgram α) : Prop where
  cost : q.cost = p.cost
  matrix : q.matrix = p.matrix ++ block.map (·.normal)
  bounds : q.bounds = p.bounds ++ block.map (·.bound)

namespace Appends

variable {p q r : InequalityProgram α} {a b : List (HalfSpace α)}

theorem refl (p : InequalityProgram α) : Appends p [] p :=
  ⟨rfl, (List.append_nil _).symm, (List.append_nil _).symm⟩

theorem trans (hp : Appends p a q) (hq : Appends q b r) : Appends p (a ++ b) r where
  cost := hq.cost.trans hp.cost
  matrix := by rw [hq.matrix, hp.matrix, List.map_append, List.append_assoc]
  bounds := by rw [hq.bounds, hp.bounds, List.map_append, List.append_assoc]

/-- Where every step appends the block of its entry, a run appends their blocks in order. -/
theorem foldl {β : Type} {step : InequalityProgram α → β → InequalityProgram α}
    {block : β → List (HalfSpace α)} (hstep : ∀ p x, Appends p (block x) (step p x)) (xs : List β)
    (p : InequalityProgram α) : Appends p (xs.flatMap block) (xs.foldl step p) := by
  induction xs generalizing p with
  | nil => exact .refl p
  | cons x xs ih => exact (hstep p x).trans (ih (step p x))

/-- A program that starts without rows has those of the block, each with its right-hand side. -/
theorem rows_eq (h : Appends p a q) (hmatrix : p.matrix = []) (hbounds : p.bounds = []) :
    q.rows = a := by
  rw [rows, h.matrix, h.bounds, hmatrix, hbounds, List.nil_append, List.nil_append,
    List.zipWith_map, List.zipWith_self]
  exact List.map_id a

end Appends

/-! ## The blocks -/

variable [Scalar α]

/-- The rows of the bounds of variable `i`. -/
def boundRows (n i : Nat) (lower upper : α) : List (HalfSpace α) :=
  (if Scalar.isFinite lower then [⟨unitRow n i (-1), -lower⟩] else [])
    ++ (if Scalar.isFinite upper then [⟨unitRow n i 1, upper⟩] else [])

/-- The half-space on the other side of the same plane. -/
def flipped (row : List α) (rhs : α) : HalfSpace α :=
  ⟨row.map (- ·), -rhs⟩

/-- The rows of a constraint. -/
def constraintRows (row : List α) (relation : Relation) (rhs : α) : List (HalfSpace α) :=
  match relation with
  | .atMost  => [⟨row, rhs⟩]
  | .atLeast => [flipped row rhs]
  | .equal   => [⟨row, rhs⟩, flipped row rhs]

/-- The rows of the bounds of a variable, given with its position. -/
abbrev boundBlock (n : Nat) (e : (α × α) × Nat) : List (HalfSpace α) :=
  boundRows n e.2 e.1.1 e.1.2

/-- The rows of a condition. -/
abbrev conditionBlock (c : List α × Relation × α) : List (HalfSpace α) :=
  constraintRows c.1 c.2.1 c.2.2

theorem appends_addBounds (n : Nat) (p : InequalityProgram α) (e : (α × α) × Nat) :
    Appends p (boundBlock n e) (addBounds n p e) := by
  obtain ⟨⟨lower, upper⟩, i⟩ := e
  simp only [boundBlock, boundRows, addBounds]
  by_cases hlower : Scalar.isFinite lower <;> by_cases hupper : Scalar.isFinite upper <;>
    constructor <;> simp [hlower, hupper]

theorem appends_addConstraint (p : InequalityProgram α) (c : List α × Relation × α) :
    Appends p (conditionBlock c) (addConstraint p c) := by
  obtain ⟨row, relation, rhs⟩ := c
  cases relation with
  | atMost => exact ⟨rfl, rfl, rfl⟩
  | atLeast => exact ⟨rfl, rfl, rfl⟩
  | equal => exact ⟨rfl, List.append_assoc .., List.append_assoc ..⟩

/-! ## The program of a form -/

/-- The blocks of a form: those of the bounds, and then those of the constraints. -/
def blocks (f : DenseForm α) : List (HalfSpace α) :=
  (List.zip f.lower f.upper).zipIdx.flatMap (boundBlock f.variableNames.length)
    ++ f.conditions.flatMap conditionBlock

theorem appends_ofDense (f : DenseForm α) : Appends (unconstrained f) (blocks f) (ofDense f) :=
  (Appends.foldl (appends_addBounds _) _ _).trans (Appends.foldl appends_addConstraint _ _)

theorem cost_ofDense (f : DenseForm α) :
    (ofDense f).cost = if f.maximize then f.objective.map (- ·) else f.objective :=
  (appends_ofDense f).cost

theorem rows_ofDense (f : DenseForm α) : (ofDense f).rows = blocks f :=
  (appends_ofDense f).rows_eq rfl rfl

/-- The matrix holds the normals of the rows, none lost for want of a right-hand side. -/
theorem matrix_ofDense (f : DenseForm α) :
    (ofDense f).matrix = (ofDense f).rows.map (·.normal) := by
  rw [rows_ofDense]
  exact (appends_ofDense f).matrix

theorem bounds_ofDense (f : DenseForm α) : (ofDense f).bounds = (ofDense f).rows.map (·.bound) := by
  rw [rows_ofDense]
  exact (appends_ofDense f).bounds

end LinearDispatch.InequalityProgram
