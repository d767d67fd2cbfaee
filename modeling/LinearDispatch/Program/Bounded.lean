-- SUMMARY: Linear programs with native bounds, relations and sense, and the lowering of a dense form to one.
import LinearDispatch.DenseForm

/-!
# Programs with native bounds

An engine of this kind takes bounds, equalities and the sense as they are, and
only sees the coefficients that differ from zero. Lowering settles by itself
what such an engine would never see: crossed bounds and constant rows. If one
of them cannot be satisfied the form has no program, and is infeasible as
stated. A program is put together through a modelling library, which may refuse
numbers that it is given, and tells which variables the engine will see.
-/
namespace LinearDispatch

/-- A constraint of a program: the position `index` of its row, and the non-zero coefficients by
the positions of their variables. -/
structure NativeRow (α : Type) where
  index : Nat
  relation : Relation
  rhs : α
  terms : List (Nat × α)
deriving DecidableEq

/-- A program with a lower and an upper bound per variable, absent where infinite. -/
structure BoundedProgram (α : Type) where
  maximize : Bool
  bounds : List (Option α × Option α)
  objective : List (Nat × α)
  rows : List (NativeRow α)
deriving DecidableEq

/-- Why a form is infeasible as it is stated. -/
inductive Contradiction (α : Type) where
  | crossedBounds (names : List String)
  | constantRow (index : Nat) (relation : Relation) (rhs : α)
deriving DecidableEq

/-- Why a form has no program. -/
inductive Obstacle (α : Type) where
  | contradiction (c : Contradiction α)
  /-- The library refused a number, in its own words. -/
  | refusal (text : String)
deriving DecidableEq

/-- What the library between a form and an engine decides by itself: what it says when it refuses a
number, and which variables it finds in a program. -/
structure Library (α : Type) where
  /-- What is said of a variable with these native bounds. -/
  boundsRefusal : Option α → Option α → Option String
  /-- What is said of the product of a number and a variable. -/
  coefficientRefusal : α → Option String
  /-- What is said of a constraint with this right-hand side. -/
  rhsRefusal : α → Option String
  /-- The positions of the variables that the engine will see. -/
  found : BoundedProgram α → List Nat

/-- What an engine knows the constraint by. -/
def NativeRow.name {α : Type} (r : NativeRow α) : String :=
  "c" ++ toString r.index

namespace BoundedProgram

/-- What an engine knows a variable by: its position, so that no name of a model has to be one that
an engine can read. -/
def variableName (i : Nat) : String :=
  "x" ++ toString i

variable {α : Type} [Scalar α] (library : Library α)

/-- The names of the variables whose lower bound is above the upper one. -/
def crossed (f : DenseForm α) : List String :=
  (List.zip f.variableNames (List.zip f.lower f.upper)).filterMap fun (name, lower, upper) =>
    if Scalar.lt upper lower then some name else none

/-- An infinite bound is no bound. -/
def nativeBound (x : α) : Option α :=
  if Scalar.isInfinite x then none else some x

/-- The native bounds of the variables in their order. -/
def nativeBounds : List (α × α) → Except String (List (Option α × Option α))
  | [] => .ok []
  | (lower, upper) :: rest =>
    match library.boundsRefusal (nativeBound lower) (nativeBound upper) with
    | some text => .error text
    | none      => (nativeBounds rest).map ((nativeBound lower, nativeBound upper) :: ·)

/-- The non-zero coefficients of a row by position. -/
def termsOf (row : List α) : List (Nat × α) :=
  row.zipIdx.filterMap fun (x, j) => if Scalar.isNonzero x then some (j, x) else none

/-- The non-zero coefficients of a row, each multiplied with its variable. -/
def terms (row : List α) : Except String (List (Nat × α)) :=
  match (termsOf row).findSome? fun t => library.coefficientRefusal t.2 with
  | some text => .error text
  | none      => .ok (termsOf row)

/-- The constraint at position `k`; `none` for a constant row that holds. A right-hand side of
negative zero becomes zero. -/
def nativeRow (k : Nat) (row : List α) (relation : Relation) (rhs : α) :
    Except (Obstacle α) (Option (NativeRow α)) :=
  if DenseForm.isConstant row then
    if relation.holds 0 rhs 0 then .ok none
    else .error (.contradiction (.constantRow k relation rhs))
  else
    match terms library row with
    | .error text => .error (.refusal text)
    | .ok ts      =>
      match library.rhsRefusal rhs with
      | some text => .error (.refusal text)
      | none      => .ok (some ⟨k, relation, rhs + 0, ts⟩)

/-- The constraints of the rows, which start at position `k`. -/
def nativeRows (k : Nat) : List (List α × Relation × α) → Except (Obstacle α) (List (NativeRow α))
  | [] => .ok []
  | (row, relation, rhs) :: rest =>
    match nativeRow library k row relation rhs with
    | .error e => .error e
    | .ok r    => (nativeRows (k + 1) rest).map (r.toList ++ ·)

/-- The form as a program with native bounds. Crossed bounds are looked for first, then the bounds,
the objective and the rows are taken over in this order. -/
def ofDense (f : DenseForm α) : Except (Obstacle α) (BoundedProgram α) :=
  match crossed f with
  | name :: names => .error (.contradiction (.crossedBounds (name :: names)))
  | [] =>
    match nativeBounds library (List.zip f.lower f.upper) with
    | .error text => .error (.refusal text)
    | .ok bounds  =>
      match terms library f.objective with
      | .error text   => .error (.refusal text)
      | .ok objective =>
        (nativeRows library 0 f.conditions).map fun rows => ⟨f.maximize, bounds, objective, rows⟩

/-- The variables as an engine knows them: by name, with the bounds that there are. -/
def vars (p : BoundedProgram α) : List (String × Option α × Option α) :=
  p.bounds.zipIdx.map fun (bounds, i) => (variableName i, bounds)

/-- Whether a variable has a coefficient anywhere in the program. -/
def uses (p : BoundedProgram α) (i : Nat) : Bool :=
  p.objective.any (·.1 == i) || p.rows.any fun row => row.terms.any (·.1 == i)

/-- The positions of the variables with a coefficient somewhere in the program. -/
def used (p : BoundedProgram α) : List Nat :=
  (List.range p.bounds.length).filter p.uses

/-- The value of a variable that the engine never sees: zero, moved into the bounds. -/
def restingValue (lower upper : α) : α :=
  Scalar.min (Scalar.max 0 lower) upper

end BoundedProgram

end LinearDispatch
