-- SUMMARY: Linear problems over the rationals, how inequalities are read as one, and the first dictionary of a problem.
import LinearDispatch.Simplex.Dictionary

/-!
# Problems

A problem minimises `cost · x` over the `x` within their bounds that meet all
conditions, each of which bounds `cells · x` from above or fixes it. A row of
inequalities with a single non-zero cell is a bound, and two opposite rows, one
after the other, are an equality.

In the first dictionary of a problem the variables are the columns, each
measured from one of its bounds, and a slack is basic for each condition.
-/
namespace LinearDispatch.Simplex

structure Condition where
  cells : List Rat
  equality : Bool
  rhs : Rat
deriving DecidableEq

structure Problem where
  cost : List Rat
  bounds : List (Option Rat × Option Rat)
  conditions : List Condition
deriving DecidableEq

/-! ## Inequalities -/

/-- The only cell that differs from zero, with its position. -/
def single? (cells : List Rat) : Option (Rat × Nat) :=
  match cells.zipIdx.filter fun (q, _) => q ≠ 0 with
  | [found] => some found
  | _       => none

/-- Of two lower bounds the greater counts. -/
def raised (q : Rat) : Option Rat → Option Rat
  | none   => some q
  | some p => some (if p < q then q else p)

/-- Of two upper bounds the lesser counts. -/
def lowered (q : Rat) : Option Rat → Option Rat
  | none   => some q
  | some p => some (if q < p then q else p)

/-- Bounds tightened by `cell · x ≤ rhs`. -/
def tighten (cell rhs : Rat) (bounds : Option Rat × Option Rat) : Option Rat × Option Rat :=
  if cell < 0 then (raised (rhs / cell) bounds.1, bounds.2)
  else (bounds.1, lowered (rhs / cell) bounds.2)

/-- The bounds of `n` variables that rows with a single cell state. -/
def boundsOf (n : Nat) (rows : List (List Rat × Rat)) : List (Option Rat × Option Rat) :=
  rows.foldl
    (fun bounds (cells, rhs) =>
      match single? cells with
      | some (q, j) => bounds.modify j (tighten q rhs)
      | none        => bounds)
    (List.replicate n (none, none))

/-- Rows as conditions: opposite neighbours are an equality. -/
def conditionsOf : List (List Rat × Rat) → List Condition
  | [] => []
  | [(cells, rhs)] => [⟨cells, false, rhs⟩]
  | (cells, rhs) :: (next, bound) :: rest =>
    if next = cells.map (- ·) ∧ bound = -rhs then ⟨cells, true, rhs⟩ :: conditionsOf rest
    else ⟨cells, false, rhs⟩ :: conditionsOf ((next, bound) :: rest)

/-- Minimise `cost · x` under `cells · x ≤ rhs` for each row. -/
def Problem.ofInequalities (cost : List Rat) (rows : List (List Rat × Rat)) : Problem where
  cost := cost
  bounds := boundsOf cost.length rows
  conditions := conditionsOf (rows.filter fun (cells, _) => (single? cells).isNone)

/-! ## Measuring variables -/

/-- How a variable is measured: it is `origin + unit · y` for a `y` of this range. -/
structure Measure where
  origin : Rat
  unit : Rat
  range : Range

/-- Variables are measured from a bound, and between two bounds as a part of the way. -/
def Measure.ofBounds : Option Rat × Option Rat → Measure
  | (none,     none)    => ⟨0, 1, .free⟩
  | (some low, none)    => ⟨low, 1, .nonnegative⟩
  | (none,     some up) => ⟨up, -1, .nonnegative⟩
  | (some low, some up) => ⟨low, up - low, .part⟩

namespace Problem

def measures (p : Problem) : List Measure :=
  p.bounds.map Measure.ofBounds

/-- Whether some variable has its lower bound above the upper one. -/
def hasCrossedBounds (p : Problem) : Bool :=
  p.bounds.any fun
    | (some low, some up) => decide (up < low)
    | _                   => false

/-! ## The first dictionary -/

/-- The index of variable `i`. Index zero is left for the tightness of the first phase. -/
def variableIndex (i : Nat) : Nat := i + 1

/-- The part of `cells · x` that comes from the origins. -/
def constantPart (ms : List Measure) (cells : List Rat) : Rat :=
  (List.zipWith (fun q m => q * m.origin) cells ms).foldl (· + ·) 0

/-- The cells by the units of the variables. -/
def measured (ms : List Measure) (cells : List Rat) : List Rat :=
  List.zipWith (fun q m => q * m.unit) cells ms

/-- The row of a condition: its slack is what the right-hand side leaves over. -/
def slackRow (ms : List Measure) (index : Nat) (c : Condition) : Row :=
  .ofRationals ⟨index, if c.equality then .zero else .nonnegative, false⟩ (measured ms c.cells)
    (c.rhs - constantPart ms c.cells)

def dictionary (p : Problem) : Dictionary :=
  let ms := p.measures
  let n := ms.length
  { columns := (ms.zipIdx.map fun (m, i) => ⟨variableIndex i, m.range, false⟩).toArray
    rows := (p.conditions.zipIdx.map fun (c, k) => slackRow ms (variableIndex (n + k)) c).toArray
    goal := .ofRationals ⟨variableIndex (n + p.conditions.length), .free, false⟩
      ((measured ms p.cost).map (- ·)) (constantPart ms p.cost) }

/-- The variables at the vertex of a dictionary. -/
def pointAt (p : Problem) (d : Dictionary) : List Rat :=
  p.measures.zipIdx.map fun (m, i) => m.origin + m.unit * d.valueOf (variableIndex i)

end Problem

end LinearDispatch.Simplex
