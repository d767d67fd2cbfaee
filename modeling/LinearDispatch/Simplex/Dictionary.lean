-- SUMMARY: Dictionaries of the simplex method: equations in whole numbers that give some quantities by the others, and pivots on them.

/-!
# Dictionaries

A dictionary gives some quantities, the basic ones, by the others, which have a
column each. A row says `scale · basic = rhs - cells · columns` in whole
numbers, with a positive scale and without a common divisor. At the vertex of a
dictionary all columns are zero. A pivot makes a column basic in place of a
basic quantity; it rewrites the rows and does not change what they say.

A quantity that two limits confine is measured as a part of the way between
them, and may be measured from either end.
-/
namespace LinearDispatch.Simplex

/-- The values that a quantity may take. -/
inductive Range where
  | free
  | nonnegative
  /-- From zero to one. -/
  | part
  | zero
deriving DecidableEq, Repr

/-- A quantity by its index. A mirrored one is one less the quantity. -/
structure Quantity where
  index : Nat
  range : Range
  mirrored : Bool := false
deriving DecidableEq, Repr

structure Row where
  basic : Quantity
  scale : Int
  cells : Array Int
  rhs : Int

/-- The rows, and one more for the goal, which is to be made small. -/
structure Dictionary where
  columns : Array Quantity
  rows : Array Row
  goal : Row

def Quantity.mirror (q : Quantity) : Quantity :=
  { q with mirrored := !q.mirrored }

/-! ## Rows -/

namespace Row

def cell (r : Row) (j : Nat) : Int :=
  r.cells.getD j 0

/-- The greatest common divisor of the numbers of a row. -/
def content (r : Row) : Nat :=
  r.cells.foldl (fun g x => if g = 1 then 1 else Nat.gcd g x.natAbs)
    (Nat.gcd r.scale.natAbs r.rhs.natAbs)

/-- The row without a common divisor. -/
def reduced (r : Row) : Row :=
  let g := r.content
  if g ≤ 1 then r
  else { r with scale := r.scale / g, cells := r.cells.map (· / (g : Int)), rhs := r.rhs / g }

/-- The row that says `basic = rhs - cells · columns`. -/
def ofRationals (basic : Quantity) (cells : List Rat) (rhs : Rat) : Row :=
  let common := cells.foldl (fun d q => Nat.lcm d q.den) rhs.den
  let whole (q : Rat) : Int := q.num * (common / q.den : Nat)
  Row.reduced { basic, scale := common, cells := (cells.map whole).toArray, rhs := whole rhs }

/-- The row for the mirrored basic quantity. -/
def mirror (r : Row) : Row where
  basic := r.basic.mirror
  scale := r.scale
  cells := r.cells.map (- ·)
  rhs := r.scale - r.rhs

/-- The row with column `j` mirrored. -/
def mirrorColumn (r : Row) (j : Nat) : Row :=
  { r with cells := r.cells.setIfInBounds j (-(r.cell j)), rhs := r.rhs - r.cell j }

/-- The row solved for `entering`, the quantity of column `j`. The basic quantity takes over the
column. -/
def solvedFor (r : Row) (j : Nat) (entering : Quantity) : Row :=
  let cells := r.cells.setIfInBounds j r.scale
  if r.cell j < 0 then
    { basic := entering, scale := -(r.cell j), cells := cells.map (- ·), rhs := -r.rhs }
  else { basic := entering, scale := r.cell j, cells, rhs := r.rhs }

/-- The row with what the solved row says put in for column `j`. -/
def substitute (r solved : Row) (j : Nat) : Row :=
  let a := r.cell j
  if a = 0 then r
  else
    let g : Int := Int.gcd a solved.scale
    let factor := solved.scale / g
    let times := a / g
    Row.reduced
      { basic := r.basic
        scale := r.scale * factor
        cells := Array.zipWith (fun x y => x * factor - times * y) (r.cells.setIfInBounds j 0)
          solved.cells
        rhs := r.rhs * factor - times * solved.rhs }

/-- The value of the basic quantity at the vertex. -/
def value (r : Row) : Rat :=
  mkRat r.rhs r.scale.toNat

end Row

/-! ## Dictionaries -/

namespace Dictionary

/-- Exchange the basic quantity of row `i` for column `j`. -/
def pivot (d : Dictionary) (i j : Nat) : Dictionary :=
  match d.rows[i]?, d.columns[j]? with
  | some r, some q =>
    let solved := r.solvedFor j q
    { columns := d.columns.setIfInBounds j r.basic
      rows := d.rows.mapIdx fun k s => if k = i then solved else s.substitute solved j
      goal := d.goal.substitute solved j }
  | _, _ => d

/-- The dictionary with column `j` mirrored. -/
def mirrorColumn (d : Dictionary) (j : Nat) : Dictionary where
  columns := d.columns.modify j Quantity.mirror
  rows := d.rows.map (·.mirrorColumn j)
  goal := d.goal.mirrorColumn j

/-- The dictionary without column `j`, for a quantity that is known to be zero. -/
def dropColumn (d : Dictionary) (j : Nat) : Dictionary :=
  let without (r : Row) : Row := { r with cells := r.cells.eraseIdxIfInBounds j }
  { columns := d.columns.eraseIdxIfInBounds j
    rows := d.rows.map without
    goal := without d.goal }

/-- The value of a quantity at the vertex. -/
def valueOf (d : Dictionary) (index : Nat) : Rat :=
  match d.rows.find? (·.basic.index == index) with
  | some r => if r.basic.mirrored then 1 - r.value else r.value
  | none   =>
    if d.columns.any fun q => q.index == index && q.mirrored then 1 else 0

end Dictionary

end LinearDispatch.Simplex
