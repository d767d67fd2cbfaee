-- SUMMARY: Making the goal of a dictionary small: which column to raise, how far, and the pivots up to the optimum.
import LinearDispatch.Simplex.Dictionary

/-!
# Minimising

From a vertex that respects all ranges the goal is made small one column at a
time. A column is raised until a basic quantity, or the column itself, reaches
the end of its range. Of the columns that lower the goal the one that lowers it
most is raised. While nothing can be gained at once, the column with the
steepest descent is; if that lasts, the columns and rows of least index are
chosen, so that no dictionary comes twice.
-/
namespace LinearDispatch.Simplex

/-- How far a column can be raised: by `room / per`, until the quantity `index` reaches the end of
its range. That is the basic quantity of a row, or the column itself. -/
structure Limit where
  room : Int
  per : Int
  row : Option Nat
  index : Nat

/-- Whether a limit is reached before another; a tie is won by the least index. -/
def Limit.precedes (a b : Limit) : Bool :=
  let left := a.room * b.per
  let right := b.room * a.per
  left < right || (left = right && a.index < b.index)

/-- The nearer of two limits, if there are any. -/
def Limit.nearer : Option Limit → Option Limit → Option Limit
  | some a, some b => if b.precedes a then some b else some a
  | some a, none   => some a
  | none,   b      => b

/-- How far row `i` lets column `j` be raised. -/
def Row.limit? (r : Row) (i j : Nat) : Option Limit :=
  let c := r.cell j
  let falling : Limit := ⟨r.rhs, c, some i, r.basic.index⟩
  let rising : Limit := ⟨r.scale - r.rhs, -c, some i, r.basic.index⟩
  match r.basic.range with
  | .free        => none
  | .nonnegative => if 0 < c then some falling else none
  | .part        => if 0 < c then some falling else if c < 0 then some rising else none
  | .zero        => if c = 0 then none else some ⟨0, 1, some i, r.basic.index⟩

/-- How far a column's own range lets it be raised. -/
def Quantity.limit? (q : Quantity) : Option Limit :=
  if q.range = .part then some ⟨1, 1, none, q.index⟩ else none

/-- Whether changing a quantity with this cell in the goal lowers the goal. -/
def Quantity.lowers (q : Quantity) (cell : Int) : Bool :=
  match q.range with
  | .free => cell ≠ 0
  | .zero => false
  | _     => 0 < cell

/-- What to do next at a vertex. -/
inductive Move where
  | rest
  | descend
  | raise (column : Nat) (quantity : Quantity) (limit : Limit)

namespace Dictionary

/-- How far column `j` can be raised. -/
def limit? (d : Dictionary) (j : Nat) (q : Quantity) : Option Limit :=
  Nat.fold d.rows.size (fun i h best => Limit.nearer best (d.rows[i].limit? i j)) q.limit?

/-- Whether raising column `j` lowers the goal more than raising column `k`, or just as much and
more steeply. -/
def gainsMore (d : Dictionary) (j : Nat) (a : Limit) (k : Nat) (b : Limit) : Bool :=
  let left := d.goal.cell j * a.room * b.per
  let right := d.goal.cell k * b.room * a.per
  right < left || (left = right && d.goal.cell k < d.goal.cell j)

/-- The column to raise. A cautious choice is the one of least index. The goal descends without
end if a column that lowers it has no limit. -/
def move (d : Dictionary) (cautious : Bool) : Move :=
  Nat.fold d.columns.size
    (fun j h best =>
      let q := d.columns[j]
      if q.lowers (d.goal.cell j) then
        match best, d.limit? j q with
        | .descend,     _      => .descend
        | _,            none   => .descend
        | .rest,        some a => .raise j q a
        | .raise k p b, some a =>
          if (if cautious then decide (q.index < p.index) else d.gainsMore j a k b) then
            .raise j q a
          else .raise k p b
      else best)
    .rest

/-- Raise column `j` to its limit. A part that rises to one is mirrored, so that it falls to
zero. -/
def raise (d : Dictionary) (j : Nat) (limit : Limit) : Dictionary :=
  match limit.row with
  | none   => d.mirrorColumn j
  | some i =>
    let mirrored (r : Row) : Row := if r.basic.range = .part ∧ r.cell j < 0 then r.mirror else r
    { d with rows := d.rows.modify i mirrored }.pivot i j

/-- How minimising ends: at an optimum, with the pivots that are left; without one; or for want
of pivots. -/
inductive Ending where
  | optimal (d : Dictionary) (left : Nat)
  | unbounded
  | stopped

/-- For how many pivots in a row nothing need be gained before the choice becomes cautious. -/
def patience (d : Dictionary) : Nat :=
  d.rows.size + d.columns.size

/-- Raise columns until none lowers the goal, at most `limit` times. The last `idle` times nothing
was gained. -/
def minimize (d : Dictionary) : (limit idle : Nat) → Ending
  | 0, _ =>
    match d.move false with
    | .rest => .optimal d 0
    | _     => .stopped
  | left + 1, idle =>
    match d.move (decide (d.patience < idle)) with
    | .rest    => .optimal d (left + 1)
    | .descend => .unbounded
    | .raise j _ limit =>
      (d.raise j limit).minimize left (if limit.room = 0 then idle + 1 else 0)

end Dictionary

end LinearDispatch.Simplex
