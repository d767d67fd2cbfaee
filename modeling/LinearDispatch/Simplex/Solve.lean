-- SUMMARY: Solving linear problems exactly: removal of equalities and free columns, the search for a vertex, and the minimum.
import LinearDispatch.Simplex.Minimize
import LinearDispatch.Simplex.Problem

/-!
# Solving problems

First the slacks of equalities leave the basis and are dropped, as they are
zero, and free variables enter it wherever a row can take them. Then a vertex
is looked for. Rows that violate a range are loosened until they hold, and one
more column takes back a part of the loosening; it is made as large as it can
be, and there are points within all ranges exactly if that is the whole. From
there the cost is minimised.
-/
namespace LinearDispatch.Simplex

/-- What a minimisation ends in. -/
inductive Verdict where
  | optimal (x : List Rat)
  | infeasible
  | unbounded
  | stopped
deriving DecidableEq

namespace Dictionary

/-! ## Equalities and free columns -/

/-- A column with a non-zero cell in the row, a free one before others. -/
def exchange? (d : Dictionary) (r : Row) : Option Nat :=
  let found := fun (free : Bool) => (Array.range d.columns.size).find? fun j =>
    r.cell j ≠ 0 && (!free || d.columns[j]?.any (·.range == .free))
  (found true).or (found false)

/-- Remove up to `count` basic quantities that are zero. A row in which nothing can be exchanged
for one goes with it, unless it contradicts itself. -/
def settle (d : Dictionary) : (count : Nat) → Option Dictionary
  | 0 => some d
  | count + 1 =>
    match d.rows.findIdx? (·.basic.range == .zero) with
    | none   => some d
    | some i =>
      match d.rows[i]? with
      | none   => some d
      | some r =>
        match d.exchange? r with
        | some j => ((d.pivot i j).dropColumn j).settle count
        | none   =>
          if r.rhs = 0 then { d with rows := d.rows.eraseIdxIfInBounds i }.settle count else none

/-- Make column `j` basic if it is free and a row can take it. -/
def releaseColumn (d : Dictionary) (j : Nat) : Dictionary :=
  if d.columns[j]?.any (·.range == .free) then
    match d.rows.findIdx? fun r => r.basic.range != .free && r.cell j != 0 with
    | some i => d.pivot i j
    | none   => d
  else d

/-- Make all free columns basic that can be. -/
def release (d : Dictionary) : Dictionary :=
  (List.range d.columns.size).foldl releaseColumn d

/-! ## A first vertex -/

/-- The row measured from the other end if its basic quantity is beyond that. -/
def turned (r : Row) : Row :=
  if r.basic.range = .part ∧ r.scale < r.rhs then r.mirror else r

/-- Whether the basic quantity is below its range. -/
def isViolated (r : Row) : Bool :=
  r.basic.range != .free && r.rhs < 0

/-- The most that a row is below its range by. -/
def greatestViolation (rows : Array Row) : Int :=
  rows.foldl (fun most r => if isViolated r then max most (-r.rhs) else most) 0

/-- The row loosened by at most `most`, so that it holds, with a column that takes this back. -/
def loosened (most : Int) (r : Row) : Row :=
  let width :=
    if !isViolated r then 0
    else if r.basic.range = .part then min most (r.scale - r.rhs)
    else most
  { r with cells := r.cells.push width, rhs := r.rhs + width }

/-- The part of the loosening that is taken back. -/
def tightness : Quantity :=
  ⟨0, .part, false⟩

/-- The loosened dictionary. Its goal is to take back as much as can be; the goal so far becomes
the last row. -/
def loosen (d : Dictionary) (most : Int) : Dictionary where
  columns := d.columns.push tightness
  rows := (d.rows.push d.goal).map (loosened most)
  goal :=
    { basic := d.goal.basic
      scale := 1
      cells := (Array.replicate d.columns.size 0).push 1
      rhs := 0 }

/-- The tightness is fixed at zero, other quantities stay as they are. -/
def fixed (q : Quantity) : Quantity :=
  if q.index = tightness.index then { q with range := .zero } else q

/-- The dictionary once all loosening is taken back for good, with the goal `goal`. -/
def tightened (d : Dictionary) (goal : Row) : Dictionary where
  columns := d.columns.map fixed
  rows := d.rows.pop.map fun r =>
    if r.basic.index = tightness.index then { r.mirror with basic := fixed r.mirror.basic }
    else r
  goal := goal

/-- A dictionary whose vertex is within all ranges, and the pivots left of `limit`. -/
def toVertex (d : Dictionary) (limit : Nat) : Except Verdict (Dictionary × Nat) :=
  let d := { d with rows := d.rows.map turned }
  if d.rows.any isViolated then
    match (d.loosen (greatestViolation d.rows)).minimize limit 0 with
    | .stopped        => .error .stopped
    | .unbounded      => .error .stopped
    | .optimal d left =>
      match d.rows.back? with
      | none      => .error .infeasible
      | some goal =>
        if d.goal.rhs = -d.goal.scale then .ok (d.tightened goal, left) else .error .infeasible
  else .ok (d, limit)

end Dictionary

/-- Solve a problem with at most `limit` pivots after the removal of equalities. -/
def solve (limit : Nat) (p : Problem) : Verdict :=
  if p.hasCrossedBounds then .infeasible
  else
    match p.dictionary.settle p.conditions.length with
    | none   => .infeasible
    | some d =>
      match d.release.toVertex limit with
      | .error verdict => verdict
      | .ok (d, left)  =>
        match d.minimize left 0 with
        | .stopped     => .stopped
        | .unbounded   => .unbounded
        | .optimal d _ => .optimal (p.pointAt d)

end LinearDispatch.Simplex
