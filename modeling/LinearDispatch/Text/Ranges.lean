-- SUMMARY: Sets of characters as ranges of code points, and case shifts over such ranges.

/-!
# Ranges of code points

A property of characters is a list of inclusive ranges; a case mapping is a
list of shifts, each moving every `step`-th code point of a range by a fixed
amount.
-/
namespace LinearDispatch.Text

/-- Whether a code point lies in one of the ranges, ends included. -/
def inRanges (ranges : List (Nat × Nat)) (c : Char) : Bool :=
  ranges.any fun (first, last) => first ≤ c.toNat && c.toNat ≤ last

/-- One run of a case mapping: `first`, `first + step`, … up to `last` move by `amount`. -/
structure Shift where
  first : Nat
  last : Nat
  step : Nat
  amount : Int
deriving DecidableEq, Repr

/-- Whether the run moves this code point. -/
def Shift.covers (s : Shift) (n : Nat) : Bool :=
  s.first ≤ n && n ≤ s.last && (n - s.first) % s.step == 0

/-- The character that the first covering run moves `c` to, `c` itself outside all runs. -/
def shiftChar (shifts : List Shift) (c : Char) : Char :=
  match shifts.find? (·.covers c.toNat) with
  | some s => Char.ofNat ((c.toNat : Int) + s.amount).toNat
  | none   => c

end LinearDispatch.Text
