-- SUMMARY: The numbers a model is written over: arithmetic, comparisons, the values that are not finite, and how written and whole numbers become numbers.
import LinearDispatch.Number.Numeral

/-!
# Scalars

Models, programs and solutions are written over any type of scalars. Two types
are provided: binary floating point, which rounds, and the rationals with
infinities, which do not. Both have values that are not finite and a value that
is no number, which no comparison holds of.

Comparisons answer with a `Bool`, because a comparison that fails says nothing
about its converse once a value may be no number.
-/
namespace LinearDispatch

/-- A type of numbers that a linear program can be written over. -/
class Scalar (α : Type) extends Add α, Sub α, Mul α, Neg α, Zero α, One α where
  /-- At most; false when either side is no number. -/
  le : α → α → Bool
  /-- Less than; false when either side is no number. -/
  lt : α → α → Bool
  /-- The same number; the two signed zeros are the same, and no number is not itself. -/
  eq : α → α → Bool
  /-- Neither infinite nor no number. -/
  isFinite : α → Bool
  /-- No number. -/
  isNaN : α → Bool
  /-- Above every number. -/
  infinity : α
  /-- The value that is no number. -/
  notANumber : α
  /-- A whole number, unless it is out of range. -/
  ofInt? : Int → Option α
  /-- The value of a written number; beyond the range it is infinite. -/
  ofNumeral : Numeral → α
  /-- The value of a finite number. -/
  toRat? : α → Option Rat
  /-- The scalar nearest to a rational. -/
  ofRat : Rat → α

/-- Scalars whose special values are what they are called. -/
class LawfulScalar (α : Type) [Scalar α] : Prop where
  isFinite_zero : Scalar.isFinite (0 : α) = true
  isNaN_notANumber : Scalar.isNaN (Scalar.notANumber : α) = true

namespace Scalar

variable {α : Type} [Scalar α]

/-- Infinite in either direction. -/
def isInfinite (x : α) : Bool :=
  !isFinite x && !isNaN x

/-- The distance from zero. -/
def abs (x : α) : α :=
  if lt x 0 then -x else x

/-- Whether a number counts as non-zero: everything but the two zeros, no number included. -/
def isNonzero (x : α) : Bool :=
  !eq x 0

/-- The larger of two numbers; the first when they do not compare. -/
def max (x y : α) : α :=
  if lt x y then y else x

/-- The smaller of two numbers; the first when they do not compare. -/
def min (x y : α) : α :=
  if lt y x then y else x

/-- The sum from left to right, starting at zero. -/
def sum (xs : List α) : α :=
  xs.foldl (· + ·) 0

/-- The sum of the products of two lists, entry by entry. -/
def dot (xs ys : List α) : α :=
  sum (List.zipWith (· * ·) xs ys)

/-- Whether two numbers differ by at most the tolerance. Equal infinities are
close; an infinity is close to nothing else. -/
def isClose (tolerance x y : α) : Bool :=
  if eq x y then true
  else if isInfinite x || isInfinite y then false
  else le (abs (y - x)) tolerance

/-- One part in a million, the tolerance of every check that is not given one. -/
def millionth : α :=
  ofRat (mkRat 1 1000000)

end Scalar

/-- A product of two vectors of one length, as a library of linear algebra forms it. In which order
it adds, and where it rounds on the way, is its own affair. -/
abbrev InnerProduct (α : Type) :=
  List α → List α → α

end LinearDispatch
