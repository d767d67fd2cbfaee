-- SUMMARY: Binary floating point as scalars: reading a double as a fraction, and the double nearest to a fraction.
import LinearDispatch.Number.Scalar

/-!
# Binary floating point

A finite double is a whole number of at most 53 bits times a power of two, so
it is a rational, and each rational has a nearest double: ties go to the even
significand, and what is beyond the largest double becomes infinite.
-/
namespace LinearDispatch

namespace Binary64

open Float.Model (UnpackedFloat Format)
open Float.Model.UnpackedFloat (Sign)

/-- `m · 2 ^ e` as a rational. -/
def scaled (m : Nat) : (e : Int) → Rat
  | .ofNat e   => mkRat (m * Nat.pow 2 e : Nat) 1
  | .negSucc e => mkRat (m : Int) (Nat.pow 2 (e + 1))

/-- The rational that a finite double stands for. -/
def toRat? (x : Float) : Option Rat :=
  match x.toModel.unpack with
  | .zero _                 => some 0
  | .finite .positive m e _ => some (scaled m e)
  | .finite .negative m e _ => some (-(scaled m e))
  | .infinity _             => none
  | .notANumber             => none

/-- The double nearest to `num / den`, with the given sign. -/
def nearest (sign : Sign) (num den : Nat) : Float :=
  if hn : 0 < num then
    if hd : 0 < den then
      .ofModel (.pack (UnpackedFloat.div Format.binary64 (.finite sign num 0 hn)
        (.finite .positive den 0 hd)))
    else .ofModel (.pack .notANumber)
  else .ofModel (.pack (.zero sign))

/-- The double nearest to a rational. -/
def ofRat (q : Rat) : Float :=
  nearest (if q.num < 0 then .negative else .positive) q.num.natAbs q.den

/-- The double nearest to a whole number, unless that is infinite. -/
def ofInt? (n : Int) : Option Float :=
  let x := nearest (if n < 0 then .negative else .positive) n.natAbs 1
  if x.isFinite then some x else none

/-- The double nearest to `digits · 10 ^ exponent`. -/
def ofDecimal (digits : Nat) (exponent : Int) : Float :=
  .ofModel (.ofScientific digits exponent)

def ofNumeral : Numeral → Float
  | .decimal negative digits exponent =>
    if negative then -(ofDecimal digits exponent) else ofDecimal digits exponent
  | .infinite negative => .ofModel (.pack (.infinity (if negative then .negative else .positive)))
  | .notANumber        => .ofModel (.pack .notANumber)

end Binary64

instance : Scalar Float where
  add := Float.add
  sub := Float.sub
  mul := Float.mul
  neg := Float.neg
  zero := .ofModel (.pack (.zero .positive))
  one := Binary64.nearest .positive 1 1
  le := Float.le
  lt := Float.lt
  eq := Float.beq
  isFinite := Float.isFinite
  isNaN := Float.isNaN
  infinity := .ofModel (.pack (.infinity .positive))
  notANumber := .ofModel (.pack .notANumber)
  ofInt? := Binary64.ofInt?
  ofNumeral := Binary64.ofNumeral
  toRat? := Binary64.toRat?
  ofRat := Binary64.ofRat

instance : LawfulScalar Float where
  isFinite_zero := rfl
  isNaN_notANumber := rfl

end LinearDispatch
