-- SUMMARY: The rationals with two infinities and a value that is no number: exact arithmetic without rounding.
import LinearDispatch.Number.Scalar

/-!
# Exact numbers

`Exact` adds to the rationals the values that floating point has beyond its
finite ones, with the same rules for them: opposite infinities have no sum, an
infinity times zero is no number, and nothing compares with no number. Finite
numbers add and multiply without rounding and have one zero.
-/
namespace LinearDispatch

/-- A rational, an infinity, or no number. -/
inductive Exact where
  | finite (q : Rat)
  | infinite (negative : Bool)
  | notANumber
deriving DecidableEq

namespace Exact

def add : Exact → Exact → Exact
  | .finite p,   .finite q   => .finite (p + q)
  | .finite _,   .infinite s => .infinite s
  | .infinite s, .finite _   => .infinite s
  | .infinite s, .infinite t => if s = t then .infinite s else .notANumber
  | _,           _           => .notANumber

def neg : Exact → Exact
  | .finite q   => .finite (-q)
  | .infinite s => .infinite (!s)
  | .notANumber => .notANumber

def sub (x y : Exact) : Exact :=
  x.add y.neg

/-- An infinity times a finite number: the sign is that of the product. -/
def scaleInfinity (negative : Bool) (q : Rat) : Exact :=
  if q = 0 then .notANumber else .infinite (negative != decide (q < 0))

def mul : Exact → Exact → Exact
  | .finite p,   .finite q   => .finite (p * q)
  | .finite p,   .infinite s => scaleInfinity s p
  | .infinite s, .finite q   => scaleInfinity s q
  | .infinite s, .infinite t => .infinite (s != t)
  | _,           _           => .notANumber

def le : Exact → Exact → Bool
  | .finite p,   .finite q   => decide (p ≤ q)
  | .finite _,   .infinite s => !s
  | .infinite s, .finite _   => s
  | .infinite s, .infinite t => s || !t
  | _,           _           => false

def lt : Exact → Exact → Bool
  | .finite p,   .finite q   => decide (p < q)
  | .finite _,   .infinite s => !s
  | .infinite s, .finite _   => s
  | .infinite s, .infinite t => s && !t
  | _,           _           => false

def eq : Exact → Exact → Bool
  | .finite p,   .finite q   => decide (p = q)
  | .infinite s, .infinite t => s == t
  | _,           _           => false

def isFinite : Exact → Bool
  | .finite _ => true
  | _         => false

def isNaN : Exact → Bool
  | .notANumber => true
  | _           => false

def toRat? : Exact → Option Rat
  | .finite q => some q
  | _         => none

/-- A whole number times a power of ten. -/
def scientific (digits : Nat) : (exponent : Int) → Rat
  | .ofNat e   => mkRat (digits * Nat.pow 10 e : Nat) 1
  | .negSucc e => mkRat (digits : Int) (Nat.pow 10 (e + 1))

def ofNumeral : Numeral → Exact
  | .decimal negative digits exponent =>
    .finite (if negative then -(scientific digits exponent) else scientific digits exponent)
  | .infinite negative => .infinite negative
  | .notANumber        => .notANumber

end Exact

instance : Scalar Exact where
  add := Exact.add
  sub := Exact.sub
  mul := Exact.mul
  neg := Exact.neg
  zero := .finite 0
  one := .finite 1
  le := Exact.le
  lt := Exact.lt
  eq := Exact.eq
  isFinite := Exact.isFinite
  isNaN := Exact.isNaN
  infinity := .infinite false
  notANumber := .notANumber
  ofInt? n := some (.finite (mkRat n 1))
  ofNumeral := Exact.ofNumeral
  toRat? := Exact.toRat?
  ofRat := .finite

instance : LawfulScalar Exact where
  isFinite_zero := rfl
  isNaN_notANumber := rfl

end LinearDispatch
