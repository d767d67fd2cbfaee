-- SUMMARY: The shortest decimal that reads back as a given double.
import LinearDispatch.Number.Binary64
import LinearDispatch.Number.Decimal

/-!
# Shortest decimals

The reals that round to a double form an interval around it, ends included when
its significand is even. Of the decimals in that interval the text has the
fewest digits, and of those it is the nearest to the double; two equally near
ones leave the even digit. Seventeen digits always suffice.
-/
namespace LinearDispatch.Binary64

open Float.Model (UnpackedFloat)
open Float.Model.UnpackedFloat (Sign)

/-- The reals that round to a double: from `low / den` to `high / den` around `value / den`. -/
structure Interval where
  low : Nat
  value : Nat
  high : Nat
  den : Nat
  /-- The ends belong to it. -/
  closed : Bool

/-- The interval of `m · 2 ^ e`. Below a power of two the doubles lie twice as close. -/
def interval (m : Nat) (e : Int) : Interval :=
  let below := if m = Nat.pow 2 52 && -1074 < e then 1 else 2
  let up := Nat.pow 2 (e - 2).toNat
  { low := (4 * m - below) * up
    value := 4 * m * up
    high := (4 * m + 2) * up
    den := Nat.pow 2 (2 - e).toNat
    closed := m % 2 = 0 }

/-- Whether `c · 10 ^ k` lies in the interval. -/
def Interval.contains (r : Interval) (c : Nat) (k : Int) : Bool :=
  let (low, den) := Decimal.shiftDown r.low r.den k
  let (high, _) := Decimal.shiftDown r.high r.den k
  if r.closed then low ≤ c * den && c * den ≤ high else low < c * den && c * den < high

/-- The decimal of `n` digits in the interval that is nearest to the value. Only the neighbours of
the value on the grid of `n` digits can be in it. -/
def Interval.ofDigits? (r : Interval) (n : Nat) : Option (Nat × Int) :=
  let k := Decimal.leadingExponent r.value r.den - (n : Int) + 1
  let (num, den) := Decimal.shiftDown r.value r.den k
  let c := num / den
  match r.contains c k, r.contains (c + 1) k with
  | true,  true  => some (Decimal.roundHalfEven num den, k)
  | true,  false => some (c, k)
  | false, true  => some (c + 1, k)
  | false, false => none

/-- The shortest decimal in the interval. -/
def Interval.shortest (r : Interval) : Nat × Int :=
  ((List.range 17).findSome? fun n => r.ofDigits? (n + 1)).getD (0, 0)

/-- Exact texts write out whole numbers of up to sixteen digits and keep their point. -/
def exactLayout : Decimal.Layout :=
  { positions := 16, keepPoint := true }

/-- A sign in front of a text. -/
def withSign (sign : Sign) (s : String) : String :=
  match sign with
  | .positive => s
  | .negative => "-" ++ s

/-- The shortest text that reads back as the double. -/
def shortest (x : Float) : String :=
  match x.toModel.unpack with
  | .notANumber        => "nan"
  | .infinity s        => withSign s "inf"
  | .zero s            => withSign s (exactLayout.render 0 0)
  | .finite s m e _    =>
    let (digits, exponent) := (interval m e).shortest
    withSign s (exactLayout.render digits exponent)

end LinearDispatch.Binary64
