-- SUMMARY: Decimal digits of exact fractions: the position of the leading digit, rounding to the nearest whole, and the layout of digits as text.

/-!
# Decimal digits

Numbers are written from exact fractions of natural numbers. A decimal is a
pair of digits and exponent, read as `digits · 10 ^ exponent`. A `Layout`
holds what a text format decides by itself: how far it writes out positions
before it turns to an exponent, and whether a whole number keeps its point.
-/
namespace LinearDispatch.Decimal

/-- How many decimal digits a number has; zero has one. -/
def digitCount (n : Nat) : Nat :=
  (Nat.toDigits 10 n).length

/-- The fraction `num / den` divided by `10 ^ k`. -/
def shiftDown (num den : Nat) : (k : Int) → Nat × Nat
  | .ofNat k   => (num, den * Nat.pow 10 k)
  | .negSucc k => (num * Nat.pow 10 (k + 1), den)

/-- The exponent of the leading digit of a positive fraction: the `k` with
`10 ^ k ≤ num / den < 10 ^ (k + 1)`. The digit counts give it up to one. -/
def leadingExponent (num den : Nat) : Int :=
  let k : Int := (digitCount num : Int) - (digitCount den : Int)
  let (n, d) := shiftDown num den k
  if d ≤ n then k else k - 1

/-- The whole number nearest to `num / den`; a tie goes to the even one. -/
def roundHalfEven (num den : Nat) : Nat :=
  let q := num / den
  let r := num % den
  if 2 * r < den then q
  else if den < 2 * r then q + 1
  else if q % 2 = 0 then q else q + 1

/-- The number of zeros given, as text. -/
def zeros (n : Nat) : List Char :=
  List.replicate n '0'

/-- What a text format decides about writing decimals. -/
structure Layout where
  /-- Leading digits up to this many places in front of the point are written positionally. -/
  positions : Int
  /-- Whole numbers end in a point and a zero. -/
  keepPoint : Bool

/-- Digits with the point written out; `point` digits stand in front of it. -/
def Layout.positional (layout : Layout) (ds : List Char) (point : Int) : List Char :=
  if point ≤ 0 then '0' :: '.' :: zeros (-point).toNat ++ ds
  else if (ds.length : Int) ≤ point then
    ds ++ zeros (point.toNat - ds.length) ++ (if layout.keepPoint then ['.', '0'] else [])
  else ds.take point.toNat ++ '.' :: ds.drop point.toNat

/-- Digits with one in front of the point and an exponent of at least two digits. -/
def scientific (ds : List Char) (exponent : Int) : List Char :=
  let size := Nat.toDigits 10 exponent.natAbs
  (match ds with
    | []      => []
    | [d]     => [d]
    | d :: ds => d :: '.' :: ds)
    ++ 'e' :: (if exponent < 0 then '-' else '+') :: zeros (2 - size.length) ++ size

/-- The text of `digits · 10 ^ exponent`, without zeros at the end of its fraction. Positions are
written out from the fourth place behind the point up to the layout's limit. -/
def Layout.render (layout : Layout) (digits : Nat) (exponent : Int) : String :=
  if digits = 0 then (if layout.keepPoint then "0.0" else "0")
  else
    let all := Nat.toDigits 10 digits
    let point := (all.length : Int) + exponent
    let ds := (all.reverse.dropWhile (· == '0')).reverse
    String.ofList <|
      if -3 ≤ point && point ≤ layout.positions then layout.positional ds point
      else scientific ds (point - 1)

end LinearDispatch.Decimal
