-- SUMMARY: Doubles rounded for readers, in six significant digits.
import LinearDispatch.Number.Shortest

/-!
# Rounded decimals

Rounding starts from the exact value of the double and a tie goes to the even
digit, so a decimal half that has no exact double is no tie.
-/
namespace LinearDispatch.Binary64

open Float.Model (UnpackedFloat)

/-- The fraction `m · 2 ^ e`. -/
def fraction (m : Nat) (e : Int) : Nat × Nat :=
  (m * Nat.pow 2 e.toNat, Nat.pow 2 (-e).toNat)

/-- The positive fraction rounded to `n` significant digits. -/
def significant (n num den : Nat) : Nat × Int :=
  let k := Decimal.leadingExponent num den - (n : Int) + 1
  let (a, b) := Decimal.shiftDown num den k
  (Decimal.roundHalfEven a b, k)

/-- Brief texts write out whole numbers of up to six digits, without a point. -/
def briefLayout : Decimal.Layout :=
  { positions := 6, keepPoint := false }

/-- The double in six significant digits. -/
def brief (x : Float) : String :=
  match x.toModel.unpack with
  | .notANumber     => "nan"
  | .infinity s     => withSign s "inf"
  | .zero s         => withSign s (briefLayout.render 0 0)
  | .finite s m e _ =>
    let (num, den) := fraction m e
    let (digits, exponent) := significant 6 num den
    withSign s (briefLayout.render digits exponent)

end LinearDispatch.Binary64
