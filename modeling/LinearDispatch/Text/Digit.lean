-- SUMMARY: Decimal digits of every script and their values.
import LinearDispatch.Text.DigitTable

/-!
# Decimal digits

A number may be written in the decimal digits of any script.
-/
namespace LinearDispatch.Text

/-- The value of a decimal digit of any script. -/
def digitValue? (c : Char) : Option Nat :=
  (zeroDigits.find? fun start => start ≤ c.toNat && c.toNat ≤ start + 9).map (c.toNat - ·)

/-- Whether a character is a decimal digit of some script. -/
def isDigit (c : Char) : Bool :=
  (digitValue? c).isSome

end LinearDispatch.Text
