-- SUMMARY: The grammar of written numbers: decimal numerals in the digits of any script, infinities, and the mark for no number.
import LinearDispatch.Text.Blank
import LinearDispatch.Text.Digit

/-!
# Numerals

A numeral is an optional sign followed by a decimal number or by one of the
words `inf`, `infinity` and `nan` in any case. A decimal number has digits in
front of a point, behind it, or both, and may end in an exponent. Between two
digits one underscore may stand. Blanks around a numeral do not count; the
information separators are not blanks here.

`Numeral.read?` gives the value exactly, as a whole number times a power of
ten, so that rounding is left to the number type.
-/
namespace LinearDispatch

/-- A written number: `digits · 10 ^ exponent` with a sign, an infinity, or no number. -/
inductive Numeral where
  | decimal (negative : Bool) (digits : Nat) (exponent : Int)
  | infinite (negative : Bool)
  | notANumber
deriving DecidableEq, Repr

namespace Numeral

open Text

/-- The blanks that may surround a numeral. -/
def isPadding (c : Char) : Bool :=
  isBlank c && !(0x1C ≤ c.toNat && c.toNat ≤ 0x1F)

/-- The digits that continue a run whose first digit has been read, and the rest. -/
def moreDigits : List Char → List Nat × List Char
  | '_' :: c :: rest =>
    match digitValue? c with
    | some d => let (ds, tail) := moreDigits rest; (d :: ds, tail)
    | none   => ([], '_' :: c :: rest)
  | c :: rest =>
    match digitValue? c with
    | some d => let (ds, tail) := moreDigits rest; (d :: ds, tail)
    | none   => ([], c :: rest)
  | [] => ([], [])

/-- The run of digits at the front, possibly empty, and the rest. -/
def digitRun : List Char → List Nat × List Char
  | c :: rest =>
    match digitValue? c with
    | some d => let (ds, tail) := moreDigits rest; (d :: ds, tail)
    | none   => ([], c :: rest)
  | [] => ([], [])

/-- The number that a run of decimal digits writes. -/
def ofDigits (ds : List Nat) : Nat :=
  ds.foldl (fun n d => 10 * n + d) 0

/-- The sign in front, if any: whether it is a minus, and the rest. -/
def takeSign : List Char → Bool × List Char
  | '-' :: rest => (true, rest)
  | '+' :: rest => (false, rest)
  | cs          => (false, cs)

/-- The exponent at the end of a decimal number; nothing written is zero. -/
def exponent? : List Char → Option Int
  | [] => some 0
  | c :: rest =>
    if c = 'e' || c = 'E' then
      let (negative, body) := takeSign rest
      match digitRun body with
      | ([], _)  => none
      | (ds, []) => some (if negative then -(ofDigits ds : Int) else (ofDigits ds : Int))
      | _        => none
    else none

/-- The digits behind the point, if there is a point, and the rest. -/
def fraction : List Char → List Nat × List Char
  | '.' :: rest => digitRun rest
  | cs          => ([], cs)

/-- A decimal number without its sign: its digits and the power of ten they count. -/
def decimal? (cs : List Char) : Option (Nat × Int) :=
  let (whole, afterWhole) := digitRun cs
  let (part, afterPart) := fraction afterWhole
  if whole.isEmpty && part.isEmpty then none
  else (exponent? afterPart).map fun e => (ofDigits (whole ++ part), e - (part.length : Int))

/-- The numeral that fills the text, blanks at its ends apart. -/
def read? (s : String) : Option Numeral :=
  let body := ((s.toList.dropWhile isPadding).reverse.dropWhile isPadding).reverse
  let (negative, rest) := takeSign body
  let word := String.ofList (rest.map Char.toLower)
  if word = "inf" || word = "infinity" then some (.infinite negative)
  else if word = "nan" then some .notANumber
  else (decimal? rest).map fun (digits, exponent) => .decimal negative digits exponent

end Numeral

end LinearDispatch
