-- SUMMARY: Scalars as a caller writes them, their conversion to numbers, and the causes for which it fails.
import LinearDispatch.Number.Scalar
import LinearDispatch.Number.Rounded
import LinearDispatch.Text.Quoted

/-!
# Literals

A caller may give a number as a whole number, a real, a truth value or a text.
Conversion reads a text as a numeral and fails for what is no scalar. Where an
unusable entry must not stop the work, `Literal.finiteOrZero` takes zero for it
instead; only a whole number out of range is still refused.
-/
namespace LinearDispatch

/-- A value as a caller gives it. Of sequences and mappings only the kind matters. -/
inductive Literal (α : Type) where
  | null
  | bool (b : Bool)
  | int (n : Int)
  | real (x : α)
  | text (s : String)
  | sequence
  | mapping
deriving DecidableEq

/-- The kinds of value that are no number in any spelling. -/
inductive NonScalar where
  | null
  | sequence
  | mapping
deriving DecidableEq, Repr

def NonScalar.label : NonScalar → String
  | .null     => "NoneType"
  | .sequence => "list"
  | .mapping  => "dict"

/-- Why a value is no number. -/
inductive ConversionError where
  | tooLarge
  | notScalar (kind : NonScalar)
  | unreadable (s : String)
deriving DecidableEq, Repr

def ConversionError.message : ConversionError → String
  | .tooLarge       => "int too large to convert to float"
  | .notScalar kind =>
    "float() argument must be a string or a real number, not '" ++ kind.label ++ "'"
  | .unreadable s   => "could not convert string to float: " ++ Text.quote s

namespace Literal

variable {α : Type}

/-- The number that a value stands for. -/
def toScalar [Scalar α] : Literal α → Except ConversionError α
  | .null     => .error (.notScalar .null)
  | .sequence => .error (.notScalar .sequence)
  | .mapping  => .error (.notScalar .mapping)
  | .bool b   => .ok (if b then 1 else 0)
  | .real x   => .ok x
  | .int n    =>
    match Scalar.ofInt? n with
    | some x => .ok x
    | none   => .error .tooLarge
  | .text s   =>
    match Numeral.read? s with
    | some numeral => .ok (Scalar.ofNumeral numeral)
    | none         => .error (.unreadable s)

/-- The number that a value stands for if that is finite, else zero. -/
def finiteOrZero [Scalar α] (v : Literal α) : Except ConversionError α :=
  match v.toScalar with
  | .ok x            => .ok (if Scalar.isFinite x then x else 0)
  | .error .tooLarge => .error .tooLarge
  | .error _         => .ok 0

/-- What values of this kind are called. -/
def kindLabel : Literal α → String
  | .null     => "NoneType"
  | .bool _   => "bool"
  | .int _    => "int"
  | .real _   => "float"
  | .text _   => "str"
  | .sequence => "list"
  | .mapping  => "dict"

/-- A scalar value as plain text: a text stands for itself. -/
def display : Literal Float → String
  | .null     => "None"
  | .bool b   => if b then "True" else "False"
  | .int n    => toString n
  | .real x   => Binary64.shortest x
  | .text s   => s
  | .sequence => "[]"
  | .mapping  => "\x7b\x7d"

/-- A scalar value as it stands in a message: a text is quoted. -/
def quoted : Literal Float → String
  | .text s => Text.quote s
  | v       => v.display

end Literal

end LinearDispatch
