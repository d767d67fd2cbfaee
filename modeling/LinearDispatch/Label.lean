-- SUMMARY: Backend names as callers give them, and their normal form.
import LinearDispatch.Text.Blank
import LinearDispatch.Text.Case
import LinearDispatch.Text.Quoted

/-!
# Labels

A backend is asked for by a label, which need not be a text and may be missing.
Labels are compared in their normal form: without blanks at the ends and in
lower case.
-/
namespace LinearDispatch

/-- A name as a caller gives it. -/
inductive Label where
  | missing
  | text (s : String)
  | int (n : Int)
  | bool (b : Bool)
deriving DecidableEq, Repr

namespace Label

/-- The label's text; a missing label has none. -/
def text? : Label → Option String
  | .missing => none
  | .text s  => some s
  | .int n   => some (toString n)
  | .bool b  => some (if b then "True" else "False")

/-- The label as it stands in a message. -/
def quoted : Label → String
  | .text s => Text.quote s
  | label   => label.text?.getD "None"

/-- Missing or nothing but blanks. -/
def isBlank (label : Label) : Bool :=
  match label.text? with
  | none   => true
  | some s => Text.strip s = ""

/-- The normal form under which names are compared. -/
def normalize (label : Label) : Option String :=
  label.text?.map fun s => Text.lower (Text.strip s)

/-- The normal form, unless it is empty. -/
def key? (label : Label) : Option String :=
  label.normalize.filter (· ≠ "")

end Label

/-- Names in the order of their code points. -/
def sortNames (names : List String) : List String :=
  names.mergeSort fun a b => !(b < a)

end LinearDispatch
