-- SUMMARY: The relation of a constraint to its right-hand side and the direction of optimisation, with the spellings that callers may use.
import LinearDispatch.Number.Literal
import LinearDispatch.Text.Case

/-!
# Relations and directions

A constraint bounds its left-hand side from above, from below or exactly; an
objective is maximised or minimised. Both may be written in several ways.
-/
namespace LinearDispatch

/-- How a left-hand side compares with a right-hand side. -/
inductive Relation where
  | atMost
  | atLeast
  | equal
deriving DecidableEq, Repr

namespace Relation

def symbol : Relation → String
  | .atMost  => "<="
  | .atLeast => ">="
  | .equal   => "=="

def label : Relation → String
  | .atMost  => "LEQ"
  | .atLeast => "GEQ"
  | .equal   => "EQ"

/-- Read a relation by its symbol or by its label in any case, blanks around it apart. A single
equality sign is also an equality. -/
def ofText? (s : String) : Option Relation :=
  let word := Text.strip s
  if word = "=" then some .equal
  else [atMost, atLeast, equal].find? fun r =>
    word = r.symbol || String.ofList (word.toList.map Char.toUpper) = r.label

/-- Only a text can spell a relation. -/
def ofLiteral? {α : Type} : Literal α → Option Relation
  | .text s => ofText? s
  | _       => none

/-- Whether the two sides stand in the relation, up to a tolerance. -/
def holds {α : Type} [Scalar α] (r : Relation) (lhs rhs tolerance : α) : Bool :=
  match r with
  | .atMost  => Scalar.le lhs (rhs + tolerance)
  | .atLeast => Scalar.le (rhs - tolerance) lhs
  | .equal   => Scalar.le (Scalar.abs (lhs - rhs)) tolerance

end Relation

/-- Whether an objective is to be made large or small. -/
inductive Direction where
  | maximize
  | minimize
deriving DecidableEq, Repr

namespace Direction

def label : Direction → String
  | .maximize => "MAXIMIZE"
  | .minimize => "MINIMIZE"

def word : Direction → String
  | .maximize => "maximize"
  | .minimize => "minimize"

/-- Read a direction by the first three letters of its word, in any case and after any blanks. -/
def ofText? (s : String) : Option Direction :=
  let low := (Text.lower (Text.strip s)).toList
  if ['m', 'a', 'x'].isPrefixOf low then some .maximize
  else if ['m', 'i', 'n'].isPrefixOf low then some .minimize
  else none

/-- A truth value says whether to maximise; otherwise only a text can spell a direction. -/
def ofLiteral? {α : Type} : Literal α → Option Direction
  | .bool b => some (if b then .maximize else .minimize)
  | .text s => ofText? s
  | _       => none

end Direction

end LinearDispatch
