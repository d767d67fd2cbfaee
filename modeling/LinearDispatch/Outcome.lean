-- SUMMARY: The outcome of an operation: its answer or error, the subject as it was left, its events and its calls of engines.
import LinearDispatch.Event.Basic
import LinearDispatch.Program.Inequality

/-!
# Outcomes

An operation answers or fails, may leave its subject changed in either case,
and reports what it did. An outcome holds all of this, and lists every problem
that was handed to an engine on the way.
-/
namespace LinearDispatch

/-- A problem handed to an engine, with the limits it was given. -/
inductive EngineCall (α : Type) where
  | inequality (program : InequalityProgram α) (method : String) (iterations : Int)
  | bounded (program : BoundedProgram α) (timeLimit : Literal α) (iterations : Int)

/-- What an operation on a `σ` leaves: the subject after it, its answer or error, what it reported,
and what it handed to engines. -/
structure Outcome (α σ ρ : Type) where
  state : σ
  answer : Except (Error α) ρ
  events : List (Event α) := []
  calls : List (EngineCall α) := []

namespace Outcome

variable {α σ τ ρ ρ' : Type}

/-- An answer that changes and reports nothing. -/
def pure (state : σ) (answer : ρ) : Outcome α σ ρ :=
  { state, answer := .ok answer }

/-- An error that changes and reports nothing. -/
def fail (state : σ) (e : Error α) : Outcome α σ ρ :=
  { state, answer := .error e }

/-- The answer put into another form. -/
def map (f : ρ → ρ') (o : Outcome α σ ρ) : Outcome α σ ρ' where
  state := o.state
  answer := o.answer.map f
  events := o.events
  calls := o.calls

/-- The outcome on another subject, which is made of the one that was left. -/
def mapState (f : σ → τ) (o : Outcome α σ ρ) : Outcome α τ ρ where
  state := f o.state
  answer := o.answer
  events := o.events
  calls := o.calls

/-- Go on with the answer, on the subject as it was left. An error ends the work. -/
def andThen (o : Outcome α σ ρ) (next : σ → ρ → Outcome α σ ρ') : Outcome α σ ρ' :=
  match o.answer with
  | .error e => { state := o.state, answer := .error e, events := o.events, calls := o.calls }
  | .ok x    =>
    let p := next o.state x
    { state := p.state
      answer := p.answer
      events := o.events ++ p.events
      calls := o.calls ++ p.calls }

end Outcome

end LinearDispatch
