-- SUMMARY: Reading a result back: where it succeeds, and where a mapped result succeeds and fails.
import Mathlib.Init

/-!
# Results

The lowerings and the reader of points take a list entry by entry: the first
entry may fail, and the result for the rest is mapped. What such a result says
of the rest is read off by the lemmas here.
-/
namespace LinearDispatch

variable {ε α β : Type} {f : α → β} {r : Except ε α}

@[simp] theorem isOk_ok {x : α} : (Except.ok x : Except ε α).isOk = true := rfl

@[simp] theorem isOk_error {e : ε} : (Except.error e : Except ε α).isOk = false := rfl

theorem map_eq_ok_iff {y : β} : r.map f = .ok y ↔ ∃ x, r = .ok x ∧ f x = y := by
  cases r with
  | error e => simp [Except.map]
  | ok x => simp [Except.map]

theorem map_eq_error_iff {e : ε} : r.map f = .error e ↔ r = .error e := by
  cases r with
  | error e => simp [Except.map]
  | ok x => simp [Except.map]

end LinearDispatch
