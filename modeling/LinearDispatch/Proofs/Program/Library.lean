-- SUMMARY: What is assumed of a modelling library: the numbers that it takes, the numbers that it refuses, and the variables that it finds.
import LinearDispatch.Engine
import LinearDispatch.Proofs.Except

/-!
# Modelling libraries

The lowering to native bounds goes through a library that is not part of it. It
is known by three promises, and no statement rests on more of them than it
needs: finite numbers are taken, numbers that are not finite are refused where
they would end up in the program, and the variables that it finds are those
with a coefficient. The library in use keeps all three.
-/
namespace LinearDispatch

variable {α : Type} [Scalar α]

namespace Library

/-- Finite numbers are taken, wherever they stand. -/
structure Accepting (library : Library α) : Prop where
  bounds : ∀ lower upper, (∀ x ∈ lower, Scalar.isFinite x = true) →
    (∀ x ∈ upper, Scalar.isFinite x = true) → library.boundsRefusal lower upper = none
  coefficient : ∀ x, Scalar.isFinite x = true → library.coefficientRefusal x = none
  rhs : ∀ x, Scalar.isFinite x = true → library.rhsRefusal x = none

/-- A bound that is no number is refused, and so is any other number that is not finite. -/
structure Strict (library : Library α) : Prop where
  lower : ∀ x upper, Scalar.isNaN x = true → library.boundsRefusal (some x) upper ≠ none
  upper : ∀ lower x, Scalar.isNaN x = true → library.boundsRefusal lower (some x) ≠ none
  coefficient : ∀ x, Scalar.isFinite x = false → library.coefficientRefusal x ≠ none
  rhs : ∀ x, Scalar.isFinite x = false → library.rhsRefusal x ≠ none

omit [Scalar α] in
/-- The variables found in a program are those with a coefficient. -/
def FindsUsed (library : Library α) : Prop :=
  ∀ (p : BoundedProgram α) i, i ∈ library.found p ↔ i ∈ p.used

omit [Scalar α] in
theorem FindsUsed.found_eq_nil_iff {library : Library α} (h : library.FindsUsed)
    (p : BoundedProgram α) : library.found p = [] ↔ p.used = [] := by
  simp only [List.eq_nil_iff_forall_not_mem, h p]

end Library

/-! ## The library in use -/

namespace Engine

theorem accepting_library : (library : Library α).Accepting where
  bounds lower upper hlower hupper := by
    cases lower <;> cases upper <;> simp_all [library]
  coefficient _ h := if_pos h
  rhs _ h := if_pos h

theorem findsUsed_library : (library : Library α).FindsUsed :=
  fun _ _ => Iff.rfl

end Engine

end LinearDispatch
