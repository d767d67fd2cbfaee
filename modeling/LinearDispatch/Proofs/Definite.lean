-- SUMMARY: Where arithmetic leaves the numbers: opposite infinities have no sum, an infinity times zero is none, and nothing else makes no number of numbers.
import LinearDispatch.Proofs.Signed

/-!
# Definite scalars

No number comes of numbers in two ways only: opposite infinities are added, or
an infinity is multiplied by zero. Finite numbers may come to that as well where
results are rounded, since a result beyond the range is infinite.
-/
namespace LinearDispatch

/-- Scalars that say exactly which sums and products are no number, and where equal numbers are
finite together. -/
class DefiniteScalar (α : Type) [Scalar α] : Prop extends SignedScalar α where
  isFinite_eq_of_eq {x y : α} : Scalar.eq x y = true → Scalar.isFinite x = Scalar.isFinite y
  isNaN_add_eq {x y : α} : Scalar.isNaN (x + y) = (Scalar.isNaN x || Scalar.isNaN y ||
    (Scalar.isInfinite x && Scalar.isInfinite y && !Scalar.eq x y))
  isNaN_mul_eq {x y : α} : Scalar.isNaN (x * y) = (Scalar.isNaN x || Scalar.isNaN y ||
    (Scalar.isInfinite x && Scalar.eq y 0) || (Scalar.eq x 0 && Scalar.isInfinite y))

namespace Scalar

variable {α : Type} [Scalar α]

open DefiniteScalar

/-! ## Kinds of numbers -/

theorem isInfinite_of_isFinite {x : α} (h : isFinite x = true) : isInfinite x = false := by
  simp [isInfinite, h]

section Kinds

variable [DefiniteScalar α] {x : α}

/-- What equals zero is finite, so that what is not finite counts as non-zero. -/
theorem isNonzero_of_not_isFinite (h : isFinite x = false) : isNonzero x = true := by
  rw [isNonzero, Bool.not_eq_true', Bool.eq_false_iff]
  intro hzero
  rw [isFinite_eq_of_eq hzero, LawfulScalar.isFinite_zero] at h
  cases h

/-- Adding zero to a finite number leaves it finite. -/
theorem isFinite_add_zero (h : isFinite x = true) : isFinite (x + 0) = true := by
  rw [isFinite_eq_of_eq (SignedScalar.add_zero_eq h), h]

theorem isNaN_zero : isNaN (0 : α) = false := by
  rw [Bool.eq_false_iff]
  intro h
  have hzero : eq (0 : α) 0 = true := by
    simpa [isNonzero] using SignedScalar.isNonzero_zero (α := α)
  rw [OrderedScalar.eq_of_isNaN (.inl h)] at hzero
  cases hzero

theorem isNaN_of_isFinite (h : isFinite x = true) : isNaN x = false := by
  have hsum : isNaN (0 + x) = isNaN (0 : α) := OrderedScalar.isNaN_add_finite h
  rw [isNaN_zero, Bool.eq_false_iff] at hsum
  exact Bool.eq_false_iff.2 fun hx => hsum (OrderedScalar.isNaN_add (.inr hx))

end Kinds

end Scalar

/-! ## Exact numbers -/

instance : DefiniteScalar Exact where
  isFinite_eq_of_eq {x y} h := by
    cases x with
    | finite p =>
      cases y with
      | finite q => rfl
      | _ => cases h
    | infinite s =>
      cases y with
      | infinite t => rfl
      | _ => cases h
    | notANumber => cases h
  isNaN_add_eq {x y} := by
    cases x with
    | finite p => cases y <;> rfl
    | infinite s =>
      cases y with
      | infinite t => cases s <;> cases t <;> rfl
      | _ => rfl
    | notANumber => rfl
  isNaN_mul_eq {x y} := by
    have hscaled : ∀ (s : Bool) (q : Rat),
        Scalar.isNaN (Exact.scaleInfinity s q) = Scalar.eq (Exact.finite q) 0 := by
      intro s q
      rw [Exact.scaleInfinity]
      split
      · next h => simp [h, Scalar.isNaN, Exact.isNaN]
      · next h => simp [h, Scalar.isNaN, Exact.isNaN, Scalar.eq, Exact.eq]
    cases x with
    | finite p =>
      cases y with
      | finite q => exact (Bool.and_false _).symm
      | infinite t => exact (hscaled t p).trans (Bool.and_true _).symm
      | notANumber => rfl
    | infinite s =>
      cases y with
      | finite q => exact (hscaled s q).trans (Bool.or_false _).symm
      | infinite t => cases s <;> cases t <;> rfl
      | notANumber => rfl
    | notANumber => rfl

/-! ## Floating point -/

namespace Binary64

open Float.Model (UnpackedFloat)
open Float.Model.UnpackedFloat

theorem isFinite_eq_of_beq {u v : UnpackedFloat} (h : u.beq v = true) :
    u.isFinite = v.isFinite := by
  obtain ⟨-, -, rfl | ⟨rfl, rfl⟩ | ⟨rfl, rfl⟩⟩ := (beq_iff_ne_notANumber_and_eq u v).1 h <;> rfl

/-- Infinite in either direction. -/
def isInfinite (u : UnpackedFloat) : Bool :=
  !u.isFinite && !u.isNaN

theorem isNaN_add_eq (u v : UnpackedFloat) :
    (UnpackedFloat.add .binary64 u v).isNaN =
      (u.isNaN || v.isNaN || (isInfinite u && isInfinite v && !u.beq v)) := by
  cases v with
  | notANumber => cases u <;> rfl
  | infinity t =>
    cases u with
    | infinity s => cases s <;> cases t <;> rfl
    | _ => rfl
  | zero t => rw [isNaN_add_finite rfl]; cases u <;> rfl
  | finite t n d hn => rw [isNaN_add_finite rfl]; cases u <;> rfl

theorem isNaN_mul_eq (u v : UnpackedFloat) :
    (UnpackedFloat.mul .binary64 u v).isNaN = (u.isNaN || v.isNaN ||
      (isInfinite u && v.beq plusZero) || (u.beq plusZero && isInfinite v)) := by
  cases u with
  | notANumber => rfl
  | infinity s =>
    cases v with
    | finite t n d hn => cases s <;> cases t <;> rfl
    | infinity t => cases s <;> cases t <;> rfl
    | zero t => rfl
    | notANumber => rfl
  | zero s =>
    cases v with
    | finite t n d hn => cases t <;> rfl
    | _ => rfl
  | finite s m e hm =>
    cases v with
    | finite t n d hn =>
      have hround : (UnpackedFloat.mul .binary64 (.finite s m e hm) (.finite t n d hn)).isNaN
          = false := by
        simp only [UnpackedFloat.mul, UnpackedFloat.roundWithAccuracy]
        split <;> rfl
      cases s <;> cases t <;> exact hround
    | infinity t => cases s <;> cases t <;> rfl
    | zero t => cases s <;> rfl
    | notANumber => rfl

end Binary64

instance : DefiniteScalar Float where
  isFinite_eq_of_eq h := Binary64.isFinite_eq_of_beq h
  isNaN_add_eq := (Binary64.isNaN_pack _).trans (Binary64.isNaN_add_eq _ _)
  isNaN_mul_eq := (Binary64.isNaN_pack _).trans (Binary64.isNaN_mul_eq _ _)

end LinearDispatch
