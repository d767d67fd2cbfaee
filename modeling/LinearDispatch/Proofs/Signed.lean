-- SUMMARY: Zero and signs: adding zero changes no comparison, and a number and its negative stand on opposite sides of zero.
import Mathlib
import LinearDispatch.Proofs.Ordered

/-!
# Signed scalars

Zero compares with a number by the number's sign alone. To add it or to take it
away changes no comparison, and a negation turns the comparison with zero
around. So the several ways in which the lowerings and the check of constant
rows ask how zero stands to a right-hand side come to the same, also for
infinities and for what is no number.

Floating point has two zeros, which compare alike. Its operations with zero are
exact: the result is written for a value that is already of the format, and is
read back as it was. That a pattern of bits is read back as it was written is
found in Mathlib as a whole only, in none of its modules.
-/
namespace LinearDispatch

/-- Scalars that compare with zero by their sign, and where the units are not zero. -/
class SignedScalar (α : Type) [Scalar α] : Prop extends OrderedScalar α where
  le_add_zero {x : α} : Scalar.le 0 (x + 0) = Scalar.le 0 x
  sub_zero_le {x : α} : Scalar.le (x - 0) 0 = Scalar.le x 0
  le_neg {x : α} : Scalar.le 0 (-x) = Scalar.le x 0
  eq_zero {x : α} : Scalar.eq 0 x = (Scalar.le 0 x && Scalar.le x 0)
  abs_zero_sub_le {x : α} : Scalar.le (Scalar.abs (0 - x)) 0 = Scalar.eq 0 x
  add_zero_eq {x : α} : Scalar.isFinite x = true → Scalar.eq (x + 0) x = true
  isNonzero_zero : Scalar.isNonzero (0 : α) = false
  isNonzero_one : Scalar.isNonzero (1 : α) = true
  isNonzero_neg_one : Scalar.isNonzero (-1 : α) = true

namespace Relation

variable {α : Type} [Scalar α]

/-- Whether the two sides stand in the relation as they are. -/
def compares (r : Relation) (lhs rhs : α) : Bool :=
  match r with
  | .atMost  => Scalar.le lhs rhs
  | .atLeast => Scalar.le rhs lhs
  | .equal   => Scalar.eq lhs rhs

/-- Without a tolerance the test of a constant row is the plain comparison. -/
theorem holds_zero_eq [SignedScalar α] (r : Relation) (b : α) : r.holds 0 b 0 = r.compares 0 b := by
  cases r with
  | atMost => exact SignedScalar.le_add_zero
  | atLeast => exact SignedScalar.sub_zero_le
  | equal => exact SignedScalar.abs_zero_sub_le

end Relation

/-! ## Exact numbers -/

instance : SignedScalar Exact where
  le_add_zero {x} := by
    cases x with
    | finite q => simp
    | _ => rfl
  sub_zero_le {x} := by
    cases x with
    | finite q => simp
    | _ => rfl
  le_neg {x} := by
    cases x with
    | finite q =>
      rw [Bool.eq_iff_iff]
      simp
    | infinite s => cases s <;> rfl
    | notANumber => rfl
  eq_zero {x} := by
    cases x with
    | finite q =>
      rw [Bool.eq_iff_iff, Bool.and_eq_true, Exact.zero_eq, Exact.eq_finite, Exact.le_finite,
        Exact.le_finite]
      exact le_antisymm_iff
    | infinite s => cases s <;> rfl
    | notANumber => rfl
  abs_zero_sub_le {x} := by
    cases x with
    | finite q =>
      rw [Bool.eq_iff_iff, Scalar.abs]
      simp only [Exact.zero_eq, Exact.finite_sub, Exact.lt_finite, Exact.eq_finite]
      split <;> simp only [Exact.neg_finite, Exact.le_finite] <;> constructor <;> intro h <;>
        linarith
    | infinite s => cases s <;> rfl
    | notANumber => rfl
  add_zero_eq {x} hx := by
    cases x with
    | finite q => simp
    | infinite s => cases hx
    | notANumber => cases hx
  isNonzero_zero := rfl
  isNonzero_one := rfl
  isNonzero_neg_one := rfl

/-! ## Floating point -/

namespace Binary64

open Float.Model (UnpackedFloat Format)
open Float.Model.UnpackedFloat

variable {b : BitVec Format.binary64.numBits}

/-! ### Exact results -/

/-- What was read off a pattern is written and read back as it is. -/
theorem unpack_pack_unpack :
    unpack .binary64 (UnpackedFloat.pack .binary64 (unpack .binary64 b)) = unpack .binary64 b := by
  rw [pack_unpack]
  split
  · next hnan =>
    rw [isNaNBits, decide_eq_true_iff] at hnan
    rw [unpack_packedNaN, UnpackedFloat.unpack]
    simp [hnan]
  · rfl

/-- Turning the sign bit around negates. -/
theorem unpack_packComponents_neg :
    unpack .binary64 (packComponents .binary64 (-Sign.ofBitVec (unpackSign b)) (unpackExponent b)
      (unpackMantissa b)) = (unpack .binary64 b).neg := by
  simp only [UnpackedFloat.unpack, unpackSign_packComponents, unpackExponent_packComponents,
    unpackMantissa_packComponents, Sign.ofBitVec_toBitVec]
  split
  · split <;> rfl
  · split
    · split <;> rfl
    · rfl

/-- The value is one of the format: it is written and read back as it is. -/
def Written (u : UnpackedFloat) : Prop :=
  (Float.Model.pack u).unpack = u

theorem written_unpack (x : Float.Model) : Written x.unpack :=
  unpack_pack_unpack

variable {u : UnpackedFloat}

theorem Written.neg (h : Written u) : Written u.neg := by
  rw [← h]
  change unpack .binary64 (UnpackedFloat.pack .binary64 (unpack .binary64 _).neg) = _
  rw [← unpack_packComponents_neg, unpack_pack_unpack, unpack_packComponents_neg]
  rfl

/-- The positive zero, the zero of the doubles. -/
abbrev plusZero : UnpackedFloat :=
  .zero .positive

/-- A sum with zero is one of its terms, and is not rounded. -/
theorem Written.add_zero (h : Written u) : Written (.add .binary64 u plusZero) := by
  cases u with
  | zero s => cases s <;> rfl
  | _ => exact h

theorem Written.sub_zero (h : Written u) : Written (.sub .binary64 u plusZero) := by
  cases u with
  | zero s => cases s <;> rfl
  | _ => exact h

theorem Written.zero_sub (h : Written u) : Written (.sub .binary64 plusZero u) := by
  cases u with
  | zero s => cases s <;> rfl
  | _ => exact h.neg

/-! ### Comparisons with zero -/

theorem le_add_zero (h : Written u) :
    plusZero.le (Float.Model.pack (.add .binary64 u plusZero)).unpack = plusZero.le u := by
  rw [h.add_zero]
  cases u with
  | zero s => cases s <;> rfl
  | _ => rfl

theorem sub_zero_le (h : Written u) :
    (Float.Model.pack (.sub .binary64 u plusZero)).unpack.le plusZero = u.le plusZero := by
  rw [h.sub_zero]
  cases u with
  | zero s => cases s <;> rfl
  | _ => rfl

theorem le_neg (h : Written u) : plusZero.le (Float.Model.pack u.neg).unpack = u.le plusZero := by
  rw [h.neg]
  cases u with
  | notANumber => rfl
  | infinity s => cases s <;> rfl
  | zero s => rfl
  | finite s => cases s <;> rfl

theorem eq_zero : plusZero.beq u = (plusZero.le u && u.le plusZero) := by
  cases u with
  | notANumber => rfl
  | infinity s => cases s <;> rfl
  | zero s => rfl
  | finite s => cases s <;> rfl

theorem abs_zero_sub_le (h : Written u) :
    let v := (Float.Model.pack (.sub .binary64 plusZero u)).unpack
    (if v.lt plusZero then (Float.Model.pack v.neg).unpack.le plusZero else v.le plusZero) =
      plusZero.beq u := by
  intro v
  have hv : v = .sub .binary64 plusZero u := h.zero_sub
  rw [hv, h.zero_sub.neg]
  cases u with
  | notANumber => rfl
  | infinity s => cases s <;> rfl
  | zero s => cases s <;> rfl
  | finite s => cases s <;> rfl

theorem add_zero_eq (h : Written u) (hfinite : u.isFinite = true) :
    (Float.Model.pack (.add .binary64 u plusZero)).unpack.beq u = true := by
  rw [h.add_zero]
  cases u with
  | notANumber => cases hfinite
  | infinity s => cases hfinite
  | zero s => cases s <;> rfl
  | finite s => exact (beq_iff_ne_notANumber_and_eq _ _).2 ⟨nofun, nofun, .inl rfl⟩

end Binary64

instance : SignedScalar Float where
  le_add_zero {x} := by
    rw [Binary64.le_eq, Binary64.le_eq]
    exact Binary64.le_add_zero (Binary64.written_unpack x.toModel)
  sub_zero_le {x} := by
    rw [Binary64.le_eq, Binary64.le_eq]
    exact Binary64.sub_zero_le (Binary64.written_unpack x.toModel)
  le_neg {x} := by
    rw [Binary64.le_eq, Binary64.le_eq]
    exact Binary64.le_neg (Binary64.written_unpack x.toModel)
  eq_zero {x} := by
    rw [Binary64.eq_eq, Binary64.le_eq, Binary64.le_eq]
    exact Binary64.eq_zero
  abs_zero_sub_le {x} := by
    rw [Scalar.abs, Binary64.eq_eq, Binary64.lt_eq, Binary64.le_eq]
    refine Eq.trans ?_ (Binary64.abs_zero_sub_le (Binary64.written_unpack x.toModel))
    split
    · next h => exact (if_pos h).symm
    · next h => exact (if_neg h).symm
  add_zero_eq {x} hfinite := Binary64.add_zero_eq (Binary64.written_unpack x.toModel) hfinite
  isNonzero_zero := rfl
  isNonzero_one := rfl
  isNonzero_neg_one := rfl

end LinearDispatch
