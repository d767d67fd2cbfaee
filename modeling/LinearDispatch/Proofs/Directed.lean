-- SUMMARY: Which way infinities go: they keep their direction in sums and fused steps, exactly and for doubles.
import LinearDispatch.Number.Fused
import LinearDispatch.Proofs.Definite

/-!
# Directed scalars

An infinity stands on one side of zero, and what it is added to does not bring it
to the other: the sum is that infinity, or no number. A fused step with an
infinite factor is a product and a sum. One with finite factors depends on the
number that is added alone where that is infinite or none, since a product that
is not rounded is not infinite.
-/
namespace LinearDispatch

namespace Scalar

variable {α : Type} [Scalar α]

/-- Which way an infinity goes: whether it is below zero. -/
def direction? (x : α) : Option Bool :=
  if isInfinite x then some (lt x 0) else none

theorem isInfinite_of_direction? {x : α} {d : Bool} (h : direction? x = some d) :
    isInfinite x = true := by
  rw [direction?] at h
  split at h
  · assumption
  · cases h

theorem exists_direction? {x : α} (h : isInfinite x = true) : ∃ d, direction? x = some d :=
  ⟨_, if_pos h⟩

end Scalar

open Scalar (isNaN isFinite isInfinite direction?)

/-- Scalars whose infinities keep their direction in sums, and whose fused steps with finite factors
only depend on the number that is added. -/
class DirectedScalar (α : Type) [Scalar α] [Fused α] : Prop extends DefiniteScalar α where
  eq_of_direction? {x y : α} {d : Bool} :
    direction? x = some d → direction? y = some d → Scalar.eq x y = true
  direction?_add {x y : α} {d : Bool} : isNaN (x + y) = false →
    direction? x = some d ∨ direction? y = some d → direction? (x + y) = some d
  isInfinite_mul {c x : α} : isInfinite c = true → isNaN (c * x) = false →
    isInfinite (c * x) = true
  isNaN_fma {c x u : α} : isFinite c = true → isFinite x = true → isNaN (Fused.fma c x u) = isNaN u
  direction?_fma {c x u : α} {d : Bool} : isFinite c = true → isFinite x = true →
    direction? u = some d → direction? (Fused.fma c x u) = some d
  fma_eq {c x u : α} : isFinite c = false → Fused.fma c x u = c * x + u

/-! ## Exact numbers -/

namespace Exact

theorem direction?_eq_some_iff {x : Exact} {d : Bool} :
    direction? x = some d ↔ x = .infinite d := by
  constructor
  · intro h
    cases x with
    | infinite s => exact congrArg _ (Option.some.inj h)
    | _ => cases h
  · rintro rfl
    rfl

/-- An infinity absorbs what it is added to, unless the sum is no number. -/
theorem infinite_add_eq {d : Bool} {y : Exact} (h : isNaN (infinite d + y) = false) :
    infinite d + y = infinite d := by
  cases y with
  | finite q => rfl
  | infinite t => cases d <;> cases t <;> first | rfl | cases h
  | notANumber => cases h

end Exact

instance : DirectedScalar Exact where
  eq_of_direction? hx hy := by
    rw [Exact.direction?_eq_some_iff.1 hx, Exact.direction?_eq_some_iff.1 hy]
    exact beq_self_eq_true (α := Bool) _
  direction?_add {x y d} hsum h := by
    simp only [Exact.direction?_eq_some_iff] at h ⊢
    rcases h with rfl | rfl
    · exact Exact.infinite_add_eq hsum
    · rw [Exact.add_comm] at hsum ⊢
      exact Exact.infinite_add_eq hsum
  isInfinite_mul {c x} hc hproduct := by
    obtain ⟨s, hs⟩ := Scalar.exists_direction? hc
    rw [Exact.direction?_eq_some_iff.1 hs] at hproduct ⊢
    cases x with
    | finite q =>
      change isNaN (Exact.scaleInfinity s q) = false at hproduct
      change isInfinite (Exact.scaleInfinity s q) = true
      rw [Exact.scaleInfinity] at hproduct ⊢
      split at hproduct
      · cases hproduct
      · next hq => rw [if_neg hq]; rfl
    | infinite t => rfl
    | notANumber => cases hproduct
  isNaN_fma {c x u} hc hx := by
    obtain ⟨p, rfl⟩ := Exact.isFinite_iff.1 hc
    obtain ⟨q, rfl⟩ := Exact.isFinite_iff.1 hx
    cases u <;> rfl
  direction?_fma {c x u d} hc hx hu := by
    obtain ⟨p, rfl⟩ := Exact.isFinite_iff.1 hc
    obtain ⟨q, rfl⟩ := Exact.isFinite_iff.1 hx
    rw [Exact.direction?_eq_some_iff] at hu ⊢
    rw [hu]
    rfl
  fma_eq _ := rfl

/-! ## Floating point -/

namespace Binary64

open Float.Model (UnpackedFloat)
open Float.Model.UnpackedFloat

/-- The infinity in one direction. -/
def infinityOf (below : Bool) : UnpackedFloat :=
  .infinity (if below then .negative else .positive)

theorem direction?_eq_some_iff {x : Float} {d : Bool} :
    direction? x = some d ↔ x.toModel.unpack = infinityOf d := by
  have hdirection : direction? x = if isInfinite x.toModel.unpack then
      some (x.toModel.unpack.lt plusZero) else none := by
    rw [direction?, lt_eq]
    rfl
  rw [hdirection]
  cases x.toModel.unpack with
  | infinity s =>
    cases s <;> cases d <;> simp [isInfinite, infinityOf, UnpackedFloat.lt, UnpackedFloat.compare,
      UnpackedFloat.isFinite, UnpackedFloat.isNaN]
  | _ => simp [isInfinite, infinityOf, UnpackedFloat.isFinite, UnpackedFloat.isNaN]

theorem unpack_pack_infinity (s : Sign) :
    (Float.Model.pack (.infinity s)).unpack = .infinity s := by
  cases s <;> rfl

/-- An infinity absorbs what it is added to, unless the sum is no number. -/
theorem infinity_add_eq {s : Sign} {v : UnpackedFloat}
    (h : (UnpackedFloat.add .binary64 (.infinity s) v).isNaN = false) :
    UnpackedFloat.add .binary64 (.infinity s) v = .infinity s := by
  cases v with
  | infinity t => cases s <;> cases t <;> first | rfl | cases h
  | notANumber => cases h
  | _ => rfl

theorem add_infinity_eq {u : UnpackedFloat} {s : Sign}
    (h : (UnpackedFloat.add .binary64 u (.infinity s)).isNaN = false) :
    UnpackedFloat.add .binary64 u (.infinity s) = .infinity s := by
  cases u with
  | infinity t => cases s <;> cases t <;> first | rfl | cases h
  | notANumber => cases h
  | _ => rfl

theorem infinity_mul {s : Sign} {v : UnpackedFloat}
    (h : (UnpackedFloat.mul .binary64 (.infinity s) v).isNaN = false) :
    ∃ t, UnpackedFloat.mul .binary64 (.infinity s) v = .infinity t := by
  cases v with
  | zero t => cases h
  | notANumber => cases h
  | _ => exact ⟨_, rfl⟩

theorem isNaN_zero_add (s : Sign) (u : UnpackedFloat) :
    (UnpackedFloat.add .binary64 (.zero s) u).isNaN = u.isNaN := by
  cases u with
  | zero t => cases s <;> cases t <;> rfl
  | _ => rfl

/-- With finite factors a fused step is no number only if the number added is none. -/
theorem isNaN_fuse {c x : UnpackedFloat} (u : UnpackedFloat) (hc : c.isFinite = true)
    (hx : x.isFinite = true) : (fuse c x u).isNaN = u.isNaN := by
  cases c with
  | infinity | notANumber => cases hc
  | zero s =>
    cases x with
    | infinity | notANumber => cases hx
    | zero t => exact isNaN_zero_add (s * t) u
    | finite t => exact isNaN_zero_add (s * t) u
  | finite s m e hm =>
    cases x with
    | infinity | notANumber => cases hx
    | zero t => exact isNaN_zero_add (s * t) u
    | finite t n d hn =>
      cases u with
      | finite r k b hk =>
        have hproduct : 0 < m * n := Nat.mul_pos hm hn
        exact isNaN_add_finite (u := .finite (s * t) (m * n) (e + d) hproduct)
          (v := .finite r k b hk) rfl
      | zero r =>
        change (UnpackedFloat.mul .binary64 (.finite s m e hm) (.finite t n d hn)).isNaN = false
        rw [isNaN_mul_eq]
        simp [UnpackedFloat.isNaN, isInfinite, UnpackedFloat.isFinite]
      | infinity | notANumber => rfl

theorem fuse_infinity {c x : UnpackedFloat} (s : Sign) (hc : c.isFinite = true)
    (hx : x.isFinite = true) : fuse c x (.infinity s) = .infinity s := by
  cases c with
  | infinity | notANumber => cases hc
  | zero =>
    cases x with
    | infinity | notANumber => cases hx
    | zero | finite => rfl
  | finite =>
    cases x with
    | infinity | notANumber => cases hx
    | zero | finite => rfl

/-- A product with an infinity is not rounded. -/
theorem fuse_eq {c : UnpackedFloat} (hc : c.isFinite = false) (x u : UnpackedFloat) :
    fuse c x u =
      .add .binary64 (Float.Model.pack (UnpackedFloat.mul .binary64 c x)).unpack u := by
  have hnone : (Float.Model.pack .notANumber).unpack = .notANumber :=
    eq_notANumber (isNaN_pack .notANumber)
  have hproduct : (Float.Model.pack (UnpackedFloat.mul .binary64 c x)).unpack =
      UnpackedFloat.mul .binary64 c x := by
    cases c with
    | notANumber => exact hnone
    | infinity s =>
      cases x with
      | infinity t => exact unpack_pack_infinity _
      | finite t => exact unpack_pack_infinity _
      | zero | notANumber => exact hnone
    | _ => cases hc
  rw [hproduct]
  cases c with
  | infinity | notANumber => rfl
  | _ => cases hc

end Binary64

instance : DirectedScalar Float where
  eq_of_direction? {x y d} hx hy := by
    rw [Binary64.eq_eq, Binary64.direction?_eq_some_iff.1 hx, Binary64.direction?_eq_some_iff.1 hy]
    cases d <;> rfl
  direction?_add {x y d} hsum h := by
    have hnumber : (Float.Model.UnpackedFloat.add .binary64 x.toModel.unpack
        y.toModel.unpack).isNaN = false :=
      (Binary64.isNaN_pack _).symm.trans hsum
    simp only [Binary64.direction?_eq_some_iff] at h ⊢
    change (Float.Model.pack (.add .binary64 x.toModel.unpack y.toModel.unpack)).unpack = _
    rcases h with h | h
    · rw [h, Binary64.infinityOf] at hnumber ⊢
      rw [Binary64.infinity_add_eq hnumber, Binary64.unpack_pack_infinity]
    · rw [h, Binary64.infinityOf] at hnumber ⊢
      rw [Binary64.add_infinity_eq hnumber, Binary64.unpack_pack_infinity]
  isInfinite_mul {c x} hc hproduct := by
    obtain ⟨d, hd⟩ := Scalar.exists_direction? hc
    rw [Binary64.direction?_eq_some_iff] at hd
    have hnumber : (Float.Model.UnpackedFloat.mul .binary64 c.toModel.unpack
        x.toModel.unpack).isNaN = false :=
      (Binary64.isNaN_pack _).symm.trans hproduct
    rw [hd] at hnumber
    obtain ⟨t, ht⟩ := Binary64.infinity_mul hnumber
    change Binary64.isInfinite
      (Float.Model.pack (.mul .binary64 c.toModel.unpack x.toModel.unpack)).unpack = true
    rw [hd, Binary64.infinityOf, ht, Binary64.unpack_pack_infinity]
    rfl
  isNaN_fma {c x u} hc hx := (Binary64.isNaN_pack _).trans (Binary64.isNaN_fuse _ hc hx)
  direction?_fma {c x u d} hc hx hu := by
    rw [Binary64.direction?_eq_some_iff] at hu ⊢
    change (Float.Model.pack (Binary64.fuse _ _ u.toModel.unpack)).unpack = _
    rw [hu, Binary64.infinityOf, Binary64.fuse_infinity _ hc hx, Binary64.unpack_pack_infinity]
  fma_eq {c x u} hc := congrArg Float.ofModel (congrArg Float.Model.pack (Binary64.fuse_eq hc _ _))

end LinearDispatch
