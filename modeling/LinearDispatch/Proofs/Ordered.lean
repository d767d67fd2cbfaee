-- SUMMARY: Numbers compare, and what is no number neither compares nor goes away: it spreads through sums and products, and no test that has to hold holds of it.
import LinearDispatch.Number.Binary64
import LinearDispatch.Proofs.Exact
import LinearDispatch.Relation

/-!
# Ordered scalars

Two scalars that are numbers compare one way or the other. The value that is no
number compares with nothing, and an operation that is given it answers with
it. So a test that asks for a comparison to hold refuses it, and a test that
asks for one to fail lets it pass.

Both kinds of scalars are of this sort. For floating point this is read off the
bits: the one pattern of no number is written for no other value.
-/
namespace LinearDispatch

/-- Scalars whose numbers are ordered, and where nothing but no number comes of no number. -/
class OrderedScalar (α : Type) [Scalar α] : Prop extends LawfulScalar α where
  le_eq_not_lt {x y : α} : Scalar.isNaN x = false → Scalar.isNaN y = false →
    Scalar.le x y = !Scalar.lt y x
  le_of_isNaN {x y : α} : Scalar.isNaN x = true ∨ Scalar.isNaN y = true → Scalar.le x y = false
  lt_of_isNaN {x y : α} : Scalar.isNaN x = true ∨ Scalar.isNaN y = true → Scalar.lt x y = false
  eq_of_isNaN {x y : α} : Scalar.isNaN x = true ∨ Scalar.isNaN y = true → Scalar.eq x y = false
  isNaN_add {x y : α} : Scalar.isNaN x = true ∨ Scalar.isNaN y = true → Scalar.isNaN (x + y) = true
  isNaN_sub {x y : α} : Scalar.isNaN x = true ∨ Scalar.isNaN y = true → Scalar.isNaN (x - y) = true
  isNaN_mul {x y : α} : Scalar.isNaN x = true ∨ Scalar.isNaN y = true → Scalar.isNaN (x * y) = true
  isNaN_add_finite {x y : α} : Scalar.isFinite y = true → Scalar.isNaN (x + y) = Scalar.isNaN x
  isNaN_sub_finite {x y : α} : Scalar.isFinite y = true → Scalar.isNaN (x - y) = Scalar.isNaN x

/-! ## Tests -/

section Tests

variable {α : Type} [Scalar α] [OrderedScalar α] {x y t : α}

open OrderedScalar

namespace Scalar

theorem isNaN_abs (h : isNaN x = true) : isNaN (abs x) = true := by
  rw [abs, lt_of_isNaN (.inl h)]
  exact h

/-- What is no number is close to nothing, itself included. -/
theorem isClose_of_isNaN (h : isNaN x = true) : isClose t x y = false := by
  have hinfinite : isInfinite x = false := by simp [isInfinite, h]
  have hdistance : le (abs (y - x)) t = false :=
    le_of_isNaN (.inl (isNaN_abs (isNaN_sub (.inr h))))
  simp [isClose, eq_of_isNaN (.inl h), hinfinite, hdistance]

/-- One term that is no number leaves no number for a sum. -/
theorem isNaN_sum {xs : List α} (h : ∃ x ∈ xs, isNaN x = true) : isNaN (sum xs) = true := by
  have hfold : ∀ start : α, (isNaN start = true ∨ ∃ x ∈ xs, isNaN x = true) →
      isNaN (xs.foldl (· + ·) start) = true := by
    clear h
    induction xs with
    | nil => simp
    | cons x xs ih =>
      rintro start (hstart | ⟨y, hy, hnan⟩)
      · exact ih _ (.inl (isNaN_add (.inl hstart)))
      · rcases List.mem_cons.1 hy with rfl | hxs
        · exact ih _ (.inl (isNaN_add (.inr hnan)))
        · exact ih _ (.inr ⟨y, hxs, hnan⟩)
  exact hfold 0 (.inr h)

end Scalar

/-- No relation holds of what is no number. -/
theorem Relation.holds_of_isNaN (r : Relation) (h : Scalar.isNaN x = true) :
    r.holds x y t = false := by
  cases r with
  | atMost => exact le_of_isNaN (.inl h)
  | atLeast => exact le_of_isNaN (.inr h)
  | equal => exact le_of_isNaN (.inl (Scalar.isNaN_abs (isNaN_sub (.inl h))))

end Tests

/-- What holds with one value on either side holds of any pair that has it. -/
theorem of_eq_or_eq {β : Type} {P : β → β → Prop} {b : β} (hleft : ∀ y, P b y)
    (hright : ∀ x, P x b) {x y : β} (h : x = b ∨ y = b) : P x y := by
  rcases h with rfl | rfl
  · exact hleft y
  · exact hright x

/-! ## Exact numbers -/

namespace Exact

theorem isNaN_iff {x : Exact} : Scalar.isNaN x = true ↔ x = .notANumber := by
  cases x <;> simp [Scalar.isNaN, isNaN]

theorem of_isNaN {P : Exact → Exact → Prop} (hleft : ∀ y, P .notANumber y)
    (hright : ∀ x, P x .notANumber) {x y : Exact}
    (h : Scalar.isNaN x = true ∨ Scalar.isNaN y = true) : P x y :=
  of_eq_or_eq hleft hright (h.imp isNaN_iff.1 isNaN_iff.1)

theorem le_eq_not_lt {x y : Exact} (hx : Scalar.isNaN x = false) (hy : Scalar.isNaN y = false) :
    Scalar.le x y = !Scalar.lt y x := by
  cases x with
  | finite p =>
    cases y with
    | finite q =>
      rw [Bool.eq_iff_iff, Bool.not_eq_true', Bool.eq_false_iff, Ne, le_finite, lt_finite, not_lt]
    | infinite s => rfl
    | notANumber => cases hy
  | infinite s =>
    cases y with
    | finite q => simp
    | infinite t => cases s <;> cases t <;> rfl
    | notANumber => cases hy
  | notANumber => cases hx

end Exact

instance : OrderedScalar Exact where
  le_eq_not_lt := Exact.le_eq_not_lt
  le_of_isNaN :=
    Exact.of_isNaN (P := fun x y => Scalar.le x y = false) (fun _ => rfl) fun x => by
      cases x <;> rfl
  lt_of_isNaN :=
    Exact.of_isNaN (P := fun x y => Scalar.lt x y = false) (fun _ => rfl) fun x => by
      cases x <;> rfl
  eq_of_isNaN :=
    Exact.of_isNaN (P := fun x y => Scalar.eq x y = false) (fun _ => rfl) fun x => by
      cases x <;> rfl
  isNaN_add :=
    Exact.of_isNaN (P := fun x y => Scalar.isNaN (x + y) = true) (fun _ => rfl) fun x => by
      cases x <;> rfl
  isNaN_sub :=
    Exact.of_isNaN (P := fun x y => Scalar.isNaN (x - y) = true) (fun _ => rfl) fun x => by
      cases x <;> rfl
  isNaN_mul :=
    Exact.of_isNaN (P := fun x y => Scalar.isNaN (x * y) = true) (fun _ => rfl) fun x => by
      cases x <;> rfl
  isNaN_add_finite {x y} hy := by
    obtain ⟨q, rfl⟩ := Exact.isFinite_iff.1 hy
    cases x <;> rfl
  isNaN_sub_finite {x y} hy := by
    obtain ⟨q, rfl⟩ := Exact.isFinite_iff.1 hy
    cases x <;> rfl

/-! ## Floating point -/

namespace Binary64

open Float.Model (UnpackedFloat)
open Float.Model.UnpackedFloat

/-! ### Comparisons -/

/-- Comparing in the other direction turns the result around. -/
theorem compare_swap (u v : UnpackedFloat) : u.compare v = (v.compare u).map Ordering.swap := by
  have hmagnitude : ∀ (m n : Nat) (e d : Int),
      (compare e d).then (compare m n) = ((compare d e).then (compare n m)).swap := by
    intro m n e d
    rw [Ordering.swap_then, ← Std.OrientedCmp.eq_swap, ← Std.OrientedCmp.eq_swap]
  cases u with
  | notANumber => cases v <;> rfl
  | infinity s =>
    cases v with
    | infinity t => cases s <;> cases t <;> rfl
    | _ => cases s <;> rfl
  | zero s =>
    cases v with
    | infinity t => cases t <;> rfl
    | finite t n d hn => cases t <;> rfl
    | _ => rfl
  | finite s m e hm =>
    cases v with
    | infinity t => cases t <;> rfl
    | finite t n d hn =>
      cases s <;> cases t
      · exact congrArg some (congrArg Ordering.swap (hmagnitude m n e d))
      · rfl
      · rfl
      · exact congrArg some (hmagnitude m n e d)
    | _ => cases s <;> rfl

/-- Two values do not compare exactly where one of them is no number. -/
theorem isNone_compare (u v : UnpackedFloat) : (u.compare v).isNone = (u.isNaN || v.isNaN) := by
  cases u with
  | notANumber => rfl
  | infinity s => cases v <;> cases s <;> rfl
  | zero s =>
    cases v with
    | infinity t | finite t n d hn => cases t <;> rfl
    | zero | notANumber => rfl
  | finite s m e hm =>
    cases v with
    | infinity t | finite t n d hn => cases s <;> cases t <;> rfl
    | zero | notANumber => cases s <;> rfl

theorem compare_eq_none {u v : UnpackedFloat} (h : u.isNaN = true ∨ v.isNaN = true) :
    u.compare v = none := by
  rw [← Option.isNone_iff_eq_none, isNone_compare, Bool.or_eq_true]
  exact h

theorem le_eq_not_lt {u v : UnpackedFloat} (hu : u.isNaN = false) (hv : v.isNaN = false) :
    u.le v = !v.lt u := by
  have hcompares : (u.compare v).isNone = false := by rw [isNone_compare, hu, hv, Bool.or_self]
  obtain ⟨o, ho⟩ := Option.isSome_iff_exists.1 (Option.isNone_eq_false_iff.1 hcompares)
  have hswap : v.compare u = some o.swap := by rw [compare_swap, ho, Option.map_some]
  rw [UnpackedFloat.le, UnpackedFloat.lt, ho, hswap]
  cases o <;> rfl

/-! ### Bits -/

theorem isNaN_dite {p : Prop} [Decidable p] {u : p → UnpackedFloat} {v : ¬p → UnpackedFloat}
    (hu : ∀ h, (u h).isNaN = false) (hv : ∀ h, (v h).isNaN = false) :
    (dite p u v).isNaN = false := by
  by_cases h : p
  · rw [dif_pos h]
    exact hu h
  · rw [dif_neg h]
    exact hv h

/-- The pattern of no number has the largest exponent, and no finite value is written with that. -/
theorem isNaN_unpack_packComponents {s : Sign} {e : BitVec 11} {m : BitVec 52}
    (he : e ≠ -1#11) : (unpack .binary64 (packComponents .binary64 s e m)).isNaN = false := by
  have hexponent : unpackExponent (packComponents .binary64 s e m) ≠ -1#11 := by
    rwa [unpackExponent_packComponents]
  delta UnpackedFloat.unpack
  dsimp only
  rw [if_neg hexponent]
  exact isNaN_dite (fun _ => isNaN_dite (fun _ => rfl) fun _ => rfl) fun _ => rfl

theorem isNaN_pack (u : UnpackedFloat) : (Float.Model.pack u).isNaN = u.isNaN := by
  change (unpack .binary64 (UnpackedFloat.pack .binary64 u)).isNaN = u.isNaN
  cases u with
  | notANumber => rfl
  | infinity s => cases s <;> rfl
  | zero s => cases s <;> rfl
  | finite s m e hm =>
    change (unpack .binary64 (UnpackedFloat.pack .binary64 (.finite s m e hm))).isNaN = false
    delta UnpackedFloat.pack
    dsimp only
    split
    · cases s <;> rfl
    · next hsmall =>
      split
      · refine isNaN_unpack_packComponents fun hlargest => hsmall ?_
        have hexponent := congrArg BitVec.toNat hlargest
        simp at hexponent
        omega
      · exact isNaN_unpack_packComponents (by decide)

/-! ### Operations -/

theorem eq_notANumber {u : UnpackedFloat} (h : u.isNaN = true) : u = .notANumber := by
  cases u with
  | notANumber => rfl
  | infinity | zero | finite => cases h

/-- An operation that answers no number with itself still does so once its result is written. -/
theorem isNaN_operate {op : UnpackedFloat → UnpackedFloat → UnpackedFloat}
    (hleft : ∀ v, op .notANumber v = .notANumber) (hright : ∀ u, op u .notANumber = .notANumber)
    {u v : UnpackedFloat} (h : u.isNaN = true ∨ v.isNaN = true) :
    (Float.Model.pack (op u v)).isNaN = true := by
  have hresult : op u v = .notANumber :=
    of_eq_or_eq (P := fun u v => op u v = .notANumber) hleft hright
      (h.imp eq_notANumber eq_notANumber)
  rw [isNaN_pack, hresult]
  rfl

theorem isNaN_round (s : Sign) (m : Nat) (e : Int) :
    (UnpackedFloat.round .binary64 s m e).isNaN = false :=
  isNaN_dite (fun _ => rfl) fun _ => rfl

theorem isNaN_normalize (m e : Int) (s : Sign) :
    (UnpackedFloat.normalize .binary64 m e s).isNaN = false := by
  rw [UnpackedFloat.normalize]
  split
  · exact isNaN_round ..
  · rfl
  · exact isNaN_round ..

theorem isNaN_add_finite {u v : UnpackedFloat} (hv : v.isFinite = true) :
    (UnpackedFloat.add .binary64 u v).isNaN = u.isNaN := by
  cases v with
  | notANumber => cases hv
  | infinity t => cases hv
  | zero t =>
    cases u with
    | zero s => cases s <;> cases t <;> rfl
    | _ => rfl
  | finite t n d hn =>
    cases u with
    | finite s m e hm => exact isNaN_normalize ..
    | _ => rfl

theorem isNaN_sub_finite {u v : UnpackedFloat} (hv : v.isFinite = true) :
    (UnpackedFloat.sub .binary64 u v).isNaN = u.isNaN := by
  cases v with
  | notANumber => cases hv
  | infinity t => cases hv
  | zero t =>
    cases u with
    | zero s => cases s <;> cases t <;> rfl
    | _ => rfl
  | finite t n d hn =>
    cases u with
    | finite s m e hm => exact isNaN_normalize ..
    | _ => rfl

/-! ### Doubles -/

theorem le_eq (x y : Float) : Scalar.le x y = x.toModel.unpack.le y.toModel.unpack :=
  Bool.decide_eq_true

theorem lt_eq (x y : Float) : Scalar.lt x y = x.toModel.unpack.lt y.toModel.unpack :=
  Bool.decide_eq_true

theorem eq_eq (x y : Float) : Scalar.eq x y = x.toModel.unpack.beq y.toModel.unpack :=
  rfl

end Binary64

instance : OrderedScalar Float where
  le_eq_not_lt {x y} hx hy := by
    rw [Binary64.le_eq, Binary64.lt_eq]
    exact Binary64.le_eq_not_lt hx hy
  le_of_isNaN {x y} h := by
    rw [Binary64.le_eq, Float.Model.UnpackedFloat.le, Binary64.compare_eq_none h]
    rfl
  lt_of_isNaN {x y} h := by
    rw [Binary64.lt_eq, Float.Model.UnpackedFloat.lt, Binary64.compare_eq_none h]
    rfl
  eq_of_isNaN {x y} h := by
    change (x.toModel.unpack.compare y.toModel.unpack == some .eq) = false
    rw [Binary64.compare_eq_none h]
    rfl
  isNaN_add := Binary64.isNaN_operate (fun _ => rfl) fun u => by cases u <;> rfl
  isNaN_sub := Binary64.isNaN_operate (fun _ => rfl) fun u => by cases u <;> rfl
  isNaN_mul := Binary64.isNaN_operate (fun _ => rfl) fun u => by cases u <;> rfl
  isNaN_add_finite hy := (Binary64.isNaN_pack _).trans (Binary64.isNaN_add_finite hy)
  isNaN_sub_finite hy := (Binary64.isNaN_pack _).trans (Binary64.isNaN_sub_finite hy)

end LinearDispatch
