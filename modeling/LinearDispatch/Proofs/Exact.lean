-- SUMMARY: Exact arithmetic on finite numbers: the operations are those of the rationals, and a dot product of finite numbers is a linear form.
import Mathlib.Algebra.BigOperators.Group.List.Basic
import Mathlib.Algebra.Order.Ring.Rat
import Mathlib.Tactic.Linarith
import Mathlib.Tactic.Ring
import LinearDispatch.Number.Exact

/-!
# Exact arithmetic on finite numbers

On finite numbers the exact scalars are the rationals: sums and products stay
finite, and comparisons are those of the rationals. So the dot product of a
row of finite numbers with a point is the value of a linear form, and it is
linear forms that the lemmas on rows and programs speak about.
-/
namespace LinearDispatch.Exact

/-! ## Operations -/

@[simp] theorem zero_eq : (0 : Exact) = .finite 0 := rfl
@[simp] theorem one_eq : (1 : Exact) = .finite 1 := rfl

@[simp] theorem finite_add (p q : Rat) : Exact.finite p + .finite q = .finite (p + q) := rfl
@[simp] theorem finite_mul (p q : Rat) : Exact.finite p * .finite q = .finite (p * q) := rfl
@[simp] theorem neg_finite (q : Rat) : -Exact.finite q = .finite (-q) := rfl

@[simp] theorem finite_sub (p q : Rat) : Exact.finite p - .finite q = .finite (p - q) := by
  rw [Rat.sub_eq_add_neg]
  rfl

@[simp] theorem infinite_add (s : Bool) (q : Rat) :
    Exact.infinite s + .finite q = .infinite s := rfl

@[simp] theorem infinite_sub (s : Bool) (q : Rat) :
    Exact.infinite s - .finite q = .infinite s := rfl

@[simp] theorem isFinite_finite (q : Rat) : Scalar.isFinite (Exact.finite q) = true := rfl
@[simp] theorem isFinite_infinite (s : Bool) : Scalar.isFinite (Exact.infinite s) = false := rfl
@[simp] theorem isNaN_infinite (s : Bool) : Scalar.isNaN (Exact.infinite s) = false := rfl

@[simp] theorem le_finite (p q : Rat) :
    Scalar.le (Exact.finite p) (.finite q) = true ↔ p ≤ q :=
  decide_eq_true_iff

@[simp] theorem lt_finite (p q : Rat) :
    Scalar.lt (Exact.finite p) (.finite q) = true ↔ p < q :=
  decide_eq_true_iff

@[simp] theorem eq_finite (p q : Rat) :
    Scalar.eq (Exact.finite p) (.finite q) = true ↔ p = q :=
  decide_eq_true_iff

@[simp] theorem le_infinite_left (s : Bool) (q : Rat) :
    Scalar.le (Exact.infinite s) (.finite q) = s := rfl

@[simp] theorem le_infinite_right (q : Rat) (s : Bool) :
    Scalar.le (Exact.finite q) (.infinite s) = !s := rfl

@[simp] theorem lt_infinite_left (s : Bool) (q : Rat) :
    Scalar.lt (Exact.infinite s) (.finite q) = s := rfl

@[simp] theorem lt_infinite_right (q : Rat) (s : Bool) :
    Scalar.lt (Exact.finite q) (.infinite s) = !s := rfl

theorem isFinite_iff {a : Exact} : Scalar.isFinite a = true ↔ ∃ q, a = .finite q := by
  cases a with
  | finite q => simp
  | infinite s => simp
  | notANumber => simp [Scalar.isFinite, isFinite]

/-! ## Sums -/

/-- Opposite infinities make a sum no number wherever they stand. -/
protected theorem add_assoc (x y z : Exact) : x + y + z = x + (y + z) := by
  change (x.add y).add z = x.add (y.add z)
  cases x <;> cases y <;> cases z <;> simp only [add] <;> grind [add]

protected theorem add_comm (x y : Exact) : x + y = y + x := by
  change x.add y = y.add x
  cases x <;> cases y <;> grind [add]

protected theorem add_zero (x : Exact) : x + 0 = x := by
  change x.add (.finite 0) = x
  cases x <;> simp [add]

instance : Std.Associative fun x y : Exact => x + y where
  assoc := Exact.add_assoc

instance : Std.Commutative fun x y : Exact => x + y where
  comm := Exact.add_comm

instance : Std.LawfulIdentity (fun x y : Exact => x + y) 0 where
  left_id x := (Exact.add_comm 0 x).trans (Exact.add_zero x)
  right_id := Exact.add_zero

/-- Exact sums may be taken from either end. -/
theorem sum_eq (xs : List Exact) : Scalar.sum xs = xs.sum :=
  List.sum_eq_foldl.symm

/-! ## Lists of finite numbers -/

/-- Rationals as exact numbers. -/
def vector (x : List Rat) : List Exact :=
  x.map .finite

@[simp] theorem vector_nil : vector [] = [] := rfl
@[simp] theorem vector_cons (q : Rat) (x : List Rat) :
    vector (q :: x) = .finite q :: vector x := rfl

@[simp] theorem length_vector (x : List Rat) : (vector x).length = x.length := List.length_map ..

theorem vector_injective : Function.Injective vector :=
  List.map_injective_iff.2 fun _ _ h => Exact.finite.inj h

theorem replicate_zero (n : Nat) : List.replicate n (0 : Exact) = vector (List.replicate n 0) := by
  simp [vector]

theorem set_vector (x : List Rat) (i : Nat) (q : Rat) :
    (vector x).set i (.finite q) = vector (x.set i q) := by
  simp [vector, List.map_set]

theorem map_neg_vector (x : List Rat) : (vector x).map (- ·) = vector (x.map (- ·)) := by
  simp [vector]

theorem exists_vector {row : List Exact} (h : ∀ a ∈ row, Scalar.isFinite a = true) :
    ∃ a, row = vector a := by
  induction row with
  | nil => exact ⟨[], rfl⟩
  | cons b row ih =>
    obtain ⟨q, rfl⟩ := isFinite_iff.1 (h b (by simp))
    obtain ⟨a, rfl⟩ := ih fun c hc => h c (by simp [hc])
    exact ⟨q :: a, rfl⟩

theorem sum_vector (x : List Rat) : Scalar.sum (vector x) = .finite x.sum := by
  rw [sum_eq]
  induction x with
  | nil => rfl
  | cons q x ih => rw [vector_cons, List.sum_cons, ih, finite_add, List.sum_cons]

/-! ## Linear forms -/

/-- The value of a linear form at a point; what one list has beyond the other does not count. -/
def linear (a x : List Rat) : Rat :=
  (List.zipWith (· * ·) a x).sum

@[simp] theorem linear_nil (x : List Rat) : linear [] x = 0 := rfl
@[simp] theorem linear_nil_right (a : List Rat) : linear a [] = 0 := by simp [linear]

@[simp] theorem linear_cons (p q : Rat) (a x : List Rat) :
    linear (p :: a) (q :: x) = p * q + linear a x := by
  simp [linear]

theorem linear_neg (a x : List Rat) : linear (a.map (- ·)) x = -linear a x := by
  induction a generalizing x with
  | nil => simp
  | cons p a ih =>
    cases x with
    | nil => simp
    | cons q x => simp only [List.map_cons, linear_cons, ih]; ring

theorem linear_eq_zero {a : List Rat} (x : List Rat) (h : ∀ p ∈ a, p = 0) : linear a x = 0 := by
  induction a generalizing x with
  | nil => simp
  | cons p a ih =>
    cases x with
    | nil => simp
    | cons q x => rw [linear_cons, h p (by simp), ih x fun r hr => h r (by simp [hr])]; ring

/-- Writing a coefficient into a cell that holds zero adds its term to the form. -/
theorem linear_set {a : List Rat} {i : Nat} (h : a[i]? = some 0) (p : Rat) (x : List Rat) :
    linear (a.set i p) x = linear a x + p * x.getD i 0 := by
  induction a generalizing i x with
  | nil => simp at h
  | cons r a ih =>
    cases x with
    | nil => simp
    | cons q x =>
      cases i with
      | zero =>
        obtain rfl : r = 0 := by simpa using h
        simp only [List.set_cons_zero, linear_cons, List.getD_cons_zero]
        ring
      | succ i =>
        rw [List.set_cons_succ, linear_cons, ih (by simpa using h), linear_cons,
          List.getD_cons_succ, add_assoc]

theorem dot_vector (a x : List Rat) :
    Scalar.dot (vector a) (vector x) = .finite (linear a x) := by
  have hzip : List.zipWith (· * ·) (vector a) (vector x) = vector (List.zipWith (· * ·) a x) := by
    simp [vector, List.zipWith_map, List.map_zipWith]
  rw [Scalar.dot, hzip, sum_vector, linear]

end LinearDispatch.Exact
