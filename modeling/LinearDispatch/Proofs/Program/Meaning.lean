-- SUMMARY: What linear programs mean: the points that a dense form and the two kinds of program admit, and which of them are best.
import LinearDispatch.Program.Bounded
import LinearDispatch.Program.Inequality
import LinearDispatch.Proofs.Exact

/-!
# The meaning of linear programs

A point is a list of rationals, one per variable, or an assignment of
rationals to the positions of variables. A form and both kinds of program
admit some points and compare them by their objective; a point is best when it
is admitted and at least as good as every admitted point.

The meaning is that of exact arithmetic, and it is stated without the
lowerings: bounds and rows are compared as they stand, with no tolerance.
-/
namespace LinearDispatch

open Exact (vector linear)

/-! ## Comparisons -/

/-- The two sides stand in the relation exactly. -/
def Relation.Relates (r : Relation) (lhs rhs : Exact) : Prop :=
  match r with
  | .atMost  => Scalar.le lhs rhs
  | .atLeast => Scalar.le rhs lhs
  | .equal   => Scalar.eq lhs rhs

/-- One objective value is at least as good as another, in the given sense. -/
def AsGood (maximize : Bool) (a b : Exact) : Prop :=
  if maximize then Scalar.le b a else Scalar.le a b

/-- A point that is admitted and at least as good as every admitted one. -/
structure IsBest {β : Type} (Admits : β → Prop) (value : β → Exact) (maximize : Bool) (x : β) :
    Prop where
  admitted : Admits x
  best : ∀ y, Admits y → AsGood maximize (value x) (value y)

instance (r : Relation) (lhs rhs : Exact) : Decidable (r.Relates lhs rhs) := by
  unfold Relation.Relates
  cases r <;> infer_instance

/-- Without a tolerance a relation of finite numbers holds exactly. -/
theorem Relation.holds_zero_iff (r : Relation) (p q : Rat) :
    r.holds (.finite p) (.finite q) (0 : Exact) = true ↔ r.Relates (.finite p) (.finite q) := by
  cases r with
  | atMost => simp [Relation.holds, Relates]
  | atLeast => simp [Relation.holds, Relates]
  | equal =>
    simp only [Relation.holds, Relates, Scalar.abs, Exact.zero_eq, Exact.finite_sub,
      Exact.lt_finite, Exact.eq_finite]
    split <;> simp only [Exact.neg_finite, Exact.le_finite] <;> constructor <;> intro h <;> linarith

/-! ## Bounds -/

namespace Exact

/-- A number that can bound a variable from below: a number, and not above everything. -/
def IsLower (b : Exact) : Prop :=
  Scalar.isNaN b = false ∧ b ≠ Scalar.infinity

/-- A number that can bound a variable from above: a number, and not below everything. -/
def IsUpper (b : Exact) : Prop :=
  Scalar.isNaN b = false ∧ b ≠ -Scalar.infinity

instance (b : Exact) : Decidable b.IsLower :=
  inferInstanceAs (Decidable (_ ∧ _))

instance (b : Exact) : Decidable b.IsUpper :=
  inferInstanceAs (Decidable (_ ∧ _))

theorem isLower_iff {b : Exact} : b.IsLower ↔ b = .infinite true ∨ ∃ q, b = .finite q := by
  cases b with
  | finite q => exact ⟨fun _ => .inr ⟨q, rfl⟩, fun _ => ⟨rfl, nofun⟩⟩
  | infinite s => cases s <;> simp [IsLower, Scalar.infinity]
  | notANumber => simp [IsLower, Scalar.isNaN, isNaN]

theorem isUpper_iff {b : Exact} : b.IsUpper ↔ b = .infinite false ∨ ∃ q, b = .finite q := by
  cases b with
  | finite q => exact ⟨fun _ => .inr ⟨q, rfl⟩, fun _ => ⟨rfl, nofun⟩⟩
  | infinite s => cases s <;> simp [IsUpper, Scalar.infinity, Neg.neg, neg]
  | notANumber => simp [IsUpper, Scalar.isNaN, isNaN]

end Exact

/-! ## Points -/

/-- The point over `n` variables that an assignment gives. -/
def point (n : Nat) (v : Nat → Rat) : List Rat :=
  (List.range n).map v

@[simp] theorem length_point (n : Nat) (v : Nat → Rat) : (point n v).length = n := by
  simp [point]

theorem getElem?_point {n i : Nat} (hi : i < n) (v : Nat → Rat) : (point n v)[i]? = some (v i) := by
  simp [point, hi]

/-- A point is given by the assignment of its entries. -/
theorem point_getD (x : List Rat) : point x.length (x.getD · 0) = x := by
  apply List.ext_getElem?
  intro i
  by_cases hi : i < x.length
  · simp [point, hi]
  · rw [List.getElem?_eq_none (by simpa using hi), List.getElem?_eq_none (by simpa using hi)]

/-! ## Dense forms -/

namespace DenseForm

/-- Every part has an entry per variable or per constraint. -/
structure Shaped {α : Type} (f : DenseForm α) : Prop where
  objective : f.objective.length = f.variableNames.length
  lower : f.lower.length = f.variableNames.length
  upper : f.upper.length = f.variableNames.length
  rows : f.rows.length = f.relations.length
  cells : ∀ row ∈ f.rows, row.length = f.variableNames.length
  rhs : f.rhs.length = f.relations.length

/-- A form is shaped when the check of its dimensions finds no fault. -/
theorem shaped_iff {α : Type} {f : DenseForm α} : f.Shaped ↔ f.shapeFault? = none := by
  have hfault : f.shapeFault? = none ↔
      f.objective.length = f.variableNames.length ∧ f.lower.length = f.variableNames.length ∧
      f.upper.length = f.variableNames.length ∧
      (f.rows.length = f.relations.length ∧
        ∀ row ∈ f.rows, row.length = f.variableNames.length) ∧
      f.rhs.length = f.relations.length := by
    simp [shapeFault?, ite_eq_iff]
  rw [hfault]
  constructor
  · exact fun h => ⟨h.objective, h.lower, h.upper, ⟨h.rows, h.cells⟩, h.rhs⟩
  · exact fun ⟨ho, hl, hu, ⟨hrows, hcells⟩, hb⟩ => ⟨ho, hl, hu, hrows, hcells, hb⟩

instance {α : Type} (f : DenseForm α) : Decidable f.Shaped :=
  decidable_of_iff _ shaped_iff.symm

theorem Shaped.lt_of_lower {α : Type} {f : DenseForm α} (hs : f.Shaped) {i : Nat} {b : α}
    (h : f.lower[i]? = some b) : i < f.variableNames.length :=
  hs.lower ▸ (List.getElem?_eq_some_iff.1 h).1

theorem Shaped.lt_of_upper {α : Type} {f : DenseForm α} (hs : f.Shaped) {i : Nat} {b : α}
    (h : f.upper[i]? = some b) : i < f.variableNames.length :=
  hs.upper ▸ (List.getElem?_eq_some_iff.1 h).1

/-- Every variable of a shaped form has its two bounds. -/
theorem Shaped.exists_bounds {α : Type} {f : DenseForm α} (hs : f.Shaped) {i : Nat}
    (hi : i < f.variableNames.length) :
    ∃ lower upper, f.lower[i]? = some lower ∧ f.upper[i]? = some upper :=
  ⟨_, _, List.getElem?_eq_getElem (hs.lower ▸ hi), List.getElem?_eq_getElem (hs.upper ▸ hi)⟩

/-- Every row of a shaped form has its relation and its right-hand side. -/
theorem Shaped.exists_relation_rhs {α : Type} {f : DenseForm α} (hs : f.Shaped) {k : Nat}
    {row : List α} (hrow : f.rows[k]? = some row) :
    ∃ r b, f.relations[k]? = some r ∧ f.rhs[k]? = some b := by
  have hk : k < f.relations.length := hs.rows ▸ (List.getElem?_eq_some_iff.1 hrow).1
  exact ⟨_, _, List.getElem?_eq_getElem hk, List.getElem?_eq_getElem (hs.rhs ▸ hk)⟩

/-- Finite coefficients, objective and right-hand sides, and bounds that can bound. -/
structure Regular (f : DenseForm Exact) : Prop where
  objective : ∀ a ∈ f.objective, Scalar.isFinite a = true
  rows : ∀ row ∈ f.rows, ∀ a ∈ row, Scalar.isFinite a = true
  rhs : ∀ b ∈ f.rhs, Scalar.isFinite b = true
  lower : ∀ b ∈ f.lower, b.IsLower
  upper : ∀ b ∈ f.upper, b.IsUpper

instance (f : DenseForm Exact) : Decidable f.Regular :=
  decidable_of_iff
    ((∀ a ∈ f.objective, Scalar.isFinite a = true) ∧
      (∀ row ∈ f.rows, ∀ a ∈ row, Scalar.isFinite a = true) ∧
      (∀ b ∈ f.rhs, Scalar.isFinite b = true) ∧
      (∀ b ∈ f.lower, b.IsLower) ∧ ∀ b ∈ f.upper, b.IsUpper)
    ⟨fun ⟨ho, hr, hb, hl, hu⟩ => ⟨ho, hr, hb, hl, hu⟩,
      fun h => ⟨h.objective, h.rows, h.rhs, h.lower, h.upper⟩⟩

/-- The point has a value per variable, lies between the bounds and satisfies every row. -/
structure Admits (f : DenseForm Exact) (x : List Rat) : Prop where
  size : x.length = f.variableNames.length
  bounds : ∀ (i : Nat) lower upper q, f.lower[i]? = some lower → f.upper[i]? = some upper →
    x[i]? = some q → Scalar.le lower (.finite q) ∧ Scalar.le (.finite q) upper
  rows : ∀ (k : Nat) row r b, f.rows[k]? = some row → f.relations[k]? = some r →
    f.rhs[k]? = some b → r.Relates (Scalar.dot row (vector x)) b

/-- The point satisfies a condition. -/
def Meets (x : List Rat) (c : List Exact × Relation × Exact) : Prop :=
  c.2.1.Relates (Scalar.dot c.1 (vector x)) c.2.2

/-- What holds of three lists entry by entry holds at every position that they share. -/
private theorem forall_mem_zip_zip_iff {α β γ : Type} {as : List α} {bs : List β} {cs : List γ}
    {P : α × β × γ → Prop} :
    (∀ t ∈ List.zip as (List.zip bs cs), P t) ↔
      ∀ (k : Nat) a b c, as[k]? = some a → bs[k]? = some b → cs[k]? = some c → P (a, b, c) := by
  constructor
  · intro h k a b c ha hb hc
    refine h _ (List.mem_iff_getElem?.2 ⟨k, ?_⟩)
    exact List.getElem?_zip_eq_some.2 ⟨ha, List.getElem?_zip_eq_some.2 ⟨hb, hc⟩⟩
  · intro h t ht
    obtain ⟨k, hk⟩ := List.mem_iff_getElem?.1 ht
    obtain ⟨ha, hrest⟩ := List.getElem?_zip_eq_some.1 hk
    obtain ⟨hb, hc⟩ := List.getElem?_zip_eq_some.1 hrest
    exact h k _ _ _ ha hb hc

theorem forall_mem_conditions_iff {α : Type} {f : DenseForm α}
    {P : List α × Relation × α → Prop} :
    (∀ c ∈ f.conditions, P c) ↔
      ∀ (k : Nat) row r b, f.rows[k]? = some row → f.relations[k]? = some r →
        f.rhs[k]? = some b → P (row, r, b) :=
  forall_mem_zip_zip_iff

theorem getElem?_conditions_iff {α : Type} {f : DenseForm α} {k : Nat} {row : List α}
    {r : Relation} {b : α} : f.conditions[k]? = some (row, r, b) ↔
      f.rows[k]? = some row ∧ f.relations[k]? = some r ∧ f.rhs[k]? = some b := by
  rw [conditions, List.getElem?_zip_eq_some, List.getElem?_zip_eq_some]

instance (x : List Rat) (c : List Exact × Relation × Exact) : Decidable (Meets x c) :=
  inferInstanceAs (Decidable (Relation.Relates _ _ _))

instance (f : DenseForm Exact) (x : List Rat) : Decidable (f.Admits x) :=
  decidable_of_iff
    (x.length = f.variableNames.length ∧
      (∀ b ∈ List.zip f.lower (List.zip f.upper x),
        Scalar.le b.1 (.finite b.2.2) ∧ Scalar.le (.finite b.2.2) b.2.1) ∧
      ∀ c ∈ f.conditions, Meets x c)
    ⟨fun ⟨hsize, hbounds, hrows⟩ =>
        ⟨hsize, forall_mem_zip_zip_iff.1 hbounds, forall_mem_conditions_iff.1 hrows⟩,
      fun h => ⟨h.size, forall_mem_zip_zip_iff.2 h.bounds, forall_mem_conditions_iff.2 h.rows⟩⟩

/-- The conditions of a regular form are conditions of finite numbers over its variables. -/
theorem exists_of_mem_conditions {f : DenseForm Exact} (hs : f.Shaped) (hf : f.Regular) :
    ∀ c ∈ f.conditions, ∃ a r b, a.length = f.variableNames.length ∧
      c = (vector a, r, .finite b) := by
  refine forall_mem_conditions_iff.2 fun k row r b hk _ hb => ?_
  obtain ⟨a, rfl⟩ := Exact.exists_vector (hf.rows row (List.mem_of_getElem? hk))
  obtain ⟨q, rfl⟩ := Exact.isFinite_iff.1 (hf.rhs b (List.mem_of_getElem? hb))
  exact ⟨a, r, q, by simpa using hs.cells _ (List.mem_of_getElem? hk), rfl⟩

/-- The objective at a point. -/
def value (f : DenseForm Exact) (x : List Rat) : Exact :=
  Scalar.dot f.objective (vector x)

/-- An admitted point with the best objective in the form's sense. -/
def Optimal (f : DenseForm Exact) (x : List Rat) : Prop :=
  IsBest f.Admits f.value f.maximize x

/-- A maximisation with half-open ranges, every relation, a constant row, and a variable without
a coefficient. -/
def sample : DenseForm Exact where
  variableNames := ["x", "y", "z"]
  objective := vector [3, 5, 0]
  lower := [.finite 0, .infinite true, .finite (-5)]
  upper := [.infinite false, .finite 4, .finite (-2)]
  rows := [vector [2, 1, 0], vector [1, 1, 0], vector [1, -1, 0], vector [0, 0, 0]]
  relations := [.atMost, .atLeast, .equal, .atLeast]
  rhs := vector [6, 1, 0, -1]
  maximize := true
  constraintNames := ["upper", "lower", "level", "constant"]

end DenseForm

/-! ## Programs of inequalities -/

/-- The point lies in the half-space. -/
def HalfSpace.Contains (h : HalfSpace Exact) (x : List Rat) : Prop :=
  Scalar.le (Scalar.dot h.normal (vector x)) h.bound

instance (h : HalfSpace Exact) (x : List Rat) : Decidable (h.Contains x) :=
  inferInstanceAs (Decidable (_ = true))

namespace InequalityProgram

/-- The point has a value per variable and lies in every half-space. -/
structure Admits (p : InequalityProgram Exact) (x : List Rat) : Prop where
  size : x.length = p.cost.length
  rows : ∀ h ∈ p.rows, h.Contains x

/-- The cost of a point. -/
def value (p : InequalityProgram Exact) (x : List Rat) : Exact :=
  Scalar.dot p.cost (vector x)

/-- An admitted point of least cost. -/
def Optimal (p : InequalityProgram Exact) (x : List Rat) : Prop :=
  IsBest p.Admits p.value false x

end InequalityProgram

/-! ## Programs with native bounds -/

namespace BoundedProgram

/-- The sum of the terms where the variable at each position has the given value. -/
def evaluate (terms : List (Nat × Exact)) (v : Nat → Rat) : Exact :=
  Scalar.sum (terms.map fun (j, a) => a * .finite (v j))

@[simp] theorem evaluate_nil (v : Nat → Rat) : evaluate [] v = .finite 0 := rfl

@[simp] theorem evaluate_cons (t : Nat × Exact) (terms : List (Nat × Exact)) (v : Nat → Rat) :
    evaluate (t :: terms) v = t.2 * .finite (v t.1) + evaluate terms v := by
  simp [evaluate, Exact.sum_eq]

/-- Terms only look at the variables that they name. -/
theorem evaluate_congr {terms : List (Nat × Exact)} {v w : Nat → Rat}
    (h : ∀ t ∈ terms, v t.1 = w t.1) : evaluate terms v = evaluate terms w := by
  induction terms with
  | nil => rfl
  | cons t terms ih =>
    rw [evaluate_cons, evaluate_cons, h t (by simp), ih fun u hu => h u (by simp [hu])]

/-- The value respects the native bounds that there are. -/
def Within (b : Option Exact × Option Exact) (q : Rat) : Prop :=
  (∀ lower ∈ b.1, Scalar.le lower (.finite q)) ∧ (∀ upper ∈ b.2, Scalar.le (.finite q) upper)

/-- The values satisfy the constraint. -/
def Satisfies (v : Nat → Rat) (r : NativeRow Exact) : Prop :=
  r.relation.Relates (evaluate r.terms v) r.rhs

/-- The values respect the native bounds of the variables at the given positions, and satisfy
every constraint. -/
structure Admits (p : BoundedProgram Exact) (positions : List Nat) (v : Nat → Rat) : Prop where
  bounds : ∀ i ∈ positions, ∀ b, p.bounds[i]? = some b → Within b (v i)
  rows : ∀ r ∈ p.rows, Satisfies v r

/-- The objective at an assignment. -/
def value (p : BoundedProgram Exact) (v : Nat → Rat) : Exact :=
  evaluate p.objective v

/-- An assignment to the variables that the engine sees which is admitted there and has the best
objective in the program's sense. -/
def Optimal (p : BoundedProgram Exact) (v : Nat → Rat) : Prop :=
  IsBest (p.Admits p.used) p.value p.maximize v

end BoundedProgram

end LinearDispatch
