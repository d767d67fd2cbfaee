-- SUMMARY: A program of inequalities means what its dense form means: it admits the same points, and the same points are best.
import LinearDispatch.Proofs.Program.Meaning
import LinearDispatch.Proofs.Program.Rows

/-!
# The meaning of programs of inequalities

A finite bound becomes a half-space, a row from below is negated, an equality
becomes two half-spaces, and the objective of a maximisation is negated. None
of this changes which points are admitted, nor which of two points is better.
-/
namespace LinearDispatch

open Exact (vector linear)

namespace InequalityProgram

/-! ## Rows -/

/-- What holds of every row of the program holds of the rows of every pair of bounds and of every
condition. -/
theorem forall_mem_rows_ofDense {α : Type} [Scalar α] {f : DenseForm α} {P : HalfSpace α → Prop} :
    (∀ h ∈ (ofDense f).rows, P h) ↔
      (∀ (i : Nat) lower upper, f.lower[i]? = some lower → f.upper[i]? = some upper →
        ∀ h ∈ boundRows f.variableNames.length i lower upper, P h) ∧
      ∀ c ∈ f.conditions, ∀ h ∈ constraintRows c.1 c.2.1 c.2.2, P h := by
  rw [rows_ofDense, blocks, List.forall_mem_append, List.forall_mem_flatMap,
    List.forall_mem_flatMap]
  refine and_congr_left' ?_
  simp only [Prod.forall, List.mem_zipIdx_iff_getElem?, List.getElem?_zip_eq_some, and_imp]
  exact ⟨fun h i lower upper => h lower upper i, fun h lower upper i => h i lower upper⟩

theorem dot_unitRow {n i : Nat} (hi : i < n) (p : Rat) (x : List Rat) :
    Scalar.dot (unitRow n i (.finite p)) (vector x) = .finite (p * x.getD i 0) := by
  have hzero : (List.replicate n (0 : Rat))[i]? = some 0 := by simp [hi]
  rw [unitRow, Exact.replicate_zero, Exact.set_vector, Exact.dot_vector, Exact.linear_set hzero,
    Exact.linear_eq_zero x (fun q hq => List.eq_of_mem_replicate hq), zero_add]

/-- The rows of a pair of bounds contain a point when its value lies between the bounds. -/
theorem contains_boundRows_iff {n i : Nat} (hi : i < n) {lower upper : Exact}
    (hl : lower.IsLower) (hu : upper.IsUpper) {x : List Rat} {q : Rat} (hq : x[i]? = some q) :
    (∀ h ∈ boundRows n i lower upper, h.Contains x) ↔
      Scalar.le lower (.finite q) ∧ Scalar.le (.finite q) upper := by
  have hlower : (∀ h ∈ (if Scalar.isFinite lower then [⟨unitRow n i (-1), -lower⟩] else []),
      HalfSpace.Contains h x) ↔ Scalar.le lower (.finite q) := by
    obtain rfl | ⟨p, rfl⟩ := Exact.isLower_iff.1 hl
    · simp
    · simp [HalfSpace.Contains, dot_unitRow hi, hq]
  have hupper : (∀ h ∈ (if Scalar.isFinite upper then [⟨unitRow n i 1, upper⟩] else []),
      HalfSpace.Contains h x) ↔ Scalar.le (.finite q) upper := by
    obtain rfl | ⟨p, rfl⟩ := Exact.isUpper_iff.1 hu
    · simp
    · simp [HalfSpace.Contains, dot_unitRow hi, hq]
  rw [boundRows, List.forall_mem_append, hlower, hupper]

/-- A half-space and the flipped one lie on the two sides of the same plane. -/
theorem contains_flipped_iff {a x : List Rat} {b : Rat} :
    (flipped (vector a) (.finite b)).Contains x ↔ b ≤ linear a x := by
  rw [HalfSpace.Contains, flipped, Exact.map_neg_vector, Exact.dot_vector, Exact.linear_neg,
    Exact.neg_finite, Exact.le_finite, neg_le_neg_iff]

/-- The rows of a constraint contain a point when it satisfies the constraint. -/
theorem contains_constraintRows_iff {a x : List Rat} {r : Relation} {b : Rat} :
    (∀ h ∈ constraintRows (vector a) r (.finite b), h.Contains x) ↔
      DenseForm.Meets x (vector a, r, .finite b) := by
  have hplain : HalfSpace.Contains ⟨vector a, .finite b⟩ x ↔ linear a x ≤ b := by
    rw [HalfSpace.Contains, Exact.dot_vector, Exact.le_finite]
  rw [DenseForm.Meets, Exact.dot_vector]
  cases r with
  | atMost => simp [constraintRows, Relation.Relates, hplain]
  | atLeast => simp [constraintRows, Relation.Relates, contains_flipped_iff]
  | equal =>
    simp only [constraintRows, Relation.Relates, List.forall_mem_cons, hplain,
      contains_flipped_iff, Exact.eq_finite]
    simp [le_antisymm_iff]

/-! ## Points and costs -/

variable {f : DenseForm Exact}

theorem length_cost_ofDense (hs : f.Shaped) :
    (ofDense f).cost.length = f.variableNames.length := by
  rw [cost_ofDense]
  split <;> simp [hs.objective]

theorem admits_ofDense_iff (hs : f.Shaped) (hf : f.Regular) {x : List Rat} :
    (ofDense f).Admits x ↔ f.Admits x := by
  have hrows : (∀ c ∈ f.conditions, ∀ h ∈ constraintRows c.1 c.2.1 c.2.2, h.Contains x) ↔
      ∀ c ∈ f.conditions, DenseForm.Meets x c := by
    refine forall₂_congr fun c hc => ?_
    obtain ⟨a, r, b, -, rfl⟩ := DenseForm.exists_of_mem_conditions hs hf c hc
    exact contains_constraintRows_iff
  constructor
  · intro h
    have hsize : x.length = f.variableNames.length := h.size.trans (length_cost_ofDense hs)
    obtain ⟨hbounds, hconditions⟩ := forall_mem_rows_ofDense.1 h.rows
    refine ⟨hsize, ?_, DenseForm.forall_mem_conditions_iff.1 (hrows.1 hconditions)⟩
    intro i lower upper q hl hu hq
    have hi : i < f.variableNames.length := hsize ▸ (List.getElem?_eq_some_iff.1 hq).1
    exact (contains_boundRows_iff hi (hf.lower _ (List.mem_of_getElem? hl))
      (hf.upper _ (List.mem_of_getElem? hu)) hq).1 (hbounds i lower upper hl hu)
  · intro h
    refine ⟨h.size.trans (length_cost_ofDense hs).symm, forall_mem_rows_ofDense.2
      ⟨?_, hrows.2 (DenseForm.forall_mem_conditions_iff.2 h.rows)⟩⟩
    intro i lower upper hl hu
    have hi : i < f.variableNames.length := hs.lt_of_lower hl
    have hq := List.getElem?_eq_getElem (h.size ▸ hi)
    exact (contains_boundRows_iff hi (hf.lower _ (List.mem_of_getElem? hl))
      (hf.upper _ (List.mem_of_getElem? hu)) hq).2 (h.bounds i lower upper _ hl hu hq)

/-- Comparing costs from below is comparing objectives in the form's sense. -/
theorem asGood_value_ofDense_iff (hf : f.Regular) (x y : List Rat) :
    AsGood false ((ofDense f).value x) ((ofDense f).value y) ↔
      AsGood f.maximize (f.value x) (f.value y) := by
  obtain ⟨c, hc⟩ := Exact.exists_vector hf.objective
  cases hm : f.maximize with
  | false => simp [AsGood, value, DenseForm.value, cost_ofDense, hm]
  | true =>
    simp [AsGood, value, DenseForm.value, cost_ofDense, hm, hc, Exact.map_neg_vector,
      Exact.dot_vector, Exact.linear_neg]

theorem optimal_ofDense_iff (hs : f.Shaped) (hf : f.Regular) {x : List Rat} :
    (ofDense f).Optimal x ↔ f.Optimal x := by
  constructor
  · intro h
    refine ⟨(admits_ofDense_iff hs hf).1 h.admitted, fun y hy => ?_⟩
    exact (asGood_value_ofDense_iff hf x y).1 (h.best y ((admits_ofDense_iff hs hf).2 hy))
  · intro h
    refine ⟨(admits_ofDense_iff hs hf).2 h.admitted, fun y hy => ?_⟩
    exact (asGood_value_ofDense_iff hf x y).2 (h.best y ((admits_ofDense_iff hs hf).1 hy))

/-- The half-spaces contain exactly the points that the form admits, the cost orders points as the
form's objective does in its sense, and so the points of least cost are the form's best. -/
theorem meaning_ofDense (f : DenseForm Exact) (hs : f.shapeFault? = none) (hf : f.Regular) :
    (∀ x : List Rat, x.length = f.variableNames.length →
      ((∀ h ∈ (ofDense f).rows, h.Contains x) ↔ f.Admits x)) ∧
    (∀ x y : List Rat, Scalar.le ((ofDense f).value x) ((ofDense f).value y) ↔
      AsGood f.maximize (f.value x) (f.value y)) ∧
    ∀ x : List Rat, (ofDense f).Optimal x ↔ f.Optimal x := by
  have hshaped := DenseForm.shaped_iff.2 hs
  refine ⟨fun x hx => ?_, asGood_value_ofDense_iff hf, fun x => optimal_ofDense_iff hshaped hf⟩
  rw [← admits_ofDense_iff hshaped hf]
  exact ⟨fun h => ⟨hx.trans (length_cost_ofDense hshaped).symm, h⟩, fun h => h.rows⟩

theorem meaning_ofDense_sample :
    DenseForm.sample.shapeFault? = none ∧ DenseForm.sample.Regular ∧
      ∀ x : List Rat, (ofDense DenseForm.sample).Optimal x ↔ DenseForm.sample.Optimal x :=
  have hs : DenseForm.sample.shapeFault? = none := by decide
  have hf : DenseForm.sample.Regular := by decide
  ⟨hs, hf, (meaning_ofDense DenseForm.sample hs hf).2.2⟩

end InequalityProgram

end LinearDispatch
