-- SUMMARY: The variables that an engine for native bounds never sees: what they rest at, and why the completed point is as good as the engine's.
import LinearDispatch.Adapter.Solve
import LinearDispatch.Proofs.Program.Bounded

/-!
# Resting variables

An engine for native bounds only sees the variables with a coefficient. The
others are left to rest at zero, moved into their bounds. They occur in no
constraint and not in the objective, so they can be completed and forgotten at
will: an assignment to the variables that the engine sees is admitted, or
optimal, exactly when its completion is for the form.
-/
namespace LinearDispatch.BoundedProgram

open Exact (vector)

variable {f : DenseForm Exact} {p : BoundedProgram Exact}

/-! ## Used variables -/

theorem uses_of_mem_objective {t : Nat × Exact} (h : t ∈ p.objective) : p.uses t.1 = true := by
  simp only [uses, Bool.or_eq_true, List.any_eq_true]
  exact .inl ⟨t, h, by simp⟩

theorem uses_of_mem_terms {r : NativeRow Exact} {t : Nat × Exact} (hr : r ∈ p.rows)
    (ht : t ∈ r.terms) : p.uses t.1 = true := by
  simp only [uses, Bool.or_eq_true, List.any_eq_true]
  exact .inr ⟨r, hr, t, ht, by simp⟩

theorem Represents.lt_of_uses (h : p.Represents f) {i : Nat}
    (hi : p.uses i = true) : i < f.variableNames.length := by
  simp only [uses, Bool.or_eq_true, List.any_eq_true, beq_iff_eq] at hi
  rcases hi with ⟨⟨j, c⟩, ht, rfl⟩ | ⟨r, hr, t, ht, rfl⟩
  · rw [h.objective, mem_termsOf_iff] at ht
    exact h.shaped.objective ▸ (List.getElem?_eq_some_iff.1 ht.1).1
  · exact h.rows.positions r hr t ht

theorem Represents.mem_used_iff (h : p.Represents f) {i : Nat} :
    i ∈ p.used ↔ p.uses i = true := by
  rw [used, List.mem_filter, List.mem_range, h.length_bounds]
  exact ⟨fun hi => hi.2, fun hi => ⟨h.lt_of_uses hi, hi⟩⟩

/-- Neither the objective nor a constraint tells assignments apart that agree on the used
variables. -/
theorem value_congr {v w : Nat → Rat} (h : ∀ i, p.uses i = true → v i = w i) :
    p.value v = p.value w :=
  evaluate_congr fun _ ht => h _ (uses_of_mem_objective ht)

theorem satisfies_congr {v w : Nat → Rat} (h : ∀ i, p.uses i = true → v i = w i)
    {r : NativeRow Exact} (hr : r ∈ p.rows) : Satisfies v r ↔ Satisfies w r := by
  rw [Satisfies, Satisfies, evaluate_congr fun _ ht => h _ (uses_of_mem_terms hr ht)]

/-! ## Resting values -/

/-- Bounds that do not cross have their resting value between them. -/
theorem restingValue_between {lower upper : Exact} (hl : lower.IsLower) (hu : upper.IsUpper)
    (h : Scalar.lt upper lower = false) :
    ∃ q, restingValue lower upper = .finite q ∧
      Scalar.le lower (.finite q) ∧ Scalar.le (.finite q) upper := by
  rw [restingValue, Scalar.max, Scalar.min, Exact.zero_eq]
  obtain rfl | ⟨l, rfl⟩ := Exact.isLower_iff.1 hl
  · obtain rfl | ⟨u, rfl⟩ := Exact.isUpper_iff.1 hu
    · exact ⟨0, by simp⟩
    · rcases lt_or_ge u 0 with hneg | hpos
      · exact ⟨u, by simp [hneg]⟩
      · exact ⟨0, by simp [hpos, not_lt.2 hpos]⟩
  · obtain rfl | ⟨u, rfl⟩ := Exact.isUpper_iff.1 hu
    · rcases lt_or_ge 0 l with hpos | hneg
      · exact ⟨l, by simp [hpos]⟩
      · exact ⟨0, by simp [hneg, not_lt.2 hneg]⟩
    · have hlu : l ≤ u := by
        rw [← Bool.not_eq_true, Exact.lt_finite] at h
        exact not_lt.1 h
      rcases lt_or_ge 0 l with hpos | hneg
      · exact ⟨l, by simp [hpos, hlu, not_lt.2 hlu]⟩
      · rcases lt_or_ge u 0 with hneg' | hpos'
        · exact ⟨u, by simp [not_lt.2 hneg, hneg', hlu]⟩
        · exact ⟨0, by simp [not_lt.2 hneg, not_lt.2 hpos', hneg, hpos']⟩

/-- The rational that a variable rests at. -/
def rest (f : DenseForm Exact) (i : Nat) : Rat :=
  match f.lower[i]?, f.upper[i]? with
  | some lower, some upper => (Scalar.toRat? (restingValue lower upper)).getD 0
  | _,          _          => 0

/-- The values of the used variables, with every other variable at rest. -/
def completed (p : BoundedProgram Exact) (f : DenseForm Exact) (v : Nat → Rat) (i : Nat) : Rat :=
  if p.uses i then v i else rest f i

theorem completed_of_uses {v : Nat → Rat} {i : Nat} (h : p.uses i = true) :
    p.completed f v i = v i :=
  if_pos h

theorem Represents.rest_between (h : p.Represents f) {i : Nat}
    {lower upper : Exact} (hl : f.lower[i]? = some lower) (hu : f.upper[i]? = some upper) :
    restingValue lower upper = .finite (rest f i) ∧
      Scalar.le lower (.finite (rest f i)) ∧ Scalar.le (.finite (rest f i)) upper := by
  obtain ⟨q, hq, hbetween⟩ := restingValue_between (h.regular.lower _ (List.mem_of_getElem? hl))
    (h.regular.upper _ (List.mem_of_getElem? hu)) (h.ordered i lower upper hl hu)
  have hrest : rest f i = q := by
    simp only [rest, hl, hu, hq]
    rfl
  rw [hrest]
  exact ⟨hq, hbetween⟩

/-! ## Completing a point -/

/-- The point assembled from what the engine reports on the used variables is the completed one. -/
theorem Represents.completePoint_eq (h : p.Represents f) {seen : List Nat}
    (hseen : ∀ i, i ∈ seen ↔ i ∈ p.used) {values : List (Nat × Exact)} {v : Nat → Rat}
    (hv : ∀ i ∈ p.used, values.lookup i = some (.finite (v i))) :
    completePoint seen f values =
      (vector (point f.variableNames.length (p.completed f v))).map Literal.real := by
  apply List.ext_getElem?
  intro i
  by_cases hi : i < f.variableNames.length
  · obtain ⟨lower, upper, hl, hu⟩ := h.shaped.exists_bounds hi
    have hzip : (List.zip f.lower f.upper)[i]? = some (lower, upper) :=
      List.getElem?_zip_eq_some.2 ⟨hl, hu⟩
    have hindexed : (List.zip f.lower f.upper).zipIdx[i]? = some ((lower, upper), i) := by
      simp [List.getElem?_zipIdx, hzip]
    rw [completePoint, List.getElem?_map, hindexed, vector, List.getElem?_map, List.getElem?_map,
      getElem?_point hi, completed]
    by_cases huses : p.uses i = true
    · have hi : i ∈ p.used := h.mem_used_iff.2 huses
      simp [huses, hseen, hi, hv i hi]
    · have hi : i ∉ p.used := fun hi => huses (h.mem_used_iff.1 hi)
      simp [huses, hseen, hi, (h.rest_between hl hu).1]
  · have hlen : (completePoint seen f values).length = f.variableNames.length := by
      simp [completePoint, h.shaped.lower, h.shaped.upper]
    rw [List.getElem?_eq_none (hlen ▸ not_lt.1 hi), List.getElem?_eq_none (by simpa using hi)]

theorem Represents.admits_completed (h : p.Represents f)
    {v : Nat → Rat} (hv : p.Admits p.used v) :
    f.Admits (point f.variableNames.length (p.completed f v)) := by
  rw [← h.admits_iff]
  refine ⟨?_, fun r hr => ?_⟩
  · intro i hi b hb
    rw [completed]
    split
    · next huses => exact hv.bounds i (h.mem_used_iff.2 huses) b hb
    · obtain ⟨lower, upper, hl, hu⟩ := h.shaped.exists_bounds (List.mem_range.1 hi)
      exact (h.within_iff hl hu _).2 (h.rest_between hl hu).2 b hb
  · exact (satisfies_congr (fun i => completed_of_uses) hr).2 (hv.rows r hr)

theorem Represents.value_completed (h : p.Represents f) (v : Nat → Rat) :
    f.value (point f.variableNames.length (p.completed f v)) = p.value v := by
  rw [← h.value_eq]
  exact value_congr fun i => completed_of_uses

theorem Represents.admits_used (h : p.Represents f)
    {x : List Rat} (hx : f.Admits x) : p.Admits p.used (x.getD · 0) := by
  have hall : p.Admits (List.range f.variableNames.length) (x.getD · 0) := by
    rw [h.admits_iff, ← hx.size, point_getD]
    exact hx
  refine ⟨fun i hi => hall.bounds i ?_, hall.rows⟩
  exact List.mem_range.2 (h.lt_of_uses (h.mem_used_iff.1 hi))

theorem Represents.value_getD (h : p.Represents f)
    {x : List Rat} (hx : x.length = f.variableNames.length) : p.value (x.getD · 0) = f.value x := by
  rw [h.value_eq, ← hx, point_getD]

/-- An optimum over the used variables completes to an optimum of the form. -/
theorem Represents.optimal_completed (h : p.Represents f)
    {v : Nat → Rat} (hv : p.Optimal v) :
    f.Optimal (point f.variableNames.length (p.completed f v)) := by
  refine ⟨h.admits_completed hv.admitted, fun y hy => ?_⟩
  rw [h.value_completed, ← h.value_getD hy.size, ← h.maximize]
  exact hv.best _ (h.admits_used hy)

/-- The values of the used variables at an optimum of the form are an optimum of the program. -/
theorem Represents.optimal_getD (h : p.Represents f)
    {x : List Rat} (hx : f.Optimal x) : p.Optimal (x.getD · 0) := by
  refine ⟨h.admits_used hx.admitted, fun v hv => ?_⟩
  rw [h.value_getD hx.admitted.size, ← h.value_completed v, h.maximize]
  exact hx.best _ (h.admits_completed hv)

/-- A program without used variables has nothing to satisfy and nothing to compare. -/
theorem Represents.optimal_of_used_eq_nil (h : p.Represents f)
    (hused : p.used = []) (v : Nat → Rat) : p.Optimal v := by
  have hunused : ∀ i, p.uses i = false := by
    intro i
    have hi : i ∉ p.used := by simp [hused]
    simpa [h.mem_used_iff] using hi
  have hobjective : p.objective = [] := by
    refine List.eq_nil_iff_forall_not_mem.2 fun t ht => ?_
    simpa [hunused] using uses_of_mem_objective ht
  have hrows : p.rows = [] := by
    refine List.eq_nil_iff_forall_not_mem.2 fun r hr => ?_
    obtain ⟨t, ht⟩ := List.exists_mem_of_ne_nil _ (h.rows.nonempty r hr)
    simpa [hunused] using uses_of_mem_terms hr ht
  refine ⟨⟨by simp [hused], by simp [hrows]⟩, fun w _ => ?_⟩
  simp [AsGood, value, hobjective]

end LinearDispatch.BoundedProgram
