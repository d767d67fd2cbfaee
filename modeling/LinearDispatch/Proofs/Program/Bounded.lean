-- SUMMARY: A program with native bounds means what its dense form means, and a form without a program admits no point.
import LinearDispatch.Proofs.Program.Library
import LinearDispatch.Proofs.Program.Meaning

/-!
# The meaning of programs with native bounds

The lowering leaves out what an engine would never see: infinite bounds, zero
coefficients and constant rows. What it leaves out does not change the points
that are admitted, and where it finds a contradiction there is no such point.
-/
namespace LinearDispatch

open Exact (vector linear)

namespace BoundedProgram

/-! ## Terms -/

@[simp] theorem isNonzero_finite (q : Rat) :
    Scalar.isNonzero (Exact.finite q) = decide (q ≠ 0) := by
  simp [Scalar.isNonzero, Scalar.eq, Exact.eq]

/-- The terms of a row of finite numbers whose first cell is at position `k`. -/
private theorem evaluate_termsFrom (k : Nat) (a : List Rat) (v : Nat → Rat) :
    evaluate (((vector a).zipIdx k).filterMap fun (c, j) =>
      if Scalar.isNonzero c then some (j, c) else none) v
      = .finite (linear a ((List.range' k a.length).map v)) := by
  induction a generalizing k with
  | nil => rfl
  | cons p a ih =>
    rw [Exact.vector_cons, List.zipIdx_cons, List.length_cons, List.range'_succ, List.map_cons,
      Exact.linear_cons]
    by_cases hp : p = 0
    · simp [hp, ih]
    · simp [hp, ih]

/-- Leaving out the zero coefficients of a row does not change its value. -/
theorem evaluate_termsOf (a : List Rat) (v : Nat → Rat) :
    evaluate (termsOf (vector a)) v = Scalar.dot (vector a) (vector (point a.length v)) := by
  rw [termsOf, evaluate_termsFrom, Exact.dot_vector, point, List.range_eq_range']

theorem mem_termsOf_iff {α : Type} [Scalar α] {row : List α} {j : Nat} {c : α} :
    (j, c) ∈ termsOf row ↔ row[j]? = some c ∧ Scalar.isNonzero c = true := by
  simp only [termsOf, List.mem_filterMap, Prod.exists, List.mem_zipIdx_iff_getElem?]
  constructor
  · rintro ⟨c', j', hc, hsome⟩
    split at hsome
    · next hnonzero =>
      cases hsome
      exact ⟨hc, hnonzero⟩
    · cases hsome
  · rintro ⟨hc, hnonzero⟩
    exact ⟨c, j, hc, if_pos hnonzero⟩

theorem termsOf_vector_eq_nil_iff {a : List Rat} : termsOf (vector a) = [] ↔ ∀ p ∈ a, p = 0 := by
  rw [List.eq_nil_iff_forall_not_mem]
  constructor
  · intro h p hp
    obtain ⟨j, hj⟩ := List.mem_iff_getElem?.1 hp
    by_contra hne
    refine h (j, .finite p) (mem_termsOf_iff.2 ⟨?_, by simpa using hne⟩)
    rw [vector, List.getElem?_map, hj]
    rfl
  · intro h t hmem
    obtain ⟨j, c⟩ := t
    obtain ⟨hj, hc⟩ := mem_termsOf_iff.1 hmem
    obtain ⟨p, hp, rfl⟩ := List.mem_map.1 (List.mem_of_getElem? hj)
    simp [h p hp] at hc

section Taken

variable {α : Type} [Scalar α] {library : Library α} {row : List α} {ts : List (Nat × α)}

/-- A row without a coefficient that the library refuses is taken over as it is. -/
theorem terms_eq_ok (h : ∀ t ∈ termsOf row, library.coefficientRefusal t.2 = none) :
    terms library row = .ok (termsOf row) := by
  have hnone : ((termsOf row).findSome? fun t => library.coefficientRefusal t.2) = none :=
    List.findSome?_eq_none_iff.2 h
  rw [terms]
  simp only [hnone]

theorem terms_eq_ok_iff : terms library row = .ok ts ↔
    ts = termsOf row ∧ ∀ t ∈ termsOf row, library.coefficientRefusal t.2 = none := by
  constructor
  · intro h
    rw [terms] at h
    split at h
    · cases h
    · next hnone =>
      cases h
      exact ⟨rfl, List.findSome?_eq_none_iff.1 hnone⟩
  · rintro ⟨rfl, h⟩
    exact terms_eq_ok h

theorem exists_terms_eq_error (h : ¬ ∀ t ∈ termsOf row, library.coefficientRefusal t.2 = none) :
    ∃ text, terms library row = .error text := by
  cases hterms : terms library row with
  | error text => exact ⟨text, rfl⟩
  | ok ts => exact absurd (terms_eq_ok_iff.1 hterms).2 h

/-- A library that takes finite numbers takes a row of them. -/
theorem taken_of_isFinite (hl : library.Accepting) (h : ∀ x ∈ row, Scalar.isFinite x = true) :
    ∀ t ∈ termsOf row, library.coefficientRefusal t.2 = none :=
  fun _ ht => hl.coefficient _ (h _ (List.mem_of_getElem? (mem_termsOf_iff.1 ht).1))

end Taken

theorem taken_vector {library : Library Exact} (hl : library.Accepting) (a : List Rat) :
    ∀ t ∈ termsOf (vector a), library.coefficientRefusal t.2 = none := by
  refine taken_of_isFinite hl fun x hx => ?_
  obtain ⟨q, -, rfl⟩ := List.mem_map.1 hx
  rfl

/-! ## Rows -/

theorem isConstant_vector_iff {a : List Rat} :
    DenseForm.isConstant (vector a) = true ↔ ∀ p ∈ a, p = 0 := by
  simp [DenseForm.isConstant, vector]

/-- A row that is neither refused nor a constant one that fails becomes a constraint over its
terms, unless it is constant. -/
theorem eq_of_nativeRow {α : Type} [Scalar α] {library : Library α} {k : Nat} {row : List α}
    {r : Relation} {b : α} {o : Option (NativeRow α)} (h : nativeRow library k row r b = .ok o) :
    (DenseForm.isConstant row = true ∧ r.holds 0 b 0 = true ∧ o = none) ∨
      (DenseForm.isConstant row = false ∧ o = some ⟨k, r, b + 0, termsOf row⟩) := by
  rw [nativeRow] at h
  split at h
  · next hconstant =>
    split at h
    · next hholds =>
      cases h
      exact .inl ⟨hconstant, hholds, rfl⟩
    · cases h
  · next hconstant =>
    split at h
    · cases h
    · next ts hts =>
      split at h
      · cases h
      · cases h
        obtain ⟨rfl, -⟩ := terms_eq_ok_iff.1 hts
        exact .inr ⟨Bool.eq_false_iff.2 hconstant, rfl⟩

/-- A row of finite numbers is no reason for a refusal. -/
theorem eq_of_nativeRow_vector {library : Library Exact} (hl : library.Accepting) {k : Nat}
    {a : List Rat} {r : Relation} {b : Rat} {e : Obstacle Exact}
    (h : nativeRow library k (vector a) r (.finite b) = .error e) :
    (∀ p ∈ a, p = 0) ∧ ¬ r.Relates (.finite 0) (.finite b) ∧
      e = .contradiction (.constantRow k r (.finite b)) := by
  have hholds : r.holds (0 : Exact) (.finite b) 0 = true ↔ r.Relates (.finite 0) (.finite b) :=
    r.holds_zero_iff 0 b
  rw [nativeRow, terms_eq_ok (taken_vector hl a), hl.rhs (.finite b) rfl] at h
  split at h
  · next hconstant =>
    split at h
    · cases h
    · next hfails =>
      cases h
      exact ⟨isConstant_vector_iff.1 hconstant, fun hr => hfails (hholds.2 hr), rfl⟩
  · cases h

/-- Constraints that mean what the conditions mean, each with a term, and over no other than the
first `n` variables. -/
structure Expresses (n : Nat) (rows : List (NativeRow Exact))
    (cs : List (List Exact × Relation × Exact)) : Prop where
  meaning : ∀ v, (∀ r ∈ rows, Satisfies v r) ↔ ∀ c ∈ cs, DenseForm.Meets (point n v) c
  positions : ∀ r ∈ rows, ∀ t ∈ r.terms, t.1 < n
  nonempty : ∀ r ∈ rows, r.terms ≠ []

variable {library : Library Exact}

theorem nativeRow_expresses {k n : Nat} {a : List Rat} {r : Relation} {b : Rat}
    {o : Option (NativeRow Exact)} (ha : a.length = n)
    (h : nativeRow library k (vector a) r (.finite b) = .ok o) :
    Expresses n o.toList [(vector a, r, .finite b)] := by
  subst ha
  rcases eq_of_nativeRow h with ⟨hconstant, hholds, rfl⟩ | ⟨hconstant, rfl⟩
  · have hzero := isConstant_vector_iff.1 hconstant
    have hr : r.Relates (.finite 0) (.finite b) := (r.holds_zero_iff 0 b).1 hholds
    refine ⟨fun v => ?_, by simp, by simp⟩
    simpa [DenseForm.Meets, Exact.dot_vector, Exact.linear_eq_zero _ hzero] using hr
  · rw [Bool.eq_false_iff, Ne, isConstant_vector_iff] at hconstant
    refine ⟨fun v => ?_, ?_, ?_⟩
    · simp [Satisfies, DenseForm.Meets, evaluate_termsOf]
    · simp only [Option.toList_some, List.forall_mem_singleton, Prod.forall]
      intro j c hmem
      simpa using (List.getElem?_eq_some_iff.1 (mem_termsOf_iff.1 hmem).1).1
    · simpa [termsOf_vector_eq_nil_iff] using hconstant

theorem nativeRow_contradicts (hl : library.Accepting) {k : Nat} {a : List Rat} {r : Relation}
    {b : Rat} {e : Obstacle Exact} (h : nativeRow library k (vector a) r (.finite b) = .error e) :
    (∃ why, e = .contradiction why) ∧ ∀ x, ¬ DenseForm.Meets x (vector a, r, .finite b) := by
  obtain ⟨hzero, hr, rfl⟩ := eq_of_nativeRow_vector hl h
  refine ⟨⟨_, rfl⟩, fun x => ?_⟩
  rwa [DenseForm.Meets, Exact.dot_vector, Exact.linear_eq_zero x hzero]

theorem Expresses.nil (n : Nat) : Expresses n [] [] :=
  ⟨by simp, by simp, by simp⟩

theorem Expresses.cons {n : Nat} {rows rows' : List (NativeRow Exact)}
    {c : List Exact × Relation × Exact} {cs : List (List Exact × Relation × Exact)}
    (h : Expresses n rows [c]) (h' : Expresses n rows' cs) :
    Expresses n (rows ++ rows') (c :: cs) := by
  refine ⟨fun v => ?_, List.forall_mem_append.2 ⟨h.positions, h'.positions⟩,
    List.forall_mem_append.2 ⟨h.nonempty, h'.nonempty⟩⟩
  rw [List.forall_mem_append, h.meaning, h'.meaning, List.forall_mem_singleton,
    List.forall_mem_cons]

/-- The constraints of finite conditions mean what the conditions mean. -/
theorem nativeRows_expresses {k n : Nat} {cs : List (List Exact × Relation × Exact)}
    {rows : List (NativeRow Exact)}
    (hcs : ∀ c ∈ cs, ∃ a r b, a.length = n ∧ c = (vector a, r, .finite b))
    (h : nativeRows library k cs = .ok rows) : Expresses n rows cs := by
  induction cs generalizing k rows with
  | nil =>
    cases h
    exact .nil n
  | cons c cs ih =>
    obtain ⟨a, r, b, ha, rfl⟩ := hcs c (by simp)
    rw [nativeRows] at h
    split at h
    · cases h
    · next o ho =>
      obtain ⟨rest, hrest, rfl⟩ := map_eq_ok_iff.1 h
      exact .cons (nativeRow_expresses ha ho) (ih (fun c hc => hcs c (by simp [hc])) hrest)

/-- Where finite conditions have no constraints, no point meets one of them. -/
theorem nativeRows_contradicts (hl : library.Accepting) {k n : Nat}
    {cs : List (List Exact × Relation × Exact)} {e : Obstacle Exact}
    (hcs : ∀ c ∈ cs, ∃ a r b, a.length = n ∧ c = (vector a, r, .finite b))
    (h : nativeRows library k cs = .error e) :
    (∃ why, e = .contradiction why) ∧ ∃ c ∈ cs, ∀ x, ¬ DenseForm.Meets x c := by
  induction cs generalizing k with
  | nil => cases h
  | cons c cs ih =>
    obtain ⟨a, r, b, -, rfl⟩ := hcs c (by simp)
    rw [nativeRows] at h
    split at h
    · next e' he =>
      cases h
      obtain ⟨hwhy, hno⟩ := nativeRow_contradicts hl he
      exact ⟨hwhy, _, List.mem_cons_self, hno⟩
    · next o ho =>
      obtain ⟨hwhy, c, hc, hno⟩ := ih (fun c hc => hcs c (by simp [hc])) (map_eq_error_iff.1 h)
      exact ⟨hwhy, c, List.mem_cons_of_mem _ hc, hno⟩

/-! ## Bounds -/

section Taken

variable {α : Type} [Scalar α] {library : Library α} {bs : List (α × α)}

/-- Bounds that the library does not refuse are all taken over. -/
theorem nativeBounds_eq_ok
    (h : ∀ b ∈ bs, library.boundsRefusal (nativeBound b.1) (nativeBound b.2) = none) :
    nativeBounds library bs = .ok (bs.map fun b => (nativeBound b.1, nativeBound b.2)) := by
  induction bs with
  | nil => rfl
  | cons b bs ih =>
    obtain ⟨lower, upper⟩ := b
    rw [nativeBounds, h (lower, upper) (by simp), ih fun b hb => h b (by simp [hb])]
    rfl

theorem nativeBounds_eq_ok_iff {bounds : List (Option α × Option α)} :
    nativeBounds library bs = .ok bounds ↔
      bounds = bs.map (fun b => (nativeBound b.1, nativeBound b.2)) ∧
        ∀ b ∈ bs, library.boundsRefusal (nativeBound b.1) (nativeBound b.2) = none := by
  constructor
  · intro h
    induction bs generalizing bounds with
    | nil =>
      cases h
      exact ⟨rfl, by simp⟩
    | cons b bs ih =>
      obtain ⟨lower, upper⟩ := b
      rw [nativeBounds] at h
      split at h
      · cases h
      · next hnone =>
        obtain ⟨rest, hrest, rfl⟩ := map_eq_ok_iff.1 h
        obtain ⟨rfl, htaken⟩ := ih hrest
        exact ⟨rfl, List.forall_mem_cons.2 ⟨hnone, htaken⟩⟩
  · rintro ⟨rfl, h⟩
    exact nativeBounds_eq_ok h

theorem exists_nativeBounds_eq_error
    (h : ¬ ∀ b ∈ bs, library.boundsRefusal (nativeBound b.1) (nativeBound b.2) = none) :
    ∃ text, nativeBounds library bs = .error text := by
  cases hbounds : nativeBounds library bs with
  | error text => exact ⟨text, rfl⟩
  | ok bounds => exact absurd (nativeBounds_eq_ok_iff.1 hbounds).2 h

/-- A bound that is a number is absent or finite as a native bound. -/
theorem isFinite_of_mem_nativeBound {b x : α} (hb : Scalar.isNaN b = false)
    (hx : x ∈ nativeBound b) : Scalar.isFinite x = true := by
  rw [nativeBound] at hx
  split at hx
  · cases hx
  · next hfinite =>
    cases hx
    simpa [Scalar.isInfinite, hb] using hfinite

/-- A library that takes finite numbers takes bounds that are numbers. -/
theorem taken_of_isNaN (hl : library.Accepting)
    (h : ∀ b ∈ bs, Scalar.isNaN b.1 = false ∧ Scalar.isNaN b.2 = false) :
    ∀ b ∈ bs, library.boundsRefusal (nativeBound b.1) (nativeBound b.2) = none :=
  fun b hb => hl.bounds _ _ (fun _ hx => isFinite_of_mem_nativeBound (h b hb).1 hx)
    fun _ hx => isFinite_of_mem_nativeBound (h b hb).2 hx

end Taken

/-- Taking infinite bounds for none does not change the values between the bounds. -/
theorem within_nativeBound_iff {lower upper : Exact} (hl : lower.IsLower) (hu : upper.IsUpper)
    (q : Rat) :
    Within (nativeBound lower, nativeBound upper) q ↔
      Scalar.le lower (.finite q) ∧ Scalar.le (.finite q) upper := by
  refine and_congr ?_ ?_
  · obtain rfl | ⟨p, rfl⟩ := Exact.isLower_iff.1 hl <;> simp [nativeBound, Scalar.isInfinite]
  · obtain rfl | ⟨p, rfl⟩ := Exact.isUpper_iff.1 hu <;> simp [nativeBound, Scalar.isInfinite]

/-- Nothing lies between crossed bounds, whichever of them are finite. -/
theorem not_between_of_crossed {lower upper : Exact} (h : Scalar.lt upper lower = true) (q : Rat) :
    ¬ (Scalar.le lower (.finite q) ∧ Scalar.le (.finite q) upper) := by
  rintro ⟨hl, hu⟩
  cases lower with
  | finite l =>
    cases upper with
    | finite u =>
      rw [Exact.lt_finite] at h
      rw [Exact.le_finite] at hl hu
      linarith
    | infinite s => cases s <;> simp_all [Scalar.lt, Exact.lt]
    | notANumber => simp [Scalar.lt, Exact.lt] at h
  | infinite s =>
    cases upper with
    | finite u => cases s <;> simp_all [Scalar.lt, Exact.lt]
    | infinite t => cases s <;> cases t <;> simp_all [Scalar.lt, Exact.lt]
    | notANumber => simp [Scalar.lt, Exact.lt] at h
  | notANumber => simp [Scalar.le, Exact.le] at hl

/-- The named variables are those whose bounds cross. -/
theorem crossed_eq_nil_iff {α : Type} [Scalar α] {f : DenseForm α} (hs : f.Shaped) :
    crossed f = [] ↔ ∀ (i : Nat) lower upper, f.lower[i]? = some lower →
      f.upper[i]? = some upper → Scalar.lt upper lower = false := by
  rw [crossed, List.filterMap_eq_nil_iff]
  constructor
  · intro h i lower upper hl hu
    have hi : i < f.variableNames.length := hs.lt_of_lower hl
    have hmem : (f.variableNames[i], lower, upper) ∈
        List.zip f.variableNames (List.zip f.lower f.upper) := by
      refine List.mem_iff_getElem?.2 ⟨i, List.getElem?_zip_eq_some.2 ⟨?_, ?_⟩⟩
      · exact List.getElem?_eq_getElem hi
      · exact List.getElem?_zip_eq_some.2 ⟨hl, hu⟩
    simpa using h _ hmem
  · intro h b hmem
    obtain ⟨name, lower, upper⟩ := b
    obtain ⟨i, hi⟩ := List.mem_iff_getElem?.1 hmem
    obtain ⟨-, hbounds⟩ := List.getElem?_zip_eq_some.1 hi
    obtain ⟨hl, hu⟩ := List.getElem?_zip_eq_some.1 hbounds
    simp [h i lower upper hl hu]

/-! ## Programs -/

/-- The program is that of a regular form: it has the form's sense, bounds and objective,
constraints that mean its conditions, and no crossed bounds. -/
structure Represents (p : BoundedProgram Exact) (f : DenseForm Exact) : Prop where
  shaped : f.Shaped
  regular : f.Regular
  maximize : p.maximize = f.maximize
  bounds : p.bounds = (List.zip f.lower f.upper).map fun b => (nativeBound b.1, nativeBound b.2)
  objective : p.objective = termsOf f.objective
  rows : Expresses f.variableNames.length p.rows f.conditions
  ordered : ∀ (i : Nat) lower upper, f.lower[i]? = some lower → f.upper[i]? = some upper →
    Scalar.lt upper lower = false

/-- What a program is made of: its parts were taken over one by one, and no bounds cross. -/
theorem parts_of_ofDense {α : Type} [Scalar α] {library : Library α} {f : DenseForm α}
    {p : BoundedProgram α} (h : ofDense library f = .ok p) :
    crossed f = [] ∧ nativeBounds library (List.zip f.lower f.upper) = .ok p.bounds ∧
      terms library f.objective = .ok p.objective ∧
      nativeRows library 0 f.conditions = .ok p.rows ∧ p.maximize = f.maximize := by
  rw [ofDense] at h
  split at h
  · cases h
  · next hcrossed =>
    split at h
    · cases h
    · next bounds hbounds =>
      split at h
      · cases h
      · next objective hobjective =>
        obtain ⟨rows, hrows, rfl⟩ := map_eq_ok_iff.1 h
        exact ⟨hcrossed, hbounds, hobjective, hrows, rfl⟩

variable {f : DenseForm Exact}

/-- A regular form has a program unless its bounds cross or a constant row cannot hold. -/
theorem represents_of_ofDense (hs : f.Shaped) (hf : f.Regular) {p : BoundedProgram Exact}
    (h : ofDense library f = .ok p) : p.Represents f := by
  obtain ⟨hcrossed, hbounds, hobjective, hrows, hmaximize⟩ := parts_of_ofDense h
  exact ⟨hs, hf, hmaximize, (nativeBounds_eq_ok_iff.1 hbounds).1, (terms_eq_ok_iff.1 hobjective).1,
    nativeRows_expresses (DenseForm.exists_of_mem_conditions hs hf) hrows,
    (crossed_eq_nil_iff hs).1 hcrossed⟩

/-- A regular form without a program is contradictory, and admits no point. -/
theorem not_admits_of_ofDense (hl : library.Accepting) (hs : f.Shaped) (hf : f.Regular)
    {e : Obstacle Exact} (h : ofDense library f = .error e) :
    (∃ why, e = .contradiction why) ∧ ∀ x, ¬ f.Admits x := by
  have hbounds : ∀ b ∈ List.zip f.lower f.upper, Scalar.isNaN b.1 = false ∧
      Scalar.isNaN b.2 = false := fun b hb =>
    ⟨(hf.lower _ (List.of_mem_zip hb).1).1, (hf.upper _ (List.of_mem_zip hb).2).1⟩
  rw [ofDense] at h
  split at h
  · next name names hcrossed =>
    cases h
    refine ⟨⟨_, rfl⟩, fun x hx => ?_⟩
    have hordered : crossed f = [] := by
      refine (crossed_eq_nil_iff hs).2 fun i lower upper hl hu => ?_
      have hi : i < x.length := hx.size ▸ hs.lt_of_lower hl
      have hbetween := hx.bounds i lower upper x[i] hl hu (List.getElem?_eq_getElem hi)
      by_contra hlt
      exact not_between_of_crossed (by simpa using hlt) x[i] hbetween
    rw [hcrossed] at hordered
    cases hordered
  · rw [nativeBounds_eq_ok (taken_of_isNaN hl hbounds),
      terms_eq_ok (taken_of_isFinite hl hf.objective)] at h
    obtain ⟨hwhy, c, hmem, hno⟩ :=
      nativeRows_contradicts hl (DenseForm.exists_of_mem_conditions hs hf) (map_eq_error_iff.1 h)
    exact ⟨hwhy, fun x hx => hno x (DenseForm.forall_mem_conditions_iff.2 hx.rows c hmem)⟩

namespace Represents

variable {p : BoundedProgram Exact}

theorem length_bounds (h : p.Represents f) :
    p.bounds.length = f.variableNames.length := by
  simp [h.bounds, h.shaped.lower, h.shaped.upper]

theorem within_iff (h : p.Represents f) {i : Nat} {lower upper : Exact}
    (hl : f.lower[i]? = some lower) (hu : f.upper[i]? = some upper) (q : Rat) :
    (∀ b, p.bounds[i]? = some b → Within b q) ↔
      Scalar.le lower (.finite q) ∧ Scalar.le (.finite q) upper := by
  have hb : p.bounds[i]? = some (nativeBound lower, nativeBound upper) := by
    have hzip : (List.zip f.lower f.upper)[i]? = some (lower, upper) :=
      List.getElem?_zip_eq_some.2 ⟨hl, hu⟩
    rw [h.bounds, List.getElem?_map, hzip]
    rfl
  rw [hb, ← within_nativeBound_iff (h.regular.lower _ (List.mem_of_getElem? hl))
    (h.regular.upper _ (List.mem_of_getElem? hu))]
  simp

/-- Over all variables, the program admits an assignment when the form admits its point. -/
theorem admits_iff (h : p.Represents f) (v : Nat → Rat) :
    p.Admits (List.range f.variableNames.length) v ↔ f.Admits (point f.variableNames.length v) := by
  constructor
  · intro hv
    refine ⟨by simp, ?_, DenseForm.forall_mem_conditions_iff.1 ((h.rows.meaning v).1 hv.rows)⟩
    intro i lower upper q hl hu hq
    have hi : i < f.variableNames.length := h.shaped.lt_of_lower hl
    rw [getElem?_point hi] at hq
    cases hq
    exact (h.within_iff hl hu (v i)).1 (hv.bounds i (by simpa using hi))
  · intro hv
    refine ⟨?_, (h.rows.meaning v).2 (DenseForm.forall_mem_conditions_iff.2 hv.rows)⟩
    intro i hi
    rw [List.mem_range] at hi
    obtain ⟨lower, upper, hl, hu⟩ := h.shaped.exists_bounds hi
    exact (h.within_iff hl hu (v i)).2 (hv.bounds i _ _ _ hl hu (getElem?_point hi v))

theorem value_eq (h : p.Represents f) (v : Nat → Rat) :
    p.value v = f.value (point f.variableNames.length v) := by
  obtain ⟨c, hc⟩ := Exact.exists_vector h.regular.objective
  have hlen : c.length = f.variableNames.length := by
    rw [← h.shaped.objective, hc, Exact.length_vector]
  rw [value, h.objective, DenseForm.value, hc, evaluate_termsOf, hlen]

end Represents

/-- Where the library takes finite numbers, lowering a regular form meets no refusal. A contradiction
leaves no admitted point; otherwise the program has the form's sense, admits exactly the points that
the form admits with all its rows, and gives them the form's objective. -/
theorem meaning_ofDense_or_contradiction (hl : library.Accepting) (f : DenseForm Exact)
    (hs : f.shapeFault? = none) (hf : f.Regular) :
    match ofDense library f with
    | .error (.refusal _)       => False
    | .error (.contradiction _) => ∀ x, ¬ f.Admits x
    | .ok p                     =>
      p.maximize = f.maximize ∧ p.bounds.length = f.variableNames.length ∧
      ∀ x : List Rat, x.length = f.variableNames.length →
        (p.Admits (List.range f.variableNames.length) (x.getD · 0) ↔ f.Admits x) ∧
          p.value (x.getD · 0) = f.value x := by
  have hshaped := DenseForm.shaped_iff.2 hs
  cases h : ofDense library f with
  | error e =>
    obtain ⟨⟨why, rfl⟩, hno⟩ := not_admits_of_ofDense hl hshaped hf h
    exact hno
  | ok p =>
    have hp := represents_of_ofDense hshaped hf h
    refine ⟨hp.maximize, hp.length_bounds, fun x hx => ?_⟩
    have hpoint : point f.variableNames.length (x.getD · 0) = x := hx ▸ point_getD x
    rw [hp.admits_iff, hp.value_eq, hpoint]
    exact ⟨.rfl, rfl⟩

/-- The constant row and the infinite bounds are left out, and the row numbers are kept. -/
theorem meaning_ofDense_or_contradiction_sample :
    DenseForm.sample.shapeFault? = none ∧ DenseForm.sample.Regular ∧
      ∃ p, ofDense Engine.library DenseForm.sample = .ok p ∧ p.rows.map (·.index) = [0, 1, 2] ∧
        ∀ x : List Rat, x.length = 3 →
          (p.Admits [0, 1, 2] (x.getD · 0) ↔ DenseForm.sample.Admits x) := by
  have hs : DenseForm.sample.shapeFault? = none := by decide
  have hf : DenseForm.sample.Regular := by decide
  have hrows : (ofDense Engine.library DenseForm.sample).map (·.rows.map (·.index))
      = .ok [0, 1, 2] := by
    decide +kernel
  have h := meaning_ofDense_or_contradiction Engine.accepting_library DenseForm.sample hs hf
  cases hp : ofDense Engine.library DenseForm.sample with
  | error e =>
    rw [hp] at hrows
    cases hrows
  | ok p =>
    rw [hp] at h hrows
    exact ⟨hs, hf, p, rfl, Except.ok.inj hrows, fun x hx => (h.2.2 x hx).1⟩

end BoundedProgram

end LinearDispatch
