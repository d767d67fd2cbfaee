-- SUMMARY: Where the rows of a program of inequalities stand: each finite bound and each constraint of the form at a position that is counted from the form, and nothing else.
import LinearDispatch.Proofs.Program.Inequality
import LinearDispatch.Proofs.Signed

/-!
# Layout of the inequalities

A variable has none, one or two rows, and a constraint one or two. So where a
row stands is not where its source stands: the rows before it have to be
counted, the finite bounds before a variable and the equalities before a
constraint. The layout says of every position what its row and its right-hand
side come from, and is complete: each finite bound and each constraint has its
rows, and no position is left for another one.

Both parts of the program are lists of blocks, and a position in such a list
is an offset, the length of the blocks before, and a position in one block.
-/
namespace LinearDispatch

/-! ## Blocks -/

section Blocks

variable {β γ : Type} {c : γ} {t : Nat}

theorem getElem?_append_iff {xs ys : List γ} :
    (xs ++ ys)[t]? = some c ↔ xs[t]? = some c ∨ ∃ s, ys[s]? = some c ∧ t = xs.length + s := by
  rcases Nat.lt_or_ge t xs.length with hleft | hright
  · rw [List.getElem?_append_left hleft]
    refine ⟨.inl, fun h => h.resolve_right ?_⟩
    rintro ⟨s, -, rfl⟩
    omega
  · rw [List.getElem?_append_right hright, List.getElem?_eq_none hright]
    constructor
    · intro h
      exact .inr ⟨t - xs.length, h, by omega⟩
    · rintro (h | ⟨s, hs, rfl⟩)
      · cases h
      · rwa [Nat.add_sub_cancel_left]

/-- An entry of a list of blocks is one of some block, and stands behind the blocks before it. -/
theorem getElem?_flatMap_iff {block : β → List γ} {xs : List β} :
    (xs.flatMap block)[t]? = some c ↔ ∃ (i : Nat) (x : β) (j : Nat), xs[i]? = some x ∧
      (block x)[j]? = some c ∧ t = ((xs.take i).flatMap block).length + j := by
  -- Past the first block, the offset counts it and the block is one of the rest.
  induction xs generalizing t with
  | nil => simp
  | cons x xs ih =>
    rw [List.flatMap_cons, getElem?_append_iff]
    constructor
    · rintro (h | ⟨s, hs, rfl⟩)
      · exact ⟨0, x, t, rfl, h, (Nat.zero_add t).symm⟩
      · obtain ⟨i, y, j, hy, hj, rfl⟩ := ih.1 hs
        refine ⟨i + 1, y, j, hy, hj, ?_⟩
        rw [List.take_succ_cons, List.flatMap_cons, List.length_append, Nat.add_assoc]
    · rintro ⟨i, y, j, hy, hj, rfl⟩
      cases i with
      | zero =>
        cases hy
        exact .inl (by rwa [List.take_zero, List.flatMap_nil, List.length_nil, Nat.zero_add])
      | succ i =>
        refine .inr ⟨_, ih.2 ⟨i, y, j, hy, hj, rfl⟩, ?_⟩
        rw [List.take_succ_cons, List.flatMap_cons, List.length_append, Nat.add_assoc]

theorem getElem?_ite_singleton_iff {a : γ} {p : Bool} :
    (if p then [a] else [])[t]? = some c ↔ p = true ∧ t = 0 ∧ c = a := by
  cases p with
  | false => simp
  | true => cases t <;> simp [eq_comm]

end Blocks

variable {α : Type} [Scalar α]

/-! ## Unit rows -/

namespace InequalityProgram

/-- The row of `n` cells in which only that at position `i` differs from zero, and is `x`. -/
structure Marks (row : List α) (n i : Nat) (x : α) : Prop where
  width : row.length = n
  marked : row[i]? = some x
  others : ∀ j y, row[j]? = some y → j ≠ i → y = 0
  nonzero : ∀ j y, row[j]? = some y → (Scalar.isNonzero y = true ↔ j = i)

theorem length_unitRow {n i : Nat} {x : α} : (unitRow n i x).length = n := by
  simp [unitRow]

theorem getElem?_unitRow {n i j : Nat} (hi : i < n) {x y : α} :
    (unitRow n i x)[j]? = some y ↔ j < n ∧ y = if j = i then x else 0 := by
  rw [unitRow, List.getElem?_set, List.length_replicate, List.getElem?_replicate]
  by_cases hj : j = i
  · subst hj
    simp [hi, eq_comm]
  · simp [hj, Ne.symm hj, eq_comm]

theorem marks_iff [SignedScalar α] {row : List α} {n i : Nat} {x : α} (hi : i < n)
    (hx : Scalar.isNonzero x = true) : Marks row n i x ↔ row = unitRow n i x := by
  constructor
  · intro h
    have hcells : ∀ (j : Nat) y, row[j]? = some y → (unitRow n i x)[j]? = some y := by
      intro j y hy
      refine (getElem?_unitRow hi).2 ⟨h.width ▸ (List.getElem?_eq_some_iff.1 hy).1, ?_⟩
      split
      · next hj => exact Option.some.inj (hy.symm.trans (hj ▸ h.marked))
      · next hj => exact h.others j y hy hj
    refine List.ext_getElem (h.width.trans length_unitRow.symm) fun j hj hj' => ?_
    have hcell := hcells j row[j] (List.getElem?_eq_getElem hj)
    rw [List.getElem?_eq_getElem hj'] at hcell
    exact (Option.some.inj hcell).symm
  · rintro rfl
    refine ⟨length_unitRow, (getElem?_unitRow hi).2 ⟨hi, by simp⟩, ?_, ?_⟩
    · intro j y hy hj
      rw [((getElem?_unitRow hi).1 hy).2, if_neg hj]
    · intro j y hy
      rw [((getElem?_unitRow hi).1 hy).2]
      by_cases hj : j = i
      · simp [hj, hx]
      · simp [hj, SignedScalar.isNonzero_zero]

end InequalityProgram

/-! ## Parts of a form -/

namespace DenseForm

variable {f : DenseForm α} {i : Nat} {b : α}

/-- The pairs of bounds with the positions of their variables. -/
def boundEntries {α : Type} (f : DenseForm α) : List ((α × α) × Nat) :=
  (List.zip f.lower f.upper).zipIdx

/-- How many of the first `i` numbers are finite. -/
def finiteBefore (xs : List α) (i : Nat) : Nat :=
  (xs.take i).countP Scalar.isFinite

section

omit [Scalar α]

theorem getElem?_boundEntries_iff {e : (α × α) × Nat} : f.boundEntries[i]? = some e ↔
    f.lower[i]? = some e.1.1 ∧ f.upper[i]? = some e.1.2 ∧ e.2 = i := by
  obtain ⟨⟨lower, upper⟩, j⟩ := e
  rw [boundEntries, List.getElem?_zipIdx, Option.map_eq_some_iff]
  constructor
  · rintro ⟨b, hb, heq⟩
    cases heq
    obtain ⟨hl, hu⟩ := List.getElem?_zip_eq_some.1 hb
    exact ⟨hl, hu, Nat.zero_add i⟩
  · rintro ⟨hl, hu, rfl⟩
    exact ⟨_, List.getElem?_zip_eq_some.2 ⟨hl, hu⟩, congrArg _ (Nat.zero_add _)⟩

theorem map_boundEntries (hs : f.Shaped) :
    f.boundEntries.map (·.1.1) = f.lower ∧ f.boundEntries.map (·.1.2) = f.upper := by
  have hlength : f.lower.length = f.upper.length := hs.lower.trans hs.upper.symm
  have hpairs : ∀ part : α × α → α, f.boundEntries.map (fun e => part e.1) =
      (List.zip f.lower f.upper).map part := by
    intro part
    conv_rhs => rw [← List.zipIdx_map_fst 0 (List.zip f.lower f.upper), List.map_map]
    rfl
  exact ⟨(hpairs Prod.fst).trans (List.map_fst_zip hlength.le),
    (hpairs Prod.snd).trans (List.map_snd_zip hlength.ge)⟩

theorem map_conditions (hs : f.Shaped) : f.conditions.map (·.2.1) = f.relations := by
  have hlength : (List.zip f.relations f.rhs).length ≤ f.rows.length := by
    simp [hs.rows, hs.rhs]
  have hfst : (List.zip f.relations f.rhs).map Prod.fst = f.relations := List.map_fst_zip hs.rhs.ge
  have hsnd : f.conditions.map Prod.snd = List.zip f.relations f.rhs := List.map_snd_zip hlength
  rw [← hfst, ← hsnd, List.map_map]
  rfl

theorem length_conditions (hs : f.Shaped) : f.conditions.length = f.relations.length := by
  rw [← map_conditions hs, List.length_map]

end

theorem finiteBefore_succ {xs : List α} (h : xs[i]? = some b) :
    finiteBefore xs (i + 1) = finiteBefore xs i + if Scalar.isFinite b then 1 else 0 := by
  rw [finiteBefore, finiteBefore, List.take_add_one, h, List.countP_append]
  simp

end DenseForm

namespace InequalityProgram

/-! ## The blocks of a program -/

theorem length_boundBlocks {n : Nat} {es : List ((α × α) × Nat)} :
    (es.flatMap (boundBlock n)).length =
      (es.map (·.1.1)).countP Scalar.isFinite + (es.map (·.1.2)).countP Scalar.isFinite := by
  induction es with
  | nil => rfl
  | cons e es ih =>
    have hblock : (boundBlock n e).length =
        (if Scalar.isFinite e.1.1 then 1 else 0) + if Scalar.isFinite e.1.2 then 1 else 0 := by
      rw [boundBlock, boundRows]
      split <;> split <;> rfl
    rw [List.flatMap_cons, List.length_append, hblock, ih, List.map_cons, List.map_cons,
      List.countP_cons, List.countP_cons]
    omega

theorem length_conditionBlocks {cs : List (List α × Relation × α)} :
    (cs.flatMap conditionBlock).length = cs.length + (cs.map (·.2.1)).count .equal := by
  induction cs with
  | nil => rfl
  | cons c cs ih =>
    have hblock : (conditionBlock c).length = 1 + if c.2.1 == .equal then 1 else 0 := by
      rw [conditionBlock]
      cases c.2.1 <;> rfl
    rw [List.flatMap_cons, List.length_append, hblock, ih, List.map_cons, List.count_cons,
      List.length_cons]
    omega

theorem getElem?_boundRows_iff {n i j : Nat} {lower upper : α} {h : HalfSpace α} :
    (boundRows n i lower upper)[j]? = some h ↔
      (Scalar.isFinite lower = true ∧ j = 0 ∧ h = ⟨unitRow n i (-1), -lower⟩) ∨
      (Scalar.isFinite upper = true ∧ j = (if Scalar.isFinite lower then 1 else 0) ∧
        h = ⟨unitRow n i 1, upper⟩) := by
  have hlength : (if Scalar.isFinite lower then
      [(⟨unitRow n i (-1), -lower⟩ : HalfSpace α)] else []).length =
        if Scalar.isFinite lower then 1 else 0 := by
    split <;> rfl
  rw [boundRows, getElem?_append_iff, getElem?_ite_singleton_iff, hlength]
  refine or_congr_right ?_
  simp only [getElem?_ite_singleton_iff]
  constructor
  · rintro ⟨s, ⟨hu, rfl, rfl⟩, rfl⟩
    exact ⟨hu, Nat.add_zero _, rfl⟩
  · rintro ⟨hu, rfl, rfl⟩
    exact ⟨0, ⟨hu, rfl, rfl⟩, (Nat.add_zero _).symm⟩

end InequalityProgram

/-! ## The layout -/

namespace DenseForm

/-- How many rows the bounds have together. -/
def boundCount (f : DenseForm α) : Nat :=
  f.lower.countP Scalar.isFinite + f.upper.countP Scalar.isFinite

/-- Where the rows of constraint `k` start: behind the bounds, the constraints before it, and the
second rows of the equalities among these. -/
def constraintStart (f : DenseForm α) (k : Nat) : Nat :=
  f.boundCount + k + (f.relations.take k).count .equal

/-- What stands at a position of the program: a row and its right-hand side. -/
inductive RowAt (f : DenseForm α) : Nat → List α → α → Prop
  /-- The finite lower bounds up to a variable and the finite upper ones before it come first. -/
  | lower {i : Nat} {row : List α} {b : α} : f.lower[i]? = some b → Scalar.isFinite b = true →
      InequalityProgram.Marks row f.variableNames.length i (-1) →
      RowAt f (finiteBefore f.lower i + finiteBefore f.upper i) row (-b)
  | upper {i : Nat} {row : List α} {b : α} : f.upper[i]? = some b → Scalar.isFinite b = true →
      InequalityProgram.Marks row f.variableNames.length i 1 →
      RowAt f (finiteBefore f.lower (i + 1) + finiteBefore f.upper i) row b
  | atMost {k : Nat} {row : List α} {b : α} : f.rows[k]? = some row →
      f.relations[k]? = some .atMost → f.rhs[k]? = some b → RowAt f (f.constraintStart k) row b
  | atLeast {k : Nat} {row : List α} {b : α} : f.rows[k]? = some row →
      f.relations[k]? = some .atLeast → f.rhs[k]? = some b →
      RowAt f (f.constraintStart k) (row.map (- ·)) (-b)
  | equal {k : Nat} {row : List α} {b : α} : f.rows[k]? = some row →
      f.relations[k]? = some .equal → f.rhs[k]? = some b → RowAt f (f.constraintStart k) row b
  | equalFlipped {k : Nat} {row : List α} {b : α} : f.rows[k]? = some row →
      f.relations[k]? = some .equal → f.rhs[k]? = some b →
      RowAt f (f.constraintStart k + 1) (row.map (- ·)) (-b)

/-- The rows of a constraint stand behind its start. -/
theorem RowAt.of_constraintRows {f : DenseForm α} {k j : Nat} {r : Relation} {a row : List α}
    {b c : α} (ha : f.rows[k]? = some a) (hr : f.relations[k]? = some r) (hc : f.rhs[k]? = some c)
    (hj : (InequalityProgram.constraintRows a r c)[j]? = some ⟨row, b⟩) :
    f.RowAt (f.constraintStart k + j) row b := by
  cases r with
  | atMost =>
    obtain _ | j := j <;> cases hj
    exact .atMost ha hr hc
  | atLeast =>
    obtain _ | j := j <;> cases hj
    exact .atLeast ha hr hc
  | equal =>
    obtain _ | _ | j := j <;> cases hj
    · exact .equal ha hr hc
    · exact .equalFlipped ha hr hc

theorem RowAt.length_eq {f : DenseForm α} {t : Nat} {row : List α} {b : α} (h : f.RowAt t row b)
    (hs : f.Shaped) : row.length = f.variableNames.length := by
  cases h with
  | lower _ _ hrow => exact hrow.width
  | upper _ _ hrow => exact hrow.width
  | atMost ha _ _ => exact hs.cells _ (List.mem_of_getElem? ha)
  | atLeast ha _ _ => exact (List.length_map _).trans (hs.cells _ (List.mem_of_getElem? ha))
  | equal ha _ _ => exact hs.cells _ (List.mem_of_getElem? ha)
  | equalFlipped ha _ _ => exact (List.length_map _).trans (hs.cells _ (List.mem_of_getElem? ha))

end DenseForm

namespace InequalityProgram

variable {f : DenseForm α} {t : Nat}

theorem length_boundBlocks_take (hs : f.Shaped) (i : Nat) :
    ((f.boundEntries.take i).flatMap (boundBlock f.variableNames.length)).length
      = DenseForm.finiteBefore f.lower i + DenseForm.finiteBefore f.upper i := by
  obtain ⟨hlower, hupper⟩ := DenseForm.map_boundEntries hs
  rw [length_boundBlocks, List.map_take, List.map_take, hlower, hupper]
  rfl

theorem length_conditionBlocks_take (hs : f.Shaped) {k : Nat} (hk : k ≤ f.relations.length) :
    ((f.conditions.take k).flatMap conditionBlock).length
      = k + (f.relations.take k).count .equal := by
  rw [length_conditionBlocks, List.map_take, DenseForm.map_conditions hs, List.length_take,
    DenseForm.length_conditions hs, Nat.min_eq_left hk]

/-- A position among the bounds is that of a finite lower or of a finite upper one. -/
theorem getElem?_boundBlocks_iff (hs : f.Shaped) {h : HalfSpace α} :
    (f.boundEntries.flatMap (boundBlock f.variableNames.length))[t]? = some h ↔
      (∃ (i : Nat) (b : α), f.lower[i]? = some b ∧ Scalar.isFinite b = true ∧
        t = DenseForm.finiteBefore f.lower i + DenseForm.finiteBefore f.upper i ∧
        h = ⟨unitRow f.variableNames.length i (-1), -b⟩) ∨
      (∃ (i : Nat) (b : α), f.upper[i]? = some b ∧ Scalar.isFinite b = true ∧
        t = DenseForm.finiteBefore f.lower (i + 1) + DenseForm.finiteBefore f.upper i ∧
        h = ⟨unitRow f.variableNames.length i 1, b⟩) := by
  -- Behind the row of a finite lower bound, the upper one of the same variable stands one further.
  have hbehind : ∀ {i : Nat} {b : α}, f.lower[i]? = some b →
      DenseForm.finiteBefore f.lower i + DenseForm.finiteBefore f.upper i +
          (if Scalar.isFinite b then 1 else 0) =
        DenseForm.finiteBefore f.lower (i + 1) + DenseForm.finiteBefore f.upper i := by
    intro i b hb
    rw [DenseForm.finiteBefore_succ hb, Nat.add_right_comm]
  rw [getElem?_flatMap_iff]
  simp only [DenseForm.getElem?_boundEntries_iff, length_boundBlocks_take hs, boundBlock,
    getElem?_boundRows_iff]
  constructor
  · rintro ⟨i, ⟨⟨lower, upper⟩, _⟩, j, ⟨hl, hu, rfl⟩, hrow, rfl⟩
    rcases hrow with ⟨hfinite, rfl, rfl⟩ | ⟨hfinite, rfl, rfl⟩
    · exact .inl ⟨_, lower, hl, hfinite, rfl, rfl⟩
    · exact .inr ⟨_, upper, hu, hfinite, hbehind hl, rfl⟩
  · rintro (⟨i, b, hl, hfinite, rfl, rfl⟩ | ⟨i, b, hu, hfinite, rfl, rfl⟩)
    · obtain ⟨-, upper, -, hu⟩ := hs.exists_bounds (hs.lt_of_lower hl)
      exact ⟨i, ((b, upper), i), 0, ⟨hl, hu, rfl⟩, .inl ⟨hfinite, rfl, rfl⟩, rfl⟩
    · obtain ⟨lower, -, hl, -⟩ := hs.exists_bounds (hs.lt_of_upper hu)
      exact ⟨i, ((lower, b), i), _, ⟨hl, hu, rfl⟩, .inr ⟨hfinite, rfl, rfl⟩, (hbehind hl).symm⟩

/-- A position among the constraints is that of one of the rows of a constraint. -/
theorem getElem?_conditionBlocks_iff (hs : f.Shaped) {h : HalfSpace α} :
    (f.conditions.flatMap conditionBlock)[t]? = some h ↔
      ∃ (k : Nat) (row : List α) (r : Relation) (b : α) (j : Nat), f.rows[k]? = some row ∧
        f.relations[k]? = some r ∧ f.rhs[k]? = some b ∧ (constraintRows row r b)[j]? = some h ∧
        t = k + (f.relations.take k).count .equal + j := by
  rw [getElem?_flatMap_iff]
  constructor
  · rintro ⟨k, ⟨row, r, b⟩, j, hk, hj, rfl⟩
    obtain ⟨hrow, hr, hb⟩ := DenseForm.getElem?_conditions_iff.1 hk
    have hle := (List.getElem?_eq_some_iff.1 hr).1.le
    exact ⟨k, row, r, b, j, hrow, hr, hb, hj, by rw [length_conditionBlocks_take hs hle]⟩
  · rintro ⟨k, row, r, b, j, hrow, hr, hb, hj, rfl⟩
    have hle := (List.getElem?_eq_some_iff.1 hr).1.le
    exact ⟨k, (row, r, b), j, DenseForm.getElem?_conditions_iff.2 ⟨hrow, hr, hb⟩, hj,
      by rw [length_conditionBlocks_take hs hle]⟩

theorem rows_ofDense_eq (f : DenseForm α) : (ofDense f).rows =
    f.boundEntries.flatMap (boundBlock f.variableNames.length) ++
      f.conditions.flatMap conditionBlock :=
  rows_ofDense f

theorem length_boundBlocks_eq (hs : f.Shaped) :
    (f.boundEntries.flatMap (boundBlock f.variableNames.length)).length = f.boundCount := by
  obtain ⟨hlower, hupper⟩ := DenseForm.map_boundEntries hs
  rw [length_boundBlocks, hlower, hupper, DenseForm.boundCount]

/-- The rows stand where the layout says. -/
theorem getElem?_rows_iff [SignedScalar α] (hs : f.Shaped) {row : List α} {b : α} :
    (ofDense f).rows[t]? = some ⟨row, b⟩ ↔ f.RowAt t row b := by
  have hstart : ∀ k j, f.boundCount + (k + (f.relations.take k).count .equal + j) =
      f.constraintStart k + j := by
    intro k j
    rw [DenseForm.constraintStart]
    omega
  rw [rows_ofDense_eq, getElem?_append_iff, getElem?_boundBlocks_iff hs, length_boundBlocks_eq hs]
  simp only [getElem?_conditionBlocks_iff hs]
  constructor
  · rintro ((⟨i, c, hl, hfinite, rfl, heq⟩ | ⟨i, c, hu, hfinite, rfl, heq⟩) |
      ⟨s, ⟨k, a, r, c, j, ha, hr, hc, hj, rfl⟩, rfl⟩)
    · cases heq
      exact .lower hl hfinite ((marks_iff (hs.lt_of_lower hl) SignedScalar.isNonzero_neg_one).2 rfl)
    · cases heq
      exact .upper hu hfinite ((marks_iff (hs.lt_of_upper hu) SignedScalar.isNonzero_one).2 rfl)
    · rw [hstart]
      exact DenseForm.RowAt.of_constraintRows ha hr hc hj
  · intro h
    cases h with
    | lower hl hfinite hrow =>
      rw [(marks_iff (hs.lt_of_lower hl) SignedScalar.isNonzero_neg_one).1 hrow]
      exact .inl (.inl ⟨_, _, hl, hfinite, rfl, rfl⟩)
    | upper hu hfinite hrow =>
      rw [(marks_iff (hs.lt_of_upper hu) SignedScalar.isNonzero_one).1 hrow]
      exact .inl (.inr ⟨_, _, hu, hfinite, rfl, rfl⟩)
    | atMost ha hr hb =>
      exact .inr ⟨_, ⟨_, _, _, _, 0, ha, hr, hb, rfl, rfl⟩, (hstart _ 0).symm⟩
    | atLeast ha hr hb =>
      exact .inr ⟨_, ⟨_, _, _, _, 0, ha, hr, hb, rfl, rfl⟩, (hstart _ 0).symm⟩
    | equal ha hr hb =>
      exact .inr ⟨_, ⟨_, _, _, _, 0, ha, hr, hb, rfl, rfl⟩, (hstart _ 0).symm⟩
    | equalFlipped ha hr hb =>
      exact .inr ⟨_, ⟨_, _, _, _, 1, ha, hr, hb, rfl, rfl⟩, (hstart _ 1).symm⟩

theorem length_relations (rs : List Relation) :
    rs.length = rs.count .atMost + rs.count .atLeast + rs.count .equal := by
  induction rs with
  | nil => rfl
  | cons r rs ih => cases r <;> simp [ih] <;> omega

theorem length_rows_ofDense (hs : f.Shaped) : (ofDense f).rows.length =
    f.lower.countP Scalar.isFinite + f.upper.countP Scalar.isFinite + f.relations.count .atMost +
      f.relations.count .atLeast + 2 * f.relations.count .equal := by
  have hconditions : (f.conditions.flatMap conditionBlock).length =
      f.relations.length + f.relations.count .equal := by
    rw [length_conditionBlocks, DenseForm.map_conditions hs, DenseForm.length_conditions hs]
  rw [rows_ofDense_eq, List.length_append, length_boundBlocks_eq hs, hconditions,
    length_relations, DenseForm.boundCount]
  omega

/-- The matrix is as wide as the form has variables. It has a row with a right-hand side for each
finite bound and each inequality and two for each equality, and these stand where the layout
says. -/
theorem layout_ofDense [SignedScalar α] (f : DenseForm α) (hs : f.shapeFault? = none) :
    (ofDense f).matrix.length = (ofDense f).bounds.length ∧
    (ofDense f).bounds.length = f.lower.countP Scalar.isFinite + f.upper.countP Scalar.isFinite +
      f.relations.count .atMost + f.relations.count .atLeast + 2 * f.relations.count .equal ∧
    (∀ row ∈ (ofDense f).matrix, row.length = f.variableNames.length) ∧
    ∀ (t : Nat) (row : List α) (b : α),
      (ofDense f).matrix[t]? = some row ∧ (ofDense f).bounds[t]? = some b ↔ f.RowAt t row b := by
  have hshaped := DenseForm.shaped_iff.2 hs
  refine ⟨?_, ?_, ?_, ?_⟩
  · rw [matrix_ofDense, bounds_ofDense, List.length_map, List.length_map]
  · rw [bounds_ofDense, List.length_map, length_rows_ofDense hshaped]
  · intro row hrow
    rw [matrix_ofDense] at hrow
    obtain ⟨h, hh, rfl⟩ := List.mem_map.1 hrow
    obtain ⟨t, ht⟩ := List.mem_iff_getElem?.1 hh
    exact ((getElem?_rows_iff hshaped).1 ht).length_eq hshaped
  · intro t row b
    rw [← getElem?_rows_iff hshaped, matrix_ofDense, bounds_ofDense, List.getElem?_map,
      List.getElem?_map]
    constructor
    · rintro ⟨hrow, hb⟩
      obtain ⟨h, hh, rfl⟩ := Option.map_eq_some_iff.1 hrow
      rw [hh] at hb
      cases hb
      exact hh
    · intro h
      rw [h]
      exact ⟨rfl, rfl⟩

/-- A form whose bounds, cells and right-hand sides are of all kinds, with two equalities. -/
def layoutSample : DenseForm Float where
  variableNames := ["x", "y"]
  objective := [1, 1]
  lower := [-Scalar.infinity, -0]
  upper := [1, Scalar.notANumber]
  rows := [[1, Scalar.infinity], [-1, 0], [Scalar.notANumber, 1], [0, 0]]
  relations := [.equal, .atLeast, .equal, .atMost]
  rhs := [1, -Scalar.infinity, 0, Scalar.notANumber]
  maximize := false
  constraintNames := ["even", "floor", "level", "ceiling"]

theorem layout_ofDense_sample :
    layoutSample.shapeFault? = none ∧ (ofDense layoutSample).bounds.length = 8 ∧
      layoutSample.RowAt 1 [0, -1] 0 ∧ layoutSample.RowAt 4 [1, -0] Scalar.infinity ∧
      layoutSample.RowAt 6 [-Scalar.notANumber, -1] (-0) := by
  have hs : layoutSample.shapeFault? = none := by decide
  obtain ⟨-, hlength, -, hlayout⟩ := layout_ofDense layoutSample hs
  exact ⟨hs, hlength, (hlayout 1 _ _).1 ⟨rfl, rfl⟩, (hlayout 4 _ _).1 ⟨rfl, rfl⟩,
    (hlayout 6 _ _).1 ⟨rfl, rfl⟩⟩

end InequalityProgram

end LinearDispatch
