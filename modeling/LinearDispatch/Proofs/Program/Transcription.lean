-- SUMMARY: The program with native bounds, part by part: it is refused for crossed bounds and failing constant rows only, and otherwise lists what the form says, numbered as the form numbers it.
import LinearDispatch.Proofs.Program.Crossed
import LinearDispatch.Proofs.Program.Used
import LinearDispatch.Proofs.Signed

/-!
# Transcription to native bounds

A form without a number that a program refuses has a program, unless it is
infeasible as stated: some bounds cross, or zero is not in the relation of a
constant row to its right-hand side. The program is then a transcript of the
form. Constant rows are skipped, and the constraints after them keep the number
of their row.

Whether a row is constant and which of its cells are listed are settled apart,
but by one test for zero, which both signed zeros pass and no number does not.
So the rows that have a constraint are those that have a term.
-/
namespace LinearDispatch

variable {α : Type} [Scalar α]

/-! ## Forms -/

namespace DenseForm

theorem isConstant_iff {row : List α} :
    isConstant row = true ↔ ∀ x ∈ row, Scalar.eq x 0 = true := by
  simp [isConstant, Scalar.isNonzero]

theorem isConstant_eq_false_iff {row : List α} :
    isConstant row = false ↔ ∃ x ∈ row, Scalar.isNonzero x = true := by
  simp [isConstant]

/-- The row at a position is constant, and zero is not in its relation to its right-hand side. -/
def ViolatedAt (f : DenseForm α) (k : Nat) : Prop :=
  ∃ row r b, f.rows[k]? = some row ∧ f.relations[k]? = some r ∧ f.rhs[k]? = some b ∧
    (∀ x ∈ row, Scalar.eq x 0 = true) ∧ r.compares 0 b = false

/-- Infeasible as stated: some bounds cross, or some constant row fails. -/
def Contradictory (f : DenseForm α) : Prop :=
  (∃ i lower upper, f.CrossedAt i lower upper) ∨ ∃ k, f.ViolatedAt k

/-- Finite objective, rows and right-hand sides, and bounds that are numbers. -/
structure Expressible (f : DenseForm α) : Prop where
  objective : ∀ a ∈ f.objective, Scalar.isFinite a = true
  rows : ∀ row ∈ f.rows, ∀ a ∈ row, Scalar.isFinite a = true
  rhs : ∀ b ∈ f.rhs, Scalar.isFinite b = true
  lower : ∀ b ∈ f.lower, Scalar.isNaN b = false
  upper : ∀ b ∈ f.upper, Scalar.isNaN b = false

instance (f : DenseForm α) : Decidable f.Expressible :=
  decidable_of_iff
    ((∀ a ∈ f.objective, Scalar.isFinite a = true) ∧
      (∀ row ∈ f.rows, ∀ a ∈ row, Scalar.isFinite a = true) ∧
      (∀ b ∈ f.rhs, Scalar.isFinite b = true) ∧
      (∀ b ∈ f.lower, Scalar.isNaN b = false) ∧ ∀ b ∈ f.upper, Scalar.isNaN b = false)
    ⟨fun ⟨ho, hr, hb, hl, hu⟩ => ⟨ho, hr, hb, hl, hu⟩,
      fun h => ⟨h.objective, h.rows, h.rhs, h.lower, h.upper⟩⟩

end DenseForm

/-! ## Conditions -/

namespace BoundedProgram

/-- The numbers of the condition are none that the library refuses. Those of a constant row never
reach it. -/
def Readable (library : Library α) (c : List α × Relation × α) : Prop :=
  DenseForm.isConstant c.1 = true ∨
    (∀ t ∈ termsOf c.1, library.coefficientRefusal t.2 = none) ∧ library.rhsRefusal c.2.2 = none

/-- The condition is one over a constant row that fails. -/
def Refuted (c : List α × Relation × α) : Prop :=
  DenseForm.isConstant c.1 = true ∧ c.2.1.compares 0 c.2.2 = false

/-- The first condition that fails stands behind readable ones only. -/
def RefutedFirst (library : Library α) : List (List α × Relation × α) → Prop
  | []      => False
  | c :: cs => Refuted c ∨ Readable library c ∧ RefutedFirst library cs

variable {library : Library α}

theorem refutedFirst_iff {cs : List (List α × Relation × α)} :
    RefutedFirst library cs ↔
      ∃ (k : Nat) (c : List α × Relation × α), cs[k]? = some c ∧ Refuted c ∧
        ∀ j < k, ∀ d, cs[j]? = some d → Readable library d := by
  induction cs with
  | nil => simp [RefutedFirst]
  | cons c cs ih =>
    rw [RefutedFirst, ih]
    constructor
    · rintro (hrefuted | ⟨hreadable, k, d, hd, hrefuted, hbefore⟩)
      · exact ⟨0, c, rfl, hrefuted, by simp⟩
      · refine ⟨k + 1, d, hd, hrefuted, fun j hj e he => ?_⟩
        cases j with
        | zero =>
          cases he
          exact hreadable
        | succ j => exact hbefore j (Nat.lt_of_succ_lt_succ hj) e he
    · rintro ⟨k, d, hd, hrefuted, hbefore⟩
      cases k with
      | zero =>
        cases hd
        exact .inl hrefuted
      | succ k =>
        exact .inr ⟨hbefore 0 k.succ_pos c rfl, k, d, hd, hrefuted, fun j hj e he =>
          hbefore (j + 1) (Nat.succ_lt_succ hj) e he⟩

/-- The constraint of the condition at position `k`, unless its row is constant. -/
def kept (k : Nat) (c : List α × Relation × α) : Option (NativeRow α) :=
  if DenseForm.isConstant c.1 then none else some ⟨k, c.2.1, c.2.2 + 0, termsOf c.1⟩

theorem kept_eq_some_iff {k : Nat} {c : List α × Relation × α} {r : NativeRow α} :
    kept k c = some r ↔
      DenseForm.isConstant c.1 = false ∧ r = ⟨k, c.2.1, c.2.2 + 0, termsOf c.1⟩ := by
  rw [kept]
  split
  · next h => simp [h]
  · next h => simp [h, eq_comm]

section Lowering

variable [SignedScalar α] {c : List α × Relation × α} {cs : List (List α × Relation × α)} {k : Nat}

omit [SignedScalar α] in
theorem Refuted.readable (h : Refuted c) : Readable library c :=
  .inl h.1

/-- A condition is refuted, or taken over unless its row is constant, or refused. -/
theorem nativeRow_cases (library : Library α) (k : Nat) (c : List α × Relation × α) :
    (Refuted c ∧ nativeRow library k c.1 c.2.1 c.2.2 =
      .error (.contradiction (.constantRow k c.2.1 c.2.2))) ∨
    (Readable library c ∧ ¬ Refuted c ∧ nativeRow library k c.1 c.2.1 c.2.2 = .ok (kept k c)) ∨
    (¬ Readable library c ∧ ∃ text, nativeRow library k c.1 c.2.1 c.2.2 =
      .error (.refusal text)) := by
  obtain ⟨row, r, b⟩ := c
  by_cases hconstant : DenseForm.isConstant row = true
  · cases hcompares : r.compares 0 b with
    | false =>
      have hfails : r.holds 0 b 0 = false := by rw [Relation.holds_zero_eq, hcompares]
      exact .inl ⟨⟨hconstant, hcompares⟩, by simp [nativeRow, hconstant, hfails]⟩
    | true =>
      have hholds : r.holds 0 b 0 = true := by rw [Relation.holds_zero_eq, hcompares]
      refine .inr (.inl ⟨.inl hconstant, fun h => ?_, by simp [nativeRow, kept, hconstant, hholds]⟩)
      exact absurd (hcompares.symm.trans h.2) (by decide)
  · by_cases hrow : ∀ t ∈ termsOf row, library.coefficientRefusal t.2 = none
    · cases hrhs : library.rhsRefusal b with
      | none =>
        refine .inr (.inl ⟨.inr ⟨hrow, hrhs⟩, fun h => hconstant h.1, ?_⟩)
        simp [nativeRow, kept, hconstant, terms_eq_ok hrow, hrhs]
      | some text =>
        refine .inr (.inr ⟨?_, text, by simp [nativeRow, hconstant, terms_eq_ok hrow, hrhs]⟩)
        rintro (h | ⟨-, h⟩)
        · exact hconstant h
        · cases hrhs.symm.trans h
    · obtain ⟨text, htext⟩ := exists_terms_eq_error hrow
      refine .inr (.inr ⟨?_, text, by simp [nativeRow, hconstant, htext]⟩)
      rintro (h | ⟨h, -⟩)
      · exact hconstant h
      · exact hrow h

/-- The first condition that is refuted or refused decides; without one all conditions are taken
over, but for the constant rows. -/
theorem nativeRows_cases (library : Library α) (k : Nat) (cs : List (List α × Relation × α)) :
    (RefutedFirst library cs ∧ ∃ why, nativeRows library k cs = .error (.contradiction why)) ∨
    ((∀ c ∈ cs, Readable library c ∧ ¬ Refuted c) ∧
      nativeRows library k cs = .ok ((cs.zipIdx k).filterMap fun e => kept e.2 e.1)) ∨
    (¬ RefutedFirst library cs ∧ (∃ c ∈ cs, ¬ Readable library c) ∧
      ∃ text, nativeRows library k cs = .error (.refusal text)) := by
  induction cs generalizing k with
  | nil => exact .inr (.inl ⟨by simp, rfl⟩)
  | cons c cs ih =>
    rw [RefutedFirst, nativeRows]
    rcases nativeRow_cases library k c with ⟨hc, hrow⟩ | ⟨hc, hholds, hrow⟩ | ⟨hc, text, hrow⟩
    · exact .inl ⟨.inl hc, _, by rw [hrow]⟩
    · rw [hrow]
      rcases ih (k + 1) with ⟨hcs, why, hrows⟩ | ⟨hcs, hrows⟩ | ⟨hcs, ⟨d, hd, hnot⟩, text, hrows⟩
      · exact .inl ⟨.inr ⟨hc, hcs⟩, why, by rw [hrows]; rfl⟩
      · refine .inr (.inl ⟨List.forall_mem_cons.2 ⟨⟨hc, hholds⟩, hcs⟩, ?_⟩)
        rw [hrows, List.zipIdx_cons, List.filterMap_cons]
        cases kept k c <;> rfl
      · refine .inr (.inr ⟨?_, ⟨d, List.mem_cons_of_mem _ hd, hnot⟩, text, by rw [hrows]; rfl⟩)
        rintro (hrefuted | ⟨-, hfirst⟩)
        · exact hholds hrefuted
        · exact hcs hfirst
    · refine .inr (.inr ⟨?_, ⟨c, List.mem_cons_self, hc⟩, text, by rw [hrow]⟩)
      rintro (hrefuted | ⟨hreadable, -⟩)
      · exact hc hrefuted.readable
      · exact hc hreadable

end Lowering

/-! ## Programs -/

/-- The library refuses no number of the form that reaches it. -/
structure Taken (library : Library α) (f : DenseForm α) : Prop where
  objective : ∀ t ∈ termsOf f.objective, library.coefficientRefusal t.2 = none
  bounds : ∀ b ∈ List.zip f.lower f.upper,
    library.boundsRefusal (nativeBound b.1) (nativeBound b.2) = none
  conditions : ∀ c ∈ f.conditions, Readable library c

/-- A contradiction is found before any refusal: bounds cross, or else bounds and objective are
taken and a condition is refuted behind readable ones only. -/
def ContradictedFirst (library : Library α) (f : DenseForm α) : Prop :=
  (∃ i lower upper, f.CrossedAt i lower upper) ∨
    (∀ b ∈ List.zip f.lower f.upper,
      library.boundsRefusal (nativeBound b.1) (nativeBound b.2) = none) ∧
    (∀ t ∈ termsOf f.objective, library.coefficientRefusal t.2 = none) ∧
      RefutedFirst library f.conditions

/-- The program of a form that nothing is wrong with. -/
def transcript (f : DenseForm α) : BoundedProgram α where
  maximize := f.maximize
  bounds := (List.zip f.lower f.upper).map fun b => (nativeBound b.1, nativeBound b.2)
  objective := termsOf f.objective
  rows := f.conditions.zipIdx.filterMap fun e => kept e.2 e.1

variable {f : DenseForm α}

theorem exists_refuted_iff : (∃ c ∈ f.conditions, Refuted c) ↔ ∃ k, f.ViolatedAt k := by
  constructor
  · rintro ⟨⟨row, r, b⟩, hc, hconstant, hfails⟩
    obtain ⟨k, hk⟩ := List.mem_iff_getElem?.1 hc
    obtain ⟨hrow, hr, hb⟩ := DenseForm.getElem?_conditions_iff.1 hk
    exact ⟨k, row, r, b, hrow, hr, hb, DenseForm.isConstant_iff.1 hconstant, hfails⟩
  · rintro ⟨k, row, r, b, hrow, hr, hb, hconstant, hfails⟩
    exact ⟨(row, r, b), List.mem_of_getElem? (DenseForm.getElem?_conditions_iff.2 ⟨hrow, hr, hb⟩),
      DenseForm.isConstant_iff.2 hconstant, hfails⟩

theorem ContradictedFirst.contradictory (h : ContradictedFirst library f) : f.Contradictory := by
  rcases h with hcrossed | ⟨-, -, hfirst⟩
  · exact .inl hcrossed
  · obtain ⟨k, c, hc, hrefuted, -⟩ := refutedFirst_iff.1 hfirst
    exact .inr (exists_refuted_iff.1 ⟨c, List.mem_of_getElem? hc, hrefuted⟩)

section Lowering

variable [SignedScalar α]

/-- A form is contradicted before the library refuses anything, or taken over, or refused. -/
theorem ofDense_cases (library : Library α) (hs : f.Shaped) :
    (ContradictedFirst library f ∧ ∃ why, ofDense library f = .error (.contradiction why)) ∨
    (Taken library f ∧ ¬ f.Contradictory ∧ ofDense library f = .ok (transcript f)) ∨
    (¬ ContradictedFirst library f ∧ ¬ Taken library f ∧
      ∃ text, ofDense library f = .error (.refusal text)) := by
  by_cases hcrossed : ∃ i lower upper, f.CrossedAt i lower upper
  · obtain ⟨i, lower, upper, h⟩ := hcrossed
    exact .inl ⟨.inl ⟨i, lower, upper, h⟩, _, ofDense_of_crossedAt hs h library⟩
  rw [ofDense, crossed_eq_nil hs hcrossed]
  by_cases hbounds : ∀ b ∈ List.zip f.lower f.upper,
      library.boundsRefusal (nativeBound b.1) (nativeBound b.2) = none
  · rw [nativeBounds_eq_ok hbounds]
    by_cases hobjective : ∀ t ∈ termsOf f.objective, library.coefficientRefusal t.2 = none
    · rw [terms_eq_ok hobjective]
      rcases nativeRows_cases library 0 f.conditions with
        ⟨hfirst, why, hrows⟩ | ⟨hall, hrows⟩ | ⟨hfirst, ⟨c, hc, hnot⟩, text, hrows⟩
      · exact .inl ⟨.inr ⟨hbounds, hobjective, hfirst⟩, why, by rw [hrows]; rfl⟩
      · have htaken := fun c hc => (hall c hc).1
        refine .inr (.inl ⟨⟨hobjective, hbounds, htaken⟩, ?_, by rw [hrows]; rfl⟩)
        rintro (h | hviolated)
        · exact hcrossed h
        · obtain ⟨c, hc, hrefuted⟩ := exists_refuted_iff.2 hviolated
          exact (hall c hc).2 hrefuted
      · refine .inr (.inr ⟨?_, fun h => hnot (h.conditions c hc), text, by rw [hrows]; rfl⟩)
        rintro (h | ⟨-, -, h⟩)
        · exact hcrossed h
        · exact hfirst h
    · obtain ⟨text, htext⟩ := exists_terms_eq_error hobjective
      refine .inr (.inr ⟨?_, fun h => hobjective h.objective, text, by rw [htext]⟩)
      rintro (h | ⟨-, h, -⟩)
      · exact hcrossed h
      · exact hobjective h
  · obtain ⟨text, htext⟩ := exists_nativeBounds_eq_error hbounds
    refine .inr (.inr ⟨?_, fun h => hbounds h.bounds, text, by rw [htext]⟩)
    rintro (h | ⟨h, -⟩)
    · exact hcrossed h
    · exact hbounds h

theorem ofDense_of_contradictory (hs : f.Shaped) (hf : Taken library f) (h : f.Contradictory) :
    ∃ why, ofDense library f = .error (.contradiction why) := by
  rcases ofDense_cases library hs with ⟨-, hwhy⟩ | ⟨-, hsound, -⟩ | ⟨-, hnot, -⟩
  · exact hwhy
  · exact absurd h hsound
  · exact absurd hf hnot

theorem ofDense_of_not_contradictory (hs : f.Shaped) (hf : Taken library f)
    (h : ¬ f.Contradictory) : ofDense library f = .ok (transcript f) := by
  rcases ofDense_cases library hs with ⟨hfirst, -⟩ | ⟨-, -, hprogram⟩ | ⟨-, hnot, -⟩
  · exact absurd hfirst.contradictory h
  · exact hprogram
  · exact absurd hf hnot

end Lowering

/-! ## Transcripts -/

/-- The terms are the cells that differ from zero, each once and with its position, in order. -/
structure Lists (terms : List (Nat × α)) (cells : List α) : Prop where
  ordered : (terms.map Prod.fst).Pairwise (· < ·)
  mem_iff : ∀ j x, (j, x) ∈ terms ↔ cells[j]? = some x ∧ Scalar.isNonzero x = true

/-- The constraint is what the form says at its position, and has a term. -/
structure States (f : DenseForm α) (r : NativeRow α) : Prop where
  name : r.name = "c" ++ toString r.index
  relation : f.relations[r.index]? = some r.relation
  rhs : ∃ b, f.rhs[r.index]? = some b ∧ Scalar.eq r.rhs b = true
  terms : ∃ row, f.rows[r.index]? = some row ∧ Lists r.terms row
  nonempty : r.terms ≠ []

/-- The program is the form part by part, under names of its own. Infinite bounds are none, cells
of zero are left out, and so are the rows with no other cells. -/
structure Transcribes (p : BoundedProgram α) (f : DenseForm α) : Prop where
  sense : p.maximize = f.maximize
  size : p.vars.length = f.variableNames.length
  vars : ∀ (i : Nat) lower upper, f.lower[i]? = some lower → f.upper[i]? = some upper →
    p.vars[i]? = some ("x" ++ toString i, if Scalar.isFinite lower then some lower else none,
      if Scalar.isFinite upper then some upper else none)
  varNames : (p.vars.map Prod.fst).Nodup
  objective : Lists p.objective f.objective
  ordered : (p.rows.map NativeRow.index).Pairwise (· < ·)
  complete : ∀ k, k ∈ p.rows.map NativeRow.index ↔
    ∃ row, f.rows[k]? = some row ∧ ∃ x ∈ row, Scalar.isNonzero x = true
  rows : ∀ r ∈ p.rows, States f r
  rowNames : (p.rows.map NativeRow.name).Nodup

omit [Scalar α] in
/-- What is kept of the entries of a list, each at the position of its entry, is in order. -/
theorem pairwise_filterMap_zipIdx {β γ : Type} {xs : List β} {keep : β × Nat → Option γ}
    {position : γ → Nat} (hposition : ∀ e c, keep e = some c → position c = e.2) :
    ((xs.zipIdx.filterMap keep).map position).Pairwise (· < ·) := by
  have hordered : xs.zipIdx.Pairwise fun d e => d.2 < e.2 := by
    rw [← List.pairwise_map, List.zipIdx_map_snd]
    exact List.pairwise_lt_range' ..
  rw [List.pairwise_map, List.pairwise_filterMap]
  refine hordered.imp fun hlt c hc d hd => ?_
  rw [hposition _ _ hc, hposition _ _ hd]
  exact hlt

theorem lists_termsOf (cells : List α) : Lists (termsOf cells) cells := by
  refine ⟨pairwise_filterMap_zipIdx fun e t ht => ?_, fun j x => mem_termsOf_iff⟩
  dsimp only at ht
  split at ht
  · cases ht
    rfl
  · cases ht

theorem nativeBound_of_isNaN_eq_false {x : α} (h : Scalar.isNaN x = false) :
    nativeBound x = if Scalar.isFinite x then some x else none := by
  cases hx : Scalar.isFinite x <;> simp [nativeBound, Scalar.isInfinite, h, hx]

theorem variableName_injective : Function.Injective variableName :=
  fun _ _ h => Nat.repr_inj.1 (String.append_right_inj _ |>.1 h)

theorem mem_rows_transcript_iff {r : NativeRow α} :
    r ∈ (transcript f).rows ↔ ∃ row b, f.rows[r.index]? = some row ∧
      f.relations[r.index]? = some r.relation ∧ f.rhs[r.index]? = some b ∧
      DenseForm.isConstant row = false ∧ r.rhs = b + 0 ∧ r.terms = termsOf row := by
  simp only [transcript, List.mem_filterMap, Prod.exists, List.mem_zipIdx_iff_getElem?,
    kept_eq_some_iff, DenseForm.getElem?_conditions_iff]
  constructor
  · rintro ⟨row, relation, b, k, ⟨hrow, hrelation, hb⟩, hconstant, rfl⟩
    exact ⟨row, b, hrow, hrelation, hb, hconstant, rfl, rfl⟩
  · rintro ⟨row, b, hrow, hrelation, hb, hconstant, hrhs, hterms⟩
    obtain ⟨k, relation, rhs, terms⟩ := r
    obtain rfl : rhs = b + 0 := hrhs
    obtain rfl : terms = termsOf row := hterms
    exact ⟨row, relation, b, k, ⟨hrow, hrelation, hb⟩, hconstant, rfl⟩

/-- A row that is not constant has a term. -/
theorem termsOf_ne_nil {row : List α} (h : DenseForm.isConstant row = false) :
    termsOf row ≠ [] := by
  intro hnil
  obtain ⟨x, hx, hnonzero⟩ := DenseForm.isConstant_eq_false_iff.1 h
  obtain ⟨j, hj⟩ := List.mem_iff_getElem?.1 hx
  have ht : (j, x) ∈ termsOf row := mem_termsOf_iff.2 ⟨hj, hnonzero⟩
  rw [hnil] at ht
  cases ht

theorem taken_of_expressible (hl : library.Accepting) (hf : f.Expressible) :
    Taken library f where
  objective := taken_of_isFinite hl hf.objective
  bounds := taken_of_isNaN hl fun _ hb =>
    ⟨hf.lower _ (List.of_mem_zip hb).1, hf.upper _ (List.of_mem_zip hb).2⟩
  conditions := DenseForm.forall_mem_conditions_iff.2 fun _ row _ b hrow _ hb =>
    .inr ⟨taken_of_isFinite hl (hf.rows row (List.mem_of_getElem? hrow)),
      hl.rhs b (hf.rhs b (List.mem_of_getElem? hb))⟩

theorem ordered_transcript : ((transcript f).rows.map NativeRow.index).Pairwise (· < ·) := by
  refine pairwise_filterMap_zipIdx fun e r hr => ?_
  rw [(kept_eq_some_iff.1 hr).2]

theorem getElem?_vars_transcript (hf : f.Expressible) {i : Nat} {lower upper : α}
    (hl : f.lower[i]? = some lower) (hu : f.upper[i]? = some upper) :
    (transcript f).vars[i]? = some (variableName i,
      if Scalar.isFinite lower then some lower else none,
      if Scalar.isFinite upper then some upper else none) := by
  have hzip : (List.zip f.lower f.upper)[i]? = some (lower, upper) :=
    List.getElem?_zip_eq_some.2 ⟨hl, hu⟩
  rw [vars, List.getElem?_map, List.getElem?_zipIdx, transcript, List.getElem?_map, hzip,
    ← nativeBound_of_isNaN_eq_false (hf.lower _ (List.mem_of_getElem? hl)),
    ← nativeBound_of_isNaN_eq_false (hf.upper _ (List.mem_of_getElem? hu))]
  simp

omit [Scalar α] in
theorem nodup_varNames (p : BoundedProgram α) : (p.vars.map Prod.fst).Nodup := by
  have hnames : p.vars.map Prod.fst = (List.range' 0 p.bounds.length).map variableName := by
    rw [← List.zipIdx_map_snd, vars, List.map_map, List.map_map]
    rfl
  rw [hnames]
  exact List.Nodup.map variableName_injective List.nodup_range'

theorem states_transcript [SignedScalar α] (hf : f.Expressible) {r : NativeRow α}
    (hr : r ∈ (transcript f).rows) : States f r := by
  obtain ⟨row, b, hrow, hrelation, hb, hconstant, hrhs, hterms⟩ := mem_rows_transcript_iff.1 hr
  refine ⟨rfl, hrelation, ⟨b, hb, ?_⟩, ⟨row, hrow, ?_⟩, ?_⟩
  · rw [hrhs]
    exact SignedScalar.add_zero_eq (hf.rhs b (List.mem_of_getElem? hb))
  · rw [hterms]
    exact lists_termsOf row
  · rw [hterms]
    exact termsOf_ne_nil hconstant

omit [Scalar α] in
theorem nodup_rowNames {rows : List (NativeRow α)}
    (h : (rows.map NativeRow.index).Pairwise (· < ·)) : (rows.map NativeRow.name).Nodup := by
  rw [List.nodup_iff_pairwise_ne, List.pairwise_map]
  refine (List.pairwise_map.1 h).imp fun hlt heq => ?_
  exact Nat.ne_of_lt hlt (Nat.repr_inj.1 ((String.append_right_inj "c").1 heq))

theorem mem_index_transcript_iff (hs : f.Shaped) {k : Nat} :
    k ∈ (transcript f).rows.map NativeRow.index ↔
      ∃ row, f.rows[k]? = some row ∧ ∃ x ∈ row, Scalar.isNonzero x = true := by
  simp only [List.mem_map, mem_rows_transcript_iff, DenseForm.isConstant_eq_false_iff]
  constructor
  · rintro ⟨r, ⟨row, b, hrow, -, -, hnonzero, -⟩, rfl⟩
    exact ⟨row, hrow, hnonzero⟩
  · rintro ⟨row, hrow, hnonzero⟩
    obtain ⟨r, b, hr, hb⟩ := hs.exists_relation_rhs hrow
    exact ⟨⟨k, r, _, _⟩, ⟨row, b, hrow, hr, hb, hnonzero, rfl, rfl⟩, rfl⟩

theorem transcribes_transcript [SignedScalar α] (hs : f.Shaped) (hf : f.Expressible) :
    (transcript f).Transcribes f where
  sense := rfl
  size := by simp [vars, transcript, hs.lower, hs.upper]
  vars i lower upper hl hu := getElem?_vars_transcript hf hl hu
  varNames := nodup_varNames _
  objective := lists_termsOf f.objective
  ordered := ordered_transcript
  complete k := mem_index_transcript_iff hs
  rows r hr := states_transcript hf hr
  rowNames := nodup_rowNames ordered_transcript

/-- Where the library takes finite numbers, a form of them is refused when it is infeasible as
stated, and has its transcript for a program otherwise. -/
theorem transcribes_ofDense [SignedScalar α] (hl : library.Accepting) (f : DenseForm α)
    (hs : f.shapeFault? = none) (hf : f.Expressible) :
    ((∃ why, ofDense library f = .error (.contradiction why)) ↔ f.Contradictory) ∧
      (¬ f.Contradictory → ∃ p, ofDense library f = .ok p ∧ p.Transcribes f) := by
  have hshaped := DenseForm.shaped_iff.2 hs
  have htaken := taken_of_expressible hl hf
  refine ⟨⟨?_, ofDense_of_contradictory hshaped htaken⟩, fun h => ?_⟩
  · rintro ⟨why, hwhy⟩
    by_contra h
    rw [ofDense_of_not_contradictory hshaped htaken h] at hwhy
    cases hwhy
  · exact ⟨_, ofDense_of_not_contradictory hshaped htaken h, transcribes_transcript hshaped hf⟩

/-- Signed zeros in every part, and constant rows before others. -/
def signedSample : DenseForm Float where
  variableNames := ["x", "y", "z"]
  objective := [1, 0, -0]
  lower := [-Scalar.infinity, 0, -1]
  upper := [1, Scalar.infinity, -0]
  rows := [[0, -0, 0], [1, 0, -1], [-0, 0, -0], [-0, 1, 0]]
  relations := [.equal, .atLeast, .atMost, .equal]
  rhs := [-0, 1, 1, -0]
  maximize := false
  constraintNames := ["none", "gap", "slack", "fixed"]

theorem transcribes_ofDense_signed :
    signedSample.shapeFault? = none ∧ signedSample.Expressible ∧ ¬ signedSample.Contradictory ∧
      ∃ p, ofDense Engine.library signedSample = .ok p ∧ p.Transcribes signedSample ∧
        p.rows.map NativeRow.name = ["c1", "c3"] := by
  have hs : signedSample.shapeFault? = none := by decide
  have hf : signedSample.Expressible := by decide
  have hp : ofDense Engine.library signedSample = .ok (transcript signedSample) := by rfl
  obtain ⟨hrefused, hprogram⟩ := transcribes_ofDense Engine.accepting_library signedSample hs hf
  have hsound : ¬ signedSample.Contradictory := by
    intro h
    obtain ⟨why, hwhy⟩ := hrefused.2 h
    rw [hp] at hwhy
    cases hwhy
  obtain ⟨p, hok, htranscribes⟩ := hprogram hsound
  obtain rfl : transcript signedSample = p := Except.ok.inj (hp.symm.trans hok)
  exact ⟨hs, hf, hsound, _, hp, htranscribes, rfl⟩

end BoundedProgram

end LinearDispatch
