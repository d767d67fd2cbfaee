-- SUMMARY: The numbers that have no place in a program with native bounds, wherever they stand in a form: behind a strict library none of them reaches a program, and whether a fault or a contradiction is found first is said exactly.
import LinearDispatch.Proofs.Definite
import LinearDispatch.Proofs.Program.Transcription

/-!
# Faults of forms

A strict library refuses a bound that is no number, a coefficient that is not
finite, and a right-hand side that is not finite on a row with a coefficient.
Infinite bounds are dropped, and the right-hand side of a constant row is
compared and not taken over. So all numbers of a program are finite, whatever
the form holds.

A form may be faulty and infeasible as stated at once. What is found first
decides: crossed bounds are looked for before anything else, then come the
bounds, the objective and the rows, and among the rows the first that is either
a constant one that fails or one with a fault.
-/
namespace LinearDispatch

variable {α : Type} [Scalar α]

/-! ## Finite programs -/

/-- Every number of the program is finite; a bound may be absent. -/
structure BoundedProgram.Finite (p : BoundedProgram α) : Prop where
  lower : ∀ b ∈ p.bounds, ∀ x ∈ b.1, Scalar.isFinite x = true
  upper : ∀ b ∈ p.bounds, ∀ x ∈ b.2, Scalar.isFinite x = true
  objective : ∀ t ∈ p.objective, Scalar.isFinite t.2 = true
  terms : ∀ r ∈ p.rows, ∀ t ∈ r.terms, Scalar.isFinite t.2 = true
  rhs : ∀ r ∈ p.rows, Scalar.isFinite r.rhs = true

/-! ## Faulty forms -/

namespace DenseForm

/-- Some number of the form is one that a strict library refuses. -/
inductive Faulty (f : DenseForm α) : Prop where
  | lower (b : α) (mem : b ∈ f.lower) (nan : Scalar.isNaN b = true)
  | upper (b : α) (mem : b ∈ f.upper) (nan : Scalar.isNaN b = true)
  | objective (a : α) (mem : a ∈ f.objective) (infinite : Scalar.isFinite a = false)
  | cell (row : List α) (mem : row ∈ f.rows) (a : α) (cell : a ∈ row)
    (infinite : Scalar.isFinite a = false)
  | rhs (k : Nat) (row : List α) (b : α) (row_eq : f.rows[k]? = some row)
    (rhs_eq : f.rhs[k]? = some b) (nonzero : ∃ x ∈ row, Scalar.isNonzero x = true)
    (infinite : Scalar.isFinite b = false)

/-- The numbers of the row at a position are none that a strict library refuses. -/
def ReadableAt (f : DenseForm α) (k : Nat) : Prop :=
  ∀ row b, f.rows[k]? = some row → f.rhs[k]? = some b →
    (∀ a ∈ row, Scalar.isFinite a = true) ∧
      ((∃ x ∈ row, Scalar.isNonzero x = true) → Scalar.isFinite b = true)

/-- A contradiction is found before any fault: the bounds cross, or else bounds and objective are in
order and a constant row fails behind readable rows only. -/
def ContradictoryFirst (f : DenseForm α) : Prop :=
  (∃ i lower upper, f.CrossedAt i lower upper) ∨
    (∀ b ∈ f.lower, Scalar.isNaN b = false) ∧ (∀ b ∈ f.upper, Scalar.isNaN b = false) ∧
      (∀ a ∈ f.objective, Scalar.isFinite a = true) ∧
      ∃ k, f.ViolatedAt k ∧ ∀ j < k, f.ReadableAt j

end DenseForm

/-! ## The library in use -/

theorem Engine.strict_library [DefiniteScalar α] : (Engine.library : Library α).Strict := by
  have hinfinite : ∀ x : α, Scalar.isNaN x = true → Scalar.isFinite x = false := by
    intro x hnan
    by_contra hfinite
    rw [Scalar.isNaN_of_isFinite ((Bool.not_eq_false _).mp hfinite)] at hnan
    cases hnan
  refine ⟨fun x upper hx => ?_, fun lower x hx => ?_, fun x hx => ?_, fun x hx => ?_⟩
  · simp [Engine.library, hinfinite x hx]
  · cases lower <;> simp [Engine.library, hinfinite x hx]
    split <;> simp
  · simp [Engine.library, hx]
  · simp [Engine.library, hx]

namespace BoundedProgram

/-! ## Conditions -/

variable [DefiniteScalar α] {library : Library α} {f : DenseForm α} {row : List α}
  {c : List α × Relation × α} {k : Nat}

/-- No number that is not finite is filtered out as a zero. -/
theorem isFinite_of_isConstant (h : DenseForm.isConstant row = true) :
    ∀ a ∈ row, Scalar.isFinite a = true := by
  intro a ha
  by_contra hinfinite
  have hnonzero := Scalar.isNonzero_of_not_isFinite (Bool.eq_false_iff.2 hinfinite)
  rw [Scalar.isNonzero, DenseForm.isConstant_iff.1 h a ha] at hnonzero
  cases hnonzero

theorem isFinite_of_taken (hst : library.Strict)
    (h : ∀ t ∈ termsOf row, library.coefficientRefusal t.2 = none) :
    ∀ a ∈ row, Scalar.isFinite a = true := by
  intro a ha
  by_contra hinfinite
  rw [Bool.not_eq_true] at hinfinite
  obtain ⟨j, hj⟩ := List.mem_iff_getElem?.1 ha
  have hterm : (j, a) ∈ termsOf row :=
    mem_termsOf_iff.2 ⟨hj, Scalar.isNonzero_of_not_isFinite hinfinite⟩
  exact hst.coefficient a hinfinite (h _ hterm)

omit [DefiniteScalar α] in
/-- A bound that is no number is handed to the library as it is. -/
theorem isNaN_eq_false_of_taken (hst : library.Strict) {b : α × α}
    (h : library.boundsRefusal (nativeBound b.1) (nativeBound b.2) = none) :
    Scalar.isNaN b.1 = false ∧ Scalar.isNaN b.2 = false := by
  have hkept : ∀ x : α, Scalar.isNaN x = true → nativeBound x = some x := by
    intro x hx
    simp [nativeBound, Scalar.isInfinite, hx]
  constructor
  · by_contra hnan
    rw [Bool.not_eq_false] at hnan
    rw [hkept _ hnan] at h
    exact hst.lower _ _ hnan h
  · by_contra hnan
    rw [Bool.not_eq_false] at hnan
    rw [hkept _ hnan] at h
    exact hst.upper _ _ hnan h

omit [DefiniteScalar α] in
theorem readable_of_isFinite (hl : library.Accepting) (hrow : ∀ a ∈ c.1, Scalar.isFinite a = true)
    (hrhs : (∃ x ∈ c.1, Scalar.isNonzero x = true) → Scalar.isFinite c.2.2 = true) :
    Readable library c := by
  cases hconstant : DenseForm.isConstant c.1 with
  | true => exact .inl hconstant
  | false =>
    have hnonzero := DenseForm.isConstant_eq_false_iff.1 hconstant
    exact .inr ⟨taken_of_isFinite hl hrow, hl.rhs _ (hrhs hnonzero)⟩

theorem isFinite_of_readable (hst : library.Strict) (h : Readable library c) :
    (∀ a ∈ c.1, Scalar.isFinite a = true) ∧
      ((∃ x ∈ c.1, Scalar.isNonzero x = true) → Scalar.isFinite c.2.2 = true) := by
  rcases h with hconstant | ⟨hrow, hrhs⟩
  · refine ⟨isFinite_of_isConstant hconstant, fun hnonzero => ?_⟩
    rw [DenseForm.isConstant_eq_false_iff.2 hnonzero] at hconstant
    cases hconstant
  · refine ⟨isFinite_of_taken hst hrow, fun _ => ?_⟩
    by_contra hinfinite
    exact hst.rhs _ (Bool.eq_false_iff.2 hinfinite) hrhs

theorem refutedFirst_conditions_iff (hl : library.Accepting) (hst : library.Strict) :
    RefutedFirst library f.conditions ↔ ∃ k, f.ViolatedAt k ∧ ∀ j < k, f.ReadableAt j := by
  rw [refutedFirst_iff]
  constructor
  · rintro ⟨k, ⟨row, r, b⟩, hk, ⟨hconstant, hfails⟩, hbefore⟩
    obtain ⟨hrow, hr, hb⟩ := DenseForm.getElem?_conditions_iff.1 hk
    refine ⟨k, ⟨row, r, b, hrow, hr, hb, DenseForm.isConstant_iff.1 hconstant, hfails⟩, ?_⟩
    intro j hj row' b' hrow' hb'
    have hlt : j < f.relations.length := hj.trans (List.getElem?_eq_some_iff.1 hr).1
    have hr' : f.relations[j]? = some f.relations[j] := List.getElem?_eq_getElem hlt
    exact isFinite_of_readable hst
      (hbefore j hj _ (DenseForm.getElem?_conditions_iff.2 ⟨hrow', hr', hb'⟩))
  · rintro ⟨k, ⟨row, r, b, hrow, hr, hb, hconstant, hfails⟩, hbefore⟩
    refine ⟨k, (row, r, b), DenseForm.getElem?_conditions_iff.2 ⟨hrow, hr, hb⟩,
      ⟨DenseForm.isConstant_iff.2 hconstant, hfails⟩, ?_⟩
    rintro j hj ⟨row', r', b'⟩ hd
    obtain ⟨hrow', -, hb'⟩ := DenseForm.getElem?_conditions_iff.1 hd
    obtain ⟨hfinite, hrhs⟩ := hbefore j hj row' b' hrow' hb'
    exact readable_of_isFinite hl hfinite hrhs

/-! ## Forms -/

omit [DefiniteScalar α] in
/-- The bounds are numbers pair by pair if they are list by list. -/
theorem bounds_iff (hs : f.Shaped) :
    (∀ b ∈ List.zip f.lower f.upper, Scalar.isNaN b.1 = false ∧ Scalar.isNaN b.2 = false) ↔
      (∀ b ∈ f.lower, Scalar.isNaN b = false) ∧ ∀ b ∈ f.upper, Scalar.isNaN b = false := by
  have hlength : f.lower.length = f.upper.length := hs.lower.trans hs.upper.symm
  have hlower : (List.zip f.lower f.upper).map Prod.fst = f.lower :=
    List.map_fst_zip hlength.le
  have hupper : (List.zip f.lower f.upper).map Prod.snd = f.upper :=
    List.map_snd_zip hlength.ge
  constructor
  · intro h
    refine ⟨fun b hb => ?_, fun b hb => ?_⟩
    · rw [← hlower] at hb
      obtain ⟨e, he, rfl⟩ := List.mem_map.1 hb
      exact (h e he).1
    · rw [← hupper] at hb
      obtain ⟨e, he, rfl⟩ := List.mem_map.1 hb
      exact (h e he).2
  · rintro ⟨hl, hu⟩ b hb
    obtain ⟨hbl, hbu⟩ := List.of_mem_zip hb
    exact ⟨hl b.1 hbl, hu b.2 hbu⟩

/-- A contradiction is found before any refusal when it is before any fault. -/
theorem contradictedFirst_iff (hl : library.Accepting) (hst : library.Strict) (hs : f.Shaped) :
    ContradictedFirst library f ↔ f.ContradictoryFirst := by
  have hbounds : (∀ b ∈ List.zip f.lower f.upper,
      library.boundsRefusal (nativeBound b.1) (nativeBound b.2) = none) ↔
      (∀ b ∈ f.lower, Scalar.isNaN b = false) ∧ ∀ b ∈ f.upper, Scalar.isNaN b = false := by
    rw [← bounds_iff hs]
    exact ⟨fun h b hb => isNaN_eq_false_of_taken hst (h b hb), taken_of_isNaN hl⟩
  have hobjective : (∀ t ∈ termsOf f.objective, library.coefficientRefusal t.2 = none) ↔
      ∀ a ∈ f.objective, Scalar.isFinite a = true :=
    ⟨isFinite_of_taken hst, taken_of_isFinite hl⟩
  rw [ContradictedFirst, hbounds, hobjective, refutedFirst_conditions_iff hl hst, and_assoc]
  rfl

theorem not_faulty_of_taken (hst : library.Strict) (hs : f.Shaped) (h : Taken library f) :
    ¬ f.Faulty := by
  obtain ⟨hlower, hupper⟩ := (bounds_iff hs).1 fun b hb =>
    isNaN_eq_false_of_taken hst (h.bounds b hb)
  have hconditions : ∀ (k : Nat) row, f.rows[k]? = some row → ∃ b, f.rhs[k]? = some b ∧
      (∀ a ∈ row, Scalar.isFinite a = true) ∧
      ((∃ x ∈ row, Scalar.isNonzero x = true) → Scalar.isFinite b = true) := by
    intro k row hrow
    obtain ⟨r, b, hr, hb⟩ := hs.exists_relation_rhs hrow
    exact ⟨b, hb, isFinite_of_readable hst
      (DenseForm.forall_mem_conditions_iff.1 h.conditions k row r b hrow hr hb)⟩
  intro hfaulty
  cases hfaulty with
  | lower b hb hnan =>
    rw [hlower b hb] at hnan
    cases hnan
  | upper b hb hnan =>
    rw [hupper b hb] at hnan
    cases hnan
  | objective a ha hinfinite =>
    rw [isFinite_of_taken hst h.objective a ha] at hinfinite
    cases hinfinite
  | cell row hrow a ha hinfinite =>
    obtain ⟨k, hk⟩ := List.mem_iff_getElem?.1 hrow
    obtain ⟨b, -, hfinite, -⟩ := hconditions k row hk
    rw [hfinite a ha] at hinfinite
    cases hinfinite
  | rhs k row b hrow hb hnonzero hinfinite =>
    obtain ⟨b', hb', -, hrhs⟩ := hconditions k row hrow
    obtain rfl : b' = b := Option.some.inj (hb'.symm.trans hb)
    rw [hrhs hnonzero] at hinfinite
    cases hinfinite

/-! ## Programs -/

theorem finite_transcript (hst : library.Strict) (hf : Taken library f) :
    (transcript f).Finite where
  lower := by
    intro b hb x hx
    obtain ⟨e, he, rfl⟩ := List.mem_map.1 hb
    exact isFinite_of_mem_nativeBound (isNaN_eq_false_of_taken hst (hf.bounds e he)).1 hx
  upper := by
    intro b hb x hx
    obtain ⟨e, he, rfl⟩ := List.mem_map.1 hb
    exact isFinite_of_mem_nativeBound (isNaN_eq_false_of_taken hst (hf.bounds e he)).2 hx
  objective t ht :=
    isFinite_of_taken hst hf.objective t.2 (List.mem_of_getElem? (mem_termsOf_iff.1 ht).1)
  terms := by
    intro r hr t ht
    obtain ⟨row, b, hrow, hrelation, hb, -, -, hterms⟩ := mem_rows_transcript_iff.1 hr
    rw [hterms] at ht
    have hread := DenseForm.forall_mem_conditions_iff.1 hf.conditions _ _ _ _ hrow hrelation hb
    exact (isFinite_of_readable hst hread).1 t.2 (List.mem_of_getElem? (mem_termsOf_iff.1 ht).1)
  rhs := by
    intro r hr
    obtain ⟨row, b, hrow, hrelation, hb, hconstant, hrhs, -⟩ := mem_rows_transcript_iff.1 hr
    have hread := DenseForm.forall_mem_conditions_iff.1 hf.conditions _ _ _ _ hrow hrelation hb
    rw [hrhs]
    exact Scalar.isFinite_add_zero
      ((isFinite_of_readable hst hread).2 (DenseForm.isConstant_eq_false_iff.1 hconstant))

/-- Whatever the numbers of a form are, those of its program are finite. -/
theorem finite_of_ofDense (hst : library.Strict) (hs : f.Shaped) {p : BoundedProgram α}
    (h : ofDense library f = .ok p) : p.Finite := by
  rcases ofDense_cases library hs with ⟨-, why, hwhy⟩ | ⟨htaken, -, hprogram⟩ | ⟨-, -, text, htext⟩
  · cases hwhy.symm.trans h
  · cases hprogram.symm.trans h
    exact finite_transcript hst htaken
  · cases htext.symm.trans h

end BoundedProgram

end LinearDispatch
