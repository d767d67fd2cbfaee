-- SUMMARY: The variables that an engine for native bounds sees are those that the form mentions with a coefficient other than zero.
import LinearDispatch.Proofs.Program.Bounded

/-!
# Used variables

A program with native bounds keeps the coefficients that differ from zero and
leaves the constant rows out. A row that is left out has no such coefficient, so
every variable that the form gives one to is still used, and no other variable
is. This holds over all scalars: a coefficient that is no number counts as one
that differs from zero, and keeps the form from having a program at all.
-/
namespace LinearDispatch

variable {α : Type} [Scalar α]

/-- Some coefficient of the variable differs from zero, in the objective or in a row. -/
def DenseForm.Mentions (f : DenseForm α) (j : Nat) : Prop :=
  ∃ x, Scalar.isNonzero x = true ∧
    (f.objective[j]? = some x ∨ ∃ row ∈ f.rows, row[j]? = some x)

omit [Scalar α] in
/-- Every row is that of a condition. -/
theorem DenseForm.Shaped.exists_mem_conditions_iff {f : DenseForm α} (hs : f.Shaped)
    (P : List α → Prop) : (∃ c ∈ f.conditions, P c.1) ↔ ∃ row ∈ f.rows, P row := by
  have hlength : f.rows.length ≤ (List.zip f.relations f.rhs).length := by
    simp [hs.rows, hs.rhs]
  have hrows : f.conditions.map Prod.fst = f.rows := List.map_fst_zip hlength
  rw [← hrows]
  simp only [List.mem_map, exists_exists_and_eq_and]

namespace BoundedProgram

variable {library : Library α}

/-! ## Positions -/

theorem exists_mem_termsOf_iff {row : List α} {j : Nat} :
    (∃ t ∈ termsOf row, t.1 = j) ↔ ∃ x, Scalar.isNonzero x = true ∧ row[j]? = some x := by
  constructor
  · rintro ⟨⟨j, x⟩, ht, rfl⟩
    obtain ⟨hj, hx⟩ := mem_termsOf_iff.1 ht
    exact ⟨x, hx, hj⟩
  · rintro ⟨x, hx, hj⟩
    exact ⟨(j, x), mem_termsOf_iff.2 ⟨hj, hx⟩, rfl⟩

/-- A constant row has no term. -/
theorem termsOf_of_isConstant {row : List α} (h : DenseForm.isConstant row = true) :
    termsOf row = [] := by
  rw [List.eq_nil_iff_forall_not_mem]
  rintro ⟨j, x⟩ ht
  obtain ⟨hj, hx⟩ := mem_termsOf_iff.1 ht
  have hzero : ∀ y ∈ row, Scalar.isNonzero y = false := by
    simpa [DenseForm.isConstant] using h
  rw [hzero x (List.mem_of_getElem? hj)] at hx
  cases hx

/-- A constraint has the terms of its row, and a row without a constraint has no term. -/
theorem exists_mem_nativeRow_iff {k : Nat} {row : List α} {relation : Relation} {rhs : α}
    {o : Option (NativeRow α)} (h : nativeRow library k row relation rhs = .ok o)
    {P : List (Nat × α) → Prop} (hnil : ¬ P []) :
    (∃ r ∈ o.toList, P r.terms) ↔ P (termsOf row) := by
  rcases eq_of_nativeRow h with ⟨hconstant, -, rfl⟩ | ⟨-, rfl⟩
  · simp [termsOf_of_isConstant hconstant, hnil]
  · simp

theorem exists_mem_nativeRows_iff {k : Nat} {cs : List (List α × Relation × α)}
    {rows : List (NativeRow α)} (h : nativeRows library k cs = .ok rows)
    {P : List (Nat × α) → Prop} (hnil : ¬ P []) :
    (∃ r ∈ rows, P r.terms) ↔ ∃ c ∈ cs, P (termsOf c.1) := by
  induction cs generalizing k rows with
  | nil =>
    cases h
    simp
  | cons c cs ih =>
    obtain ⟨row, relation, rhs⟩ := c
    rw [nativeRows] at h
    split at h
    · cases h
    · next o ho =>
      obtain ⟨rest, hrest, rfl⟩ := map_eq_ok_iff.1 h
      have hhead := exists_mem_nativeRow_iff ho hnil
      have hrest := ih hrest
      simp only [List.mem_append, or_and_right, exists_or, hhead, hrest, List.mem_cons,
        exists_eq_left]

/-! ## Programs -/

variable {f : DenseForm α} {p : BoundedProgram α}

theorem uses_iff_mentions (hs : f.Shaped) (h : ofDense library f = .ok p) (j : Nat) :
    p.uses j = true ↔ f.Mentions j := by
  obtain ⟨-, -, hobjective, hrows, -⟩ := parts_of_ofDense h
  have hobj : (∃ t ∈ p.objective, t.1 = j) ↔
      ∃ x, Scalar.isNonzero x = true ∧ f.objective[j]? = some x := by
    rw [(terms_eq_ok_iff.1 hobjective).1]
    exact exists_mem_termsOf_iff
  have hcon : (∃ r ∈ p.rows, ∃ t ∈ r.terms, t.1 = j) ↔
      ∃ row ∈ f.rows, ∃ x, Scalar.isNonzero x = true ∧ row[j]? = some x := by
    rw [exists_mem_nativeRows_iff hrows (P := fun ts => ∃ t ∈ ts, t.1 = j) (by simp)]
    simp only [exists_mem_termsOf_iff]
    exact hs.exists_mem_conditions_iff fun row => ∃ x, Scalar.isNonzero x = true ∧ row[j]? = some x
  simp only [uses, Bool.or_eq_true, List.any_eq_true, beq_iff_eq, hobj, hcon]
  constructor
  · rintro (⟨x, hx, hj⟩ | ⟨row, hrow, x, hx, hj⟩)
    · exact ⟨x, hx, .inl hj⟩
    · exact ⟨x, hx, .inr ⟨row, hrow, hj⟩⟩
  · rintro ⟨x, hx, hj | ⟨row, hrow, hj⟩⟩
    · exact .inl ⟨x, hx, hj⟩
    · exact .inr ⟨row, hrow, x, hx, hj⟩

/-- A program uses nothing when its form mentions nothing. -/
theorem used_eq_nil_iff (hs : f.Shaped) (h : ofDense library f = .ok p) :
    p.used = [] ↔ ∀ j, ¬ f.Mentions j := by
  have hbounds : p.bounds.length = f.variableNames.length := by
    rw [(nativeBounds_eq_ok_iff.1 (parts_of_ofDense h).2.1).1]
    simp [hs.lower, hs.upper]
  simp only [used, List.filter_eq_nil_iff, List.mem_range, uses_iff_mentions hs h, hbounds]
  constructor
  · intro hnone j hj
    refine hnone j ?_ hj
    obtain ⟨x, -, hx | ⟨row, hrow, hx⟩⟩ := hj
    · exact hs.objective ▸ (List.getElem?_eq_some_iff.1 hx).1
    · exact hs.cells row hrow ▸ (List.getElem?_eq_some_iff.1 hx).1
  · exact fun hnone j _ => hnone j

end BoundedProgram

end LinearDispatch
