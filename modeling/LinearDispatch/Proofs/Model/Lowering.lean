-- SUMMARY: What lowering keeps: the parts of a dense form by position, and the value of an expression over names as that of its row of cells.
import LinearDispatch.Model.Command
import LinearDispatch.Proofs.Except
import LinearDispatch.Proofs.Program.Meaning

/-!
# The meaning of lowering

A model speaks of its variables by name, its dense form by position. A row of
cells has a coefficient at the position of each name of its expression and
zeros elsewhere; as different names have different positions, no coefficient is
written over another, and the row has the expression's value wherever names
and positions are given the same values.

The parts that are put together always fit, so the check of the dimensions
passes and a form is the model's own parts with the rows of its expressions.
-/
namespace LinearDispatch.Model

open Exact (vector linear)

/-! ## Positions -/

section Positions

variable {α : Type} {m : Model α}

theorem variableIndex?_eq_some {name : String} {j : Nat} (h : m.variableIndex? name = some j) :
    ∃ v, m.vars[j]? = some v ∧ v.name = name := by
  obtain ⟨hj, hname, -⟩ := List.findIdx?_eq_some_iff_getElem.1 h
  exact ⟨m.vars[j], List.getElem?_eq_getElem hj, by simpa using hname⟩

/-- Different names have different positions. -/
theorem variableIndex?_injective {name name' : String} {j : Nat}
    (h : m.variableIndex? name = some j) (h' : m.variableIndex? name' = some j) :
    name = name' := by
  obtain ⟨v, hv, rfl⟩ := variableIndex?_eq_some h
  obtain ⟨v', hv', rfl⟩ := variableIndex?_eq_some h'
  rw [hv] at hv'
  cases hv'
  rfl

end Positions

/-! ## Rows -/

theorem length_scatter {β : Type} {position : String → Option Nat} {entries : List (String × β)}
    {cells row : List β} (h : scatter position entries cells = .ok row) :
    row.length = cells.length := by
  induction entries generalizing cells with
  | nil =>
    cases h
    rfl
  | cons e entries ih =>
    obtain ⟨name, x⟩ := e
    rw [scatter] at h
    split at h
    · cases h
    · next j hj => rw [ih h, List.length_set]

theorem length_row {α : Type} [Scalar α] {m : Model α} {coefficients : Table α} {cells : List α}
    (h : m.row coefficients = .ok cells) : cells.length = m.vars.length :=
  (length_scatter h).trans List.length_replicate

/-- Writing finite entries into finite cells leaves finite cells. -/
theorem exists_vector_of_scatter {position : String → Option Nat}
    {entries : List (String × Exact)} {cells : List Rat} {row : List Exact}
    (hfinite : ∀ e ∈ entries, Scalar.isFinite e.2 = true)
    (h : scatter position entries (vector cells) = .ok row) :
    ∃ a, row = vector a ∧ a.length = cells.length := by
  induction entries generalizing cells with
  | nil =>
    cases h
    exact ⟨cells, rfl, rfl⟩
  | cons e entries ih =>
    obtain ⟨name, c⟩ := e
    obtain ⟨q, rfl⟩ := Exact.isFinite_iff.1 (hfinite _ List.mem_cons_self)
    rw [scatter] at h
    split at h
    · cases h
    · next j hj =>
      rw [Exact.set_vector] at h
      obtain ⟨a, ha, hlen⟩ := ih (fun e he => hfinite e (List.mem_cons_of_mem _ he)) h
      exact ⟨a, ha, by simpa using hlen⟩

/-- Writing the entries of different names into cells that hold zero adds their terms. -/
theorem linear_scatter {position : String → Option Nat} {entries : List (String × Exact)}
    {cells a x : List Rat} {value : String → Exact}
    (hfinite : ∀ e ∈ entries, Scalar.isFinite e.2 = true)
    (hkeys : (entries.map Prod.fst).Nodup)
    (hinjective : ∀ name name' j, position name = some j → position name' = some j → name = name')
    (hzero : ∀ e ∈ entries, ∀ j, position e.1 = some j → cells[j]? = some 0)
    (hvalue : ∀ e ∈ entries, ∀ j, position e.1 = some j → value e.1 = .finite (x.getD j 0))
    (h : scatter position entries (vector cells) = .ok (vector a)) :
    Exact.finite (linear a x) =
      .finite (linear cells x) + (entries.map fun e => e.2 * value e.1).sum := by
  induction entries generalizing cells with
  | nil =>
    obtain rfl := Exact.vector_injective (Except.ok.inj h)
    simp
  | cons e entries ih =>
    obtain ⟨name, c⟩ := e
    simp only [List.forall_mem_cons] at hfinite hzero hvalue
    obtain ⟨q, rfl⟩ := Exact.isFinite_iff.1 hfinite.1
    rw [List.map_cons, List.nodup_cons] at hkeys
    rw [scatter] at h
    split at h
    · cases h
    · next j hj =>
      rw [Exact.set_vector] at h
      have hrest : ∀ e ∈ entries, ∀ i, position e.1 = some i → (cells.set j q)[i]? = some 0 := by
        intro e he i hi
        have hne : j ≠ i := by
          rintro rfl
          obtain rfl := hinjective _ _ _ hj hi
          exact hkeys.1 (List.mem_map.2 ⟨e, he, rfl⟩)
        rw [List.getElem?_set_ne hne]
        exact hzero.2 e he i hi
      rw [ih hfinite.2 hkeys.2 hrest hvalue.2 h, Exact.linear_set (hzero.1 j hj), List.map_cons,
        List.sum_cons, hvalue.1 j hj, Exact.finite_mul, ← Exact.finite_add]
      exact @Std.Associative.assoc Exact (· + ·) _ _ _ _

/-- The row of a finite expression is a vector with a cell per variable. -/
theorem exists_vector_of_row {m : Model Exact} {coefficients : Table Exact} {row : List Exact}
    (hfinite : ∀ e ∈ coefficients.entries, Scalar.isFinite e.2 = true)
    (h : m.row coefficients = .ok row) : ∃ a, row = vector a ∧ a.length = m.vars.length := by
  rw [Model.row, Exact.replicate_zero] at h
  simpa using exists_vector_of_scatter hfinite h

/-- The names of the variables have the values of the point at their positions. -/
def Assigns (m : Model Exact) (values : Table Exact) (x : List Rat) : Prop :=
  ∀ (i : Nat) v, m.vars[i]? = some v → Solution.valueOf values v.name = .finite (x.getD i 0)

/-- An expression has the value of its row. -/
theorem evaluate_eq_dot {m : Model Exact} {coefficients values : Table Exact} {row : List Exact}
    {x : List Rat} (hfinite : ∀ e ∈ coefficients.entries, Scalar.isFinite e.2 = true)
    (h : m.row coefficients = .ok row) (hx : m.Assigns values x) :
    evaluate coefficients values = Scalar.dot row (vector x) := by
  obtain ⟨a, rfl, -⟩ := exists_vector_of_row hfinite h
  rw [Model.row, Exact.replicate_zero] at h
  have hzero : ∀ e ∈ coefficients.entries, ∀ j, m.variableIndex? e.1 = some j →
      (List.replicate m.vars.length (0 : Rat))[j]? = some 0 := by
    intro e _ j hj
    obtain ⟨v, hv, -⟩ := variableIndex?_eq_some hj
    simp [(List.getElem?_eq_some_iff.1 hv).1]
  have hvalue : ∀ e ∈ coefficients.entries, ∀ j, m.variableIndex? e.1 = some j →
      Solution.valueOf values e.1 = .finite (x.getD j 0) := by
    intro e _ j hj
    obtain ⟨v, hv, hname⟩ := variableIndex?_eq_some hj
    rw [← hname, hx j v hv]
  rw [Exact.dot_vector, linear_scatter hfinite coefficients.distinct
    (fun _ _ _ => variableIndex?_injective) hzero hvalue h,
    Exact.linear_eq_zero x (fun q hq => List.eq_of_mem_replicate hq), evaluate, Exact.sum_eq]
  exact (Std.LawfulLeftIdentity.left_id _).symm

theorem rowsOf_eq_ok_iff {α : Type} [Scalar α] {m : Model α} {cs : List (Constraint α)}
    {rows : List (List α)} :
    rowsOf m.row cs = .ok rows ↔ cs.map (m.row ·.coefficients) = rows.map .ok := by
  induction cs generalizing rows with
  | nil => simp [rowsOf, eq_comm]
  | cons c cs ih =>
    rw [rowsOf, List.map_cons]
    cases hrow : m.row c.coefficients with
    | error name => cases rows <;> simp
    | ok cells =>
      cases hrest : rowsOf m.row cs with
      | error e => cases rows <;> simp [Except.map, ← ih, hrest]
      | ok rest => cases rows <;> simp [Except.map, ← ih, hrest]

/-! ## Forms -/

section Forms

variable {α : Type} [Scalar α] {m : Model α}

/-- The form of a model whose rows are known. -/
def assembled (m : Model α) (objective : List α) (rows : List (List α)) : DenseForm α where
  variableNames := m.variableNames
  objective := objective
  lower := m.vars.map (·.lower)
  upper := m.vars.map (·.upper)
  rows := rows
  relations := m.constraints.map (·.relation)
  rhs := m.constraints.map (·.rhs)
  maximize := m.isMaximize
  constraintNames := m.constraints.map (·.name)

/-- Rows of the model fit its variables and constraints. -/
theorem shaped_assembled {objective : List α} {rows : List (List α)}
    (hobjective : m.row m.objective = .ok objective) (hrows : rowsOf m.row m.constraints = .ok rows) :
    (m.assembled objective rows).Shaped := by
  have hsources := rowsOf_eq_ok_iff.1 hrows
  refine ⟨?_, by simp [assembled, variableNames], by simp [assembled, variableNames], ?_, ?_,
    by simp [assembled]⟩
  · simpa [assembled, variableNames] using length_row hobjective
  · simpa [assembled] using (congrArg List.length hsources).symm
  · intro row hrow
    have hmem : .ok row ∈ m.constraints.map (m.row ·.coefficients) := by
      rw [hsources]
      exact List.mem_map.2 ⟨row, hrow, rfl⟩
    obtain ⟨c, -, hc⟩ := List.mem_map.1 hmem
    simpa [assembled, variableNames] using length_row hc

/-- Lowering without the check of the dimensions, which always passes. -/
theorem denseForm_eq (m : Model α) :
    m.denseForm =
      match m.row m.objective with
      | .error name   => .error (.invalidModel (.objectiveUnknown name m.name))
      | .ok objective =>
        match rowsOf m.row m.constraints with
        | .error (constraint, name) => .error (.invalidModel (.constraintUnknown constraint name))
        | .ok rows                  => .ok (m.assembled objective rows) := by
  rw [denseForm, denseFormBy]
  cases hobjective : m.row m.objective with
  | error name => rfl
  | ok objective =>
    cases hrows : rowsOf m.row m.constraints with
    | error e => rfl
    | ok rows =>
      have hfault : (m.assembled objective rows).shapeFault? = none :=
        DenseForm.shaped_iff.1 (shaped_assembled hobjective hrows)
      have hchecked : (m.assembled objective rows).checked = .ok (m.assembled objective rows) := by
        rw [DenseForm.checked, hfault]
      dsimp only
      rw [← assembled, hchecked]

theorem exists_assembled_of_denseForm {f : DenseForm α} (h : m.denseForm = .ok f) :
    ∃ objective rows, m.row m.objective = .ok objective ∧ rowsOf m.row m.constraints = .ok rows ∧
      f = m.assembled objective rows := by
  rw [denseForm_eq] at h
  split at h
  · cases h
  · next objective hobjective =>
    split at h
    · cases h
    · next rows hrows =>
      cases h
      exact ⟨objective, rows, hobjective, hrows, rfl⟩

/-- The form is that of the model, part by part. -/
structure Lowers {α : Type} [Scalar α] (m : Model α) (f : DenseForm α) : Prop where
  shaped : f.Shaped
  names : f.variableNames = m.variableNames
  objective : m.row m.objective = .ok f.objective
  lower : f.lower = m.vars.map (·.lower)
  upper : f.upper = m.vars.map (·.upper)
  rows : m.constraints.map (m.row ·.coefficients) = f.rows.map .ok
  relations : f.relations = m.constraints.map (·.relation)
  rhs : f.rhs = m.constraints.map (·.rhs)
  maximize : f.maximize = m.isMaximize

theorem lowers_of_denseForm {f : DenseForm α} (h : m.denseForm = .ok f) : m.Lowers f := by
  obtain ⟨objective, rows, hobjective, hrows, rfl⟩ := exists_assembled_of_denseForm h
  exact ⟨shaped_assembled hobjective hrows, rfl, hobjective, rfl, rfl, rowsOf_eq_ok_iff.1 hrows,
    rfl, rfl, rfl⟩

/-- Every row of the form is that of a constraint. -/
theorem Lowers.exists_of_getElem?_rows {f : DenseForm α} (h : m.Lowers f) {k : Nat}
    {row : List α} (hk : f.rows[k]? = some row) :
    ∃ c, m.constraints[k]? = some c ∧ m.row c.coefficients = .ok row := by
  have hrow := congrArg (·[k]?) h.rows
  simpa [hk, eq_comm] using hrow

theorem Lowers.exists_of_getElem?_constraints {f : DenseForm α} (h : m.Lowers f) {k : Nat}
    {c : Constraint α} (hk : m.constraints[k]? = some c) :
    ∃ row, f.rows[k]? = some row ∧ m.row c.coefficients = .ok row := by
  have hrow := congrArg (·[k]?) h.rows
  simpa [hk, eq_comm] using hrow

end Forms

/-- Finite coefficients and right-hand sides, and bounds that can bound. -/
structure Regular (m : Model Exact) : Prop where
  objective : ∀ e ∈ m.objective.entries, Scalar.isFinite e.2 = true
  coefficients : ∀ c ∈ m.constraints, ∀ e ∈ c.coefficients.entries, Scalar.isFinite e.2 = true
  rhs : ∀ c ∈ m.constraints, Scalar.isFinite c.rhs = true
  lower : ∀ v ∈ m.vars, v.lower.IsLower
  upper : ∀ v ∈ m.vars, v.upper.IsUpper

instance (m : Model Exact) : Decidable m.Regular :=
  decidable_of_iff
    ((∀ e ∈ m.objective.entries, Scalar.isFinite e.2 = true) ∧
      (∀ c ∈ m.constraints, ∀ e ∈ c.coefficients.entries, Scalar.isFinite e.2 = true) ∧
      (∀ c ∈ m.constraints, Scalar.isFinite c.rhs = true) ∧
      (∀ v ∈ m.vars, v.lower.IsLower) ∧ ∀ v ∈ m.vars, v.upper.IsUpper)
    ⟨fun ⟨ho, hc, hb, hl, hu⟩ => ⟨ho, hc, hb, hl, hu⟩,
      fun h => ⟨h.objective, h.coefficients, h.rhs, h.lower, h.upper⟩⟩

namespace Lowers

variable {m : Model Exact} {f : DenseForm Exact}

theorem length_names (h : m.Lowers f) : f.variableNames.length = m.vars.length := by
  simp [h.names, variableNames]

/-- A model of finite numbers has a form of finite numbers. -/
theorem regular (h : m.Lowers f) (hm : m.Regular) : f.Regular := by
  have hvector : ∀ {coefficients : Table Exact} {row : List Exact},
      (∀ e ∈ coefficients.entries, Scalar.isFinite e.2 = true) →
      m.row coefficients = .ok row → ∀ a ∈ row, Scalar.isFinite a = true := by
    intro coefficients row hfinite hrow
    obtain ⟨a, rfl, -⟩ := exists_vector_of_row hfinite hrow
    simp [vector]
  constructor
  · exact hvector hm.objective h.objective
  · intro row hmem
    obtain ⟨k, hk⟩ := List.mem_iff_getElem?.1 hmem
    obtain ⟨c, hc, hrow⟩ := h.exists_of_getElem?_rows hk
    exact hvector (hm.coefficients c (List.mem_of_getElem? hc)) hrow
  · simpa [h.rhs] using hm.rhs
  · simpa [h.lower] using hm.lower
  · simpa [h.upper] using hm.upper

end Lowers

/-! ## A sample -/

/-- Commands that state the sample form: expressions name variables in any order, and one has a
coefficient of zero. -/
def sampleCommands : List (Command Exact) :=
  [.addVariable "x" (.int 0) (.real (.infinite false)),
    .addVariable "y" (.real (.infinite true)) (.int 4),
    .addVariable "z" (.int (-5)) (.int (-2)),
    .setObjective (.ofList [("y", .int 5), ("x", .int 3)]) (.bool true),
    .addConstraint "upper" (.ofList [("x", .int 2), ("y", .int 1)]) (.text "<=") (.int 6),
    .addConstraint "lower" (.ofList [("x", .int 1), ("y", .int 1)]) (.text ">=") (.int 1),
    .addConstraint "level" (.ofList [("y", .int (-1)), ("x", .int 1)]) (.text "=") (.int 0),
    .addConstraint "constant" (.ofList [("z", .int 0)]) (.text ">=") (.int (-1))]

def sample : Model Exact :=
  Model.run { name := "sample" } sampleCommands

theorem reachable_sample : sample.Reachable :=
  ⟨"sample", .null, sampleCommands, rfl⟩

theorem denseForm_sample : sample.denseForm = .ok DenseForm.sample := by
  rfl

theorem regular_sample : sample.Regular := by
  decide +kernel

end LinearDispatch.Model
