-- SUMMARY: The dense form of a model cell by cell: its dimensions always fit, and each coefficient of the model is in the one cell of its variable.
import LinearDispatch.Proofs.Model.Lowering
import LinearDispatch.Proofs.Model.Reachable

/-!
# The dense form of a model

Lowering writes the entries of an expression one after the other, in the order
of their names' first appearance, into cells in the order of declaration. As
different names have different positions and an expression has one entry for a
name, a cell ends up with the entry of its variable, whatever the order of the
writes, and keeps its zero if there is none.

As the check of the dimensions never finds a fault, a model is refused for a
name that nobody declared and for nothing else.
-/
namespace LinearDispatch.Model

variable {α : Type} [Scalar α]

/-! ## Writing entries into cells -/

section Scatter

variable {β : Type} {position : String → Option Nat} {entries : List (String × β)}
  {cells row : List β}

/-- A cell holds the entry of its name, and what it held before if there is none. -/
theorem getElem?_scatter (hkeys : (entries.map Prod.fst).Nodup)
    (hinjective : ∀ name name' j, position name = some j → position name' = some j → name = name')
    (h : scatter position entries cells = .ok row) {name : String} {j : Nat} {y : β}
    (hj : position name = some j) (hcell : cells[j]? = some y) :
    row[j]? = some ((Table.find? name entries).getD y) := by
  induction entries generalizing cells y with
  | nil =>
    cases h
    exact hcell
  | cons e entries ih =>
    obtain ⟨key, x⟩ := e
    rw [List.map_cons, List.nodup_cons] at hkeys
    rw [scatter] at h
    split at h
    · cases h
    · next i hi =>
      by_cases hname : key = name
      · subst hname
        -- The name does not come again, so the cell keeps what is written now.
        have hlater : Table.find? key entries = none := by
          rw [← Option.not_isSome_iff_eq_none, Table.find?_isSome]
          exact hkeys.1
        have hij : i = j := Option.some.inj (hi.symm.trans hj)
        have hwritten : (cells.set i x)[j]? = some x := by
          rw [hij]
          exact List.getElem?_set_self (List.getElem?_eq_some_iff.1 hcell).1
        rw [ih hkeys.2 h hwritten, hlater]
        simp [Table.find?]
      · have hne : i ≠ j := by
          rintro rfl
          exact hname (hinjective _ _ _ hi hj)
        have hkept : (cells.set i x)[j]? = some y := by
          rw [List.getElem?_set_ne hne]
          exact hcell
        rw [ih hkeys.2 h hkept]
        simp [Table.find?, hname]

/-- Nothing is left out: every name that is written has a position. -/
theorem exists_position_of_scatter (h : scatter position entries cells = .ok row) :
    ∀ e ∈ entries, ∃ j, position e.1 = some j := by
  induction entries generalizing cells with
  | nil => simp
  | cons e entries ih =>
    obtain ⟨name, x⟩ := e
    rw [scatter] at h
    split at h
    · cases h
    · next j hj => exact List.forall_mem_cons.2 ⟨⟨j, hj⟩, ih h⟩

/-- A refusal names an entry without a position. -/
theorem mem_keys_of_scatter {name : String} (h : scatter position entries cells = .error name) :
    name ∈ entries.map Prod.fst ∧ position name = none := by
  induction entries generalizing cells with
  | nil => cases h
  | cons e entries ih =>
    obtain ⟨key, x⟩ := e
    rw [scatter] at h
    split at h
    · next hkey =>
      cases h
      exact ⟨List.mem_cons_self, hkey⟩
    · next j hj =>
      obtain ⟨hmem, hnone⟩ := ih h
      exact ⟨List.mem_cons_of_mem _ hmem, hnone⟩

end Scatter

/-! ## Rows -/

variable {m : Model α} {coefficients : Table α} {cells : List α}

omit [Scalar α] in
/-- The position of a variable's name is the variable's. -/
theorem variableIndex?_of_getElem? (hnames : m.variableNames.Nodup) {i : Nat} {v : Variable α}
    (hv : m.vars[i]? = some v) : m.variableIndex? v.name = some i :=
  findIdx?_label hnames hv

/-- The row of an expression has each variable's coefficient in that variable's cell. -/
theorem row_eq (hnames : m.variableNames.Nodup) (h : m.row coefficients = .ok cells) :
    cells = m.vars.map fun v => (coefficients.get? v.name).getD 0 := by
  apply List.ext_getElem?
  intro i
  rw [List.getElem?_map]
  cases hv : m.vars[i]? with
  | none =>
    rw [List.getElem?_eq_none_iff] at hv
    exact List.getElem?_eq_none (by rwa [length_row h])
  | some v =>
    have hzero : (List.replicate m.vars.length (0 : α))[i]? = some 0 := by
      simp [(List.getElem?_eq_some_iff.1 hv).1]
    exact getElem?_scatter coefficients.distinct (fun _ _ _ => variableIndex?_injective) h
      (variableIndex?_of_getElem? hnames hv) hzero

/-- The rows of constraints have each coefficient in the cell of its variable. -/
theorem rowsOf_eq (hnames : m.variableNames.Nodup) {cs : List (Constraint α)}
    {rows : List (List α)} (h : rowsOf m.row cs = .ok rows) :
    rows = cs.map fun c => m.vars.map fun v => c.coefficient v.name := by
  rw [rowsOf_eq_ok_iff] at h
  have hrows : cs.map (m.row ·.coefficients) =
      (cs.map fun c => m.vars.map fun v => c.coefficient v.name).map .ok := by
    rw [List.map_map]
    refine List.map_congr_left fun c hc => ?_
    have hmem : m.row c.coefficients ∈ rows.map .ok := h ▸ List.mem_map.2 ⟨c, hc, rfl⟩
    obtain ⟨cells, -, hcells⟩ := List.mem_map.1 hmem
    rw [← hcells, row_eq hnames hcells.symm]
    rfl
  exact List.map_injective_iff.2 (fun _ _ => Except.ok.inj) (h.symm.trans hrows)

/-- A refusal names a coefficient of a variable that was never declared. -/
theorem mem_keys_of_row {name : String} (h : m.row coefficients = .error name) :
    name ∈ coefficients.keys ∧ m.hasVariable name = false := by
  obtain ⟨hmem, hnone⟩ := mem_keys_of_scatter h
  exact ⟨hmem, by rw [hasVariable, hnone]; rfl⟩

theorem exists_of_rowsOf_eq_error {cs : List (Constraint α)} {constraint name : String}
    (h : rowsOf m.row cs = .error (constraint, name)) :
    ∃ c ∈ cs, c.name = constraint ∧ m.row c.coefficients = .error name := by
  induction cs with
  | nil => cases h
  | cons c cs ih =>
    rw [rowsOf] at h
    split at h
    · next name' hrow =>
      cases h
      exact ⟨c, List.mem_cons_self, rfl, hrow⟩
    · next cells hcells =>
      obtain ⟨c', hc', hfault⟩ := ih (map_eq_error_iff.1 h)
      exact ⟨c', List.mem_cons_of_mem _ hc', hfault⟩

/-! ## Refusals -/

/-- The fault is that a name of the objective or of a constraint was never declared. -/
inductive Undeclared (m : Model α) : ModelFault → Prop where
  | objective {name : String} (mentioned : name ∈ m.objective.keys)
    (undeclared : m.hasVariable name = false) : Undeclared m (.objectiveUnknown name m.name)
  | constraint {c : Constraint α} {name : String} (member : c ∈ m.constraints)
    (mentioned : name ∈ c.coefficients.keys) (undeclared : m.hasVariable name = false) :
    Undeclared m (.constraintUnknown c.name name)

theorem undeclared_of_denseForm {e : Error α} (h : m.denseForm = .error e) :
    ∃ fault, e = .invalidModel fault ∧ m.Undeclared fault := by
  rw [denseForm_eq] at h
  split at h
  · next name hobjective =>
    cases h
    obtain ⟨hmem, hnone⟩ := mem_keys_of_row hobjective
    exact ⟨_, rfl, .objective hmem hnone⟩
  · split at h
    · next constraint name hrows =>
      cases h
      obtain ⟨c, hc, rfl, hrow⟩ := exists_of_rowsOf_eq_error hrows
      obtain ⟨hmem, hnone⟩ := mem_keys_of_row hrow
      exact ⟨_, rfl, .constraint hc hmem hnone⟩
    · cases h

/-! ## Faithful forms -/

/-- Every entry is in the cell of its name, and there is no other cell of that name. -/
def Carries (names : List String) (cells : List α) (t : Table α) : Prop :=
  ∀ e ∈ t.entries, ∃ i : Nat, cells[i]? = some e.2 ∧ ∀ j : Nat, names[j]? = some e.1 ↔ j = i

/-- The form says at each position what the model says of the variable or the constraint there, and
has every coefficient of the model in one cell. -/
structure Mirrors (m : Model α) (f : DenseForm α) : Prop where
  fits : f.shapeFault? = none
  variableNames : f.variableNames = m.vars.map (·.name)
  constraintNames : f.constraintNames = m.constraints.map (·.name)
  objective : f.objective = m.vars.map fun v => (m.objective.get? v.name).getD 0
  rows : f.rows = m.constraints.map fun c => m.vars.map fun v => c.coefficient v.name
  lower : f.lower = m.vars.map (·.lower)
  upper : f.upper = m.vars.map (·.upper)
  relations : f.relations = m.constraints.map (·.relation)
  rhs : f.rhs = m.constraints.map (·.rhs)
  maximize : f.maximize = true ↔ m.direction = .maximize
  objectiveCarried : Carries f.variableNames f.objective m.objective
  rowsCarried : ∀ (k : Nat) c row, m.constraints[k]? = some c → f.rows[k]? = some row →
    Carries f.variableNames row c.coefficients

/-- No coefficient of an expression is lost, written twice or written elsewhere. -/
theorem carries_of_row (hnames : m.variableNames.Nodup) (h : m.row coefficients = .ok cells) :
    Carries m.variableNames cells coefficients := by
  intro e he
  obtain ⟨name, x⟩ := e
  obtain ⟨i, hi⟩ := exists_position_of_scatter h _ he
  obtain ⟨v, hv, rfl⟩ := variableIndex?_eq_some hi
  have hname : m.variableNames[i]? = some v.name := by simp [variableNames, hv]
  have hfound : coefficients.get? v.name = some x := Table.get?_of_mem he
  refine ⟨i, by simp [row_eq hnames h, hv, hfound], fun j => ?_⟩
  constructor
  · intro hj
    have hlt : j < m.variableNames.length := (List.getElem?_eq_some_iff.1 hj).1
    exact (List.getElem?_inj hlt hnames).1 (hj.trans hname.symm)
  · rintro rfl
    exact hname

/-- A form without a fault in its dimensions comes out of a well-formed model, and mirrors it. -/
theorem WellFormed.mirrors (hm : m.WellFormed) {f : DenseForm α} (h : m.denseForm = .ok f) :
    m.Mirrors f := by
  obtain ⟨objective, rows, hobjective, hrows, rfl⟩ := exists_assembled_of_denseForm h
  refine {
    fits := DenseForm.shaped_iff.1 (shaped_assembled hobjective hrows)
    variableNames := rfl
    constraintNames := rfl
    objective := row_eq hm.variableNames hobjective
    rows := rowsOf_eq hm.variableNames hrows
    lower := rfl
    upper := rfl
    relations := rfl
    rhs := rfl
    maximize := by simp [assembled, isMaximize]
    objectiveCarried := carries_of_row hm.variableNames hobjective
    rowsCarried := ?_ }
  intro k c row hc hrow
  obtain ⟨row', hrow', hcells⟩ := (lowers_of_denseForm h).exists_of_getElem?_constraints hc
  rw [hrow'] at hrow
  cases hrow
  exact carries_of_row hm.variableNames hcells

theorem answer_lower (m : Model α) : m.lower.answer = m.denseForm := by
  rw [lower]
  cases m.denseForm <;> rfl

/-- Whatever was asked of a model, refused edits included: lowering it never fails for its
dimensions, and the form that it answers mirrors the model. -/
theorem mirrors_of_lower (m : Model α) (hm : m.Reachable) :
    (∀ fault, m.lower.answer ≠ .error (.badShape fault)) ∧
      ∀ f, m.lower.answer = .ok f → m.Mirrors f := by
  rw [answer_lower]
  constructor
  · intro fault h
    obtain ⟨fault', heq, -⟩ := undeclared_of_denseForm h
    cases heq
  · intro f h
    exact hm.wellFormed.mirrors h

/-- Expressions are stated before their variables and in another order, and some edits are
refused: a name that comes twice, a bound that is no number, a lowering that is too early. -/
def tangledCommands : List (Command Exact) :=
  [.addConstraint "late" (.ofList [("y", .int 2), ("x", .int (-1))]) (.text "<=") (.int 4),
    .setObjectiveCoefficient "y" (.int 7),
    .addVariable "x" (.int 0) (.int 1),
    .denseForm,
    .addVariable "x" (.int 5) (.int 6),
    .addVariable "y" .null (.int 1),
    .addVariable "z" (.real (.infinite true)) (.int 3),
    .addVariable "y" (.int (-2)) (.int 2),
    .addConstraint "late" (.ofList [("z", .int 1)]) (.text "==") (.int 0),
    .setObjectiveCoefficient "x" (.int 3),
    .addConstraint "empty" .empty (.text ">=") (.int 0)]

def tangled : Model Exact :=
  Model.run { name := "tangled" } tangledCommands

def tangledForm : DenseForm Exact where
  variableNames := ["x", "z", "y"]
  objective := Exact.vector [3, 0, 7]
  lower := [.finite 0, .infinite true, .finite (-2)]
  upper := Exact.vector [1, 3, 2]
  rows := [Exact.vector [-1, 0, 2], Exact.vector [0, 0, 0]]
  relations := [.atMost, .atLeast]
  rhs := Exact.vector [4, 0]
  maximize := true
  constraintNames := ["late", "empty"]

theorem mirrors_of_lower_tangled :
    tangled.lower.answer = .ok tangledForm ∧ tangled.Mirrors tangledForm := by
  have hreachable : tangled.Reachable := ⟨"tangled", .null, tangledCommands, rfl⟩
  have hform : tangled.lower.answer = .ok tangledForm := by rfl
  exact ⟨hform, (mirrors_of_lower tangled hreachable).2 tangledForm hform⟩

end LinearDispatch.Model
