-- SUMMARY: Looking declarations up by name: every reachable model answers with the one declaration of that name, as an index kept along its run would, and variables and constraints have separate names.
import LinearDispatch.Model.Indexed
import LinearDispatch.Proofs.Model.Interleaving

/-!
# Lookups by name

A model finds its variables and constraints by name. As names of one kind are
distinct, a name that was declared finds its own declaration at its own
position, and any other name is refused, whatever was asked of the model before
and whether it was refused. An index in which every declaration is entered when
it goes through finds the same positions. The two kinds of names are separate:
a model has the variables that it would have without its constraints, and the
constraints that it would have without its variables.
-/
namespace LinearDispatch.Model

variable {α : Type}

/-! ## One kind of declaration -/

/-- Names are distinct, and the lookups by name find each declaration at its position and refuse
all other names. -/
structure Resolves {δ : Type} (kind : String) (label : δ → String) (declared : List δ)
    (known : String → Bool) (index : String → Except (Error α) Nat)
    (entity : String → Except (Error α) δ) : Prop where
  distinct : (declared.map label).Nodup
  known_iff : ∀ name, known name = true ↔ ∃ d ∈ declared, label d = name
  found : ∀ (i : Nat) d, declared[i]? = some d →
    index (label d) = .ok i ∧ entity (label d) = .ok d
  unknown : ∀ name, known name = false →
    index name = .error (.notFound kind name) ∧ entity name = .error (.notFound kind name)

/-- Searching a list of distinct names resolves them. -/
theorem resolves_of_nodup {δ : Type} {kind : String} {label : δ → String} {declared : List δ}
    {known : String → Bool} {index : String → Except (Error α) Nat}
    {entity : String → Except (Error α) δ} (h : (declared.map label).Nodup)
    (hknown : ∀ name, known name = (declared.findIdx? (label · == name)).isSome)
    (hindex : ∀ name, index name =
      (declared.findIdx? (label · == name)).elim (.error (.notFound kind name)) .ok)
    (hentity : ∀ name, entity name =
      (declared.find? (label · == name)).elim (.error (.notFound kind name)) .ok) :
    Resolves kind label declared known index entity := by
  refine ⟨h, fun name => ?_, fun i d hd => ?_, fun name hname => ?_⟩
  · simp [hknown]
  · rw [hindex, hentity, findIdx?_label h hd, find?_label h hd]
    exact ⟨rfl, rfl⟩
  · rw [hknown, Option.isSome_eq_false_iff, Option.isNone_iff_eq_none] at hname
    rw [hindex, hentity, hname, find?_eq_none_of_findIdx? hname]
    exact ⟨rfl, rfl⟩

/-! ## Models -/

/-- The lookups of a model are searches. -/
theorem variableIndex_eq (m : Model α) (name : String) :
    m.variableIndex name =
      (m.vars.findIdx? (·.name == name)).elim (.error (.notFound "variable" name)) .ok := by
  rw [variableIndex, variableIndex?]
  cases m.vars.findIdx? (·.name == name) <;> rfl

theorem constraintIndex_eq (m : Model α) (name : String) :
    m.constraintIndex name =
      (m.constraints.findIdx? (·.name == name)).elim
        (.error (.notFound "constraint" name)) .ok := by
  rw [constraintIndex, constraintIndex?]
  cases m.constraints.findIdx? (·.name == name) <;> rfl

theorem variableNamed_eq (m : Model α) (name : String) :
    m.variableNamed name =
      (m.vars.find? (·.name == name)).elim (.error (.notFound "variable" name)) .ok := by
  rw [variableNamed]
  cases m.vars.find? (·.name == name) <;> rfl

theorem constraintNamed_eq (m : Model α) (name : String) :
    m.constraintNamed name =
      (m.constraints.find? (·.name == name)).elim (.error (.notFound "constraint" name)) .ok := by
  rw [constraintNamed]
  cases m.constraints.find? (·.name == name) <;> rfl

/-- Variables and constraints are found by their names, and a variable knows its position. -/
structure Coherent (m : Model α) : Prop where
  variableNames :
    Resolves "variable" (·.name) m.vars m.hasVariable m.variableIndex m.variableNamed
  indices : ∀ (i : Nat) v, m.vars[i]? = some v → v.index = i
  constraintNames :
    Resolves "constraint" (·.name) m.constraints m.hasConstraint m.constraintIndex m.constraintNamed

theorem WellFormed.coherent {m : Model α} (h : m.WellFormed) : m.Coherent where
  variableNames :=
    resolves_of_nodup h.variableNames (fun _ => rfl) m.variableIndex_eq m.variableNamed_eq
  indices := h.indices
  constraintNames :=
    resolves_of_nodup h.constraintNames (fun _ => rfl) m.constraintIndex_eq m.constraintNamed_eq

/-! ## An index kept along a run -/

namespace Index

/-- The index finds the positions that the model finds. -/
structure Agrees (x : Index) (m : Model α) : Prop where
  variablePositions : ∀ name, x.variablePositions.get? name = m.variableIndex? name
  constraintPositions : ∀ name, x.constraintPositions.get? name = m.constraintIndex? name

/-- Enter the name that a command declares, with the number of declarations before it. -/
def declare (x : Index) (m : Model α) : Command α → Index
  | .addVariable name ..   =>
    { x with variablePositions := x.variablePositions.insert name m.vars.length }
  | .addConstraint name .. =>
    { x with constraintPositions := x.constraintPositions.insert name m.constraints.length }
  | _                      => x

theorem declare_of_group {x : Index} {m : Model α} {c : Command α} (hv : c.group ≠ .variables)
    (hc : c.group ≠ .constraints) : x.declare m c = x := by
  cases c with
  | addVariable => exact absurd rfl hv
  | addConstraint => exact absurd rfl hc
  | _ => rfl

variable [Scalar α]

/-- The index after a command: what is refused is not entered. -/
def enter (x : Index) (m : Model α) (c : Command α) : Index :=
  if (m.perform c).answer.isOk then x.declare m c else x

/-- The index after a run that starts in the model. -/
def along (x : Index) (m : Model α) : List (Command α) → Index
  | []            => x
  | c :: commands => (x.enter m c).along (m.perform c).state commands

omit [Scalar α] in
/-- A new name is found at the end, the others are found where they were. -/
theorem findIdx?_append_new {δ : Type} (label : δ → String) {declared : List δ} {d : δ}
    (hnew : declared.findIdx? (label · == label d) = none) (name : String) :
    (declared ++ [d]).findIdx? (label · == name) =
      if name = label d then some declared.length else declared.findIdx? (label · == name) := by
  rw [List.findIdx?_append]
  by_cases h : name = label d
  · subst h
    simp [hnew]
  · simp [h, Ne.symm h]

theorem Agrees.enter {x : Index} {m : Model α} (h : x.Agrees m) (c : Command α) :
    (x.enter m c).Agrees (m.perform c).state := by
  have heffect := effect_perform m c
  unfold Index.enter
  generalize m.perform c = o at heffect
  cases heffect with
  | declared v lower upper hfresh =>
    rw [hasVariable, Option.isSome_eq_false_iff, Option.isNone_iff_eq_none] at hfresh
    refine ⟨fun name => ?_, h.constraintPositions⟩
    have hfound := findIdx?_append_new Variable.name hfresh name
    rw [isOk_ok, if_pos rfl, declare, Table.get?_insert, h.variablePositions]
    exact hfound.symm
  | constrained c coefficients relation rhs hfresh =>
    rw [hasConstraint, Option.isSome_eq_false_iff, Option.isNone_iff_eq_none] at hfresh
    refine ⟨h.variablePositions, fun name => ?_⟩
    have hfound := findIdx?_append_new Constraint.name hfresh name
    rw [isOk_ok, if_pos rfl, declare, Table.get?_insert, h.constraintPositions]
    exact hfound.symm
  | restated group =>
    rw [declare_of_group (by simp [group]) (by simp [group]), ite_self]
    exact ⟨h.variablePositions, h.constraintPositions⟩
  | refused => exact h
  | refusedHastily => exact ⟨h.variablePositions, h.constraintPositions⟩
  | built => exact ⟨h.variablePositions, h.constraintPositions⟩
  | lowered group _ hstate =>
    rw [declare_of_group (by simp [group]) (by simp [group]), ite_self, hstate]
    exact ⟨h.variablePositions, h.constraintPositions⟩
  | unlowered => exact h
  | preferred => exact ⟨h.variablePositions, h.constraintPositions⟩
  | looked group =>
    rw [declare_of_group (by simp [group]) (by simp [group]), ite_self]
    exact h

theorem Agrees.along {x : Index} {m : Model α} (h : x.Agrees m) (commands : List (Command α)) :
    (x.along m commands).Agrees (m.run commands) := by
  induction commands generalizing x m with
  | nil => exact h
  | cons c commands ih => exact ih (h.enter c)

end Index

/-! ## Reachable models -/

variable [Scalar α]

/-- Whatever was asked of a model, refused commands included: names are distinct, lookups answer
with the declarations, an index kept along the run finds the same positions, and the declarations of
either kind are those of their own commands, so that no name of the other kind was ever in the
way. -/
theorem coherent_run (name : String) (preferred : Literal α) (commands : List (Command α)) :
    let fresh : Model α := { name, preferred }
    (fresh.run commands).Coherent ∧
      (({} : Index).along fresh commands).Agrees (fresh.run commands) ∧
      (fresh.run commands).vars = (fresh.run (commands.filter (·.group = .variables))).vars ∧
      (fresh.run commands).constraints
        = (fresh.run (commands.filter (·.group = .constraints))).constraints := by
  intro fresh
  have hreachable : (fresh.run commands).Reachable := ⟨name, preferred, commands, rfl⟩
  have hindex : ({} : Index).Agrees fresh := ⟨fun _ => rfl, fun _ => rfl⟩
  exact ⟨hreachable.wellFormed.coherent, hindex.along commands, owns_vars.run_filter rfl commands,
    owns_constraints.run_filter rfl commands⟩

/-- A variable and a constraint may have the same name. -/
example :
    let m : Model Exact := Model.run { name := "shared" }
      [.addVariable "x" (.int 0) (.int 1), .addConstraint "x" .empty (.text "<=") (.int 0),
        .addVariable "x" (.int 2) (.int 3)]
    m.hasVariable "x" = true ∧ m.hasConstraint "x" = true ∧ m.vars.length = 1 := by
  decide

end LinearDispatch.Model
