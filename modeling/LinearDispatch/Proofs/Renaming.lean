-- SUMMARY: New names for variables and constraints throughout: renamed tables, models, forms, solutions and replies, and commands that differ in their names only.
import Mathlib.Data.List.Nodup
import Mathlib.Logic.Embedding.Basic
import LinearDispatch.Model.Command

/-!
# Renaming

A renaming gives variables and constraints new names, different ones to
different names. It is applied to everything that mentions a name. Two commands
are twins when they ask the same under the two kinds of names; an engine is its
own twin, as it never sees a name, and a custom backend, which does, has a twin
that answers the renamed form with the same raw outcome.
-/
namespace LinearDispatch

/-- New names for variables and for constraints, different ones for different names. -/
structure Renaming where
  vars : String ↪ String
  constraints : String ↪ String

theorem beq_rename (r : String ↪ String) (a b : String) : (r a == r b) = (a == b) := by
  rw [Bool.eq_iff_iff, beq_iff_eq, beq_iff_eq, r.injective.eq_iff]

/-! ## Tables -/

namespace Table

variable {β γ ε : Type} (r : String ↪ String)

/-- The entries under new names. -/
def renameEntries (es : List (String × β)) : List (String × β) :=
  es.map fun e => (r e.1, e.2)

theorem keys_renameEntries (es : List (String × β)) :
    (renameEntries r es).map Prod.fst = (es.map Prod.fst).map r := by
  simp [renameEntries, Function.comp_def]

/-- The table under new names, in the same order. -/
def rename (t : Table β) : Table β :=
  ⟨renameEntries r t.entries, by
    rw [keys_renameEntries]
    exact List.Nodup.map r.injective t.distinct⟩

theorem find?_renameEntries (name : String) (es : List (String × β)) :
    find? (r name) (renameEntries r es) = find? name es := by
  induction es with
  | nil => rfl
  | cons e es ih =>
    obtain ⟨key, x⟩ := e
    rw [renameEntries] at ih
    simp [renameEntries, find?, ih]

theorem put_renameEntries (name : String) (x : β) (es : List (String × β)) :
    put (r name) x (renameEntries r es) = renameEntries r (put name x es) := by
  induction es with
  | nil => rfl
  | cons e es ih =>
    obtain ⟨key, y⟩ := e
    rw [renameEntries] at ih
    by_cases h : key = name
    · simp [renameEntries, put, h]
    · simp [renameEntries, put, h, ih]

theorem convert_renameEntries (f : β → Except ε γ) (es : List (String × β)) :
    convert f (renameEntries r es) = (convert f es).map (renameEntries r) := by
  induction es with
  | nil => rfl
  | cons e es ih =>
    obtain ⟨key, x⟩ := e
    rw [renameEntries] at ih
    simp only [renameEntries, List.map_cons, convert, ih]
    cases f x with
    | error e => rfl
    | ok y => cases convert f es <;> rfl

@[simp] theorem entries_rename (t : Table β) :
    (t.rename r).entries = t.entries.map fun e => (r e.1, e.2) := rfl

@[simp] theorem keys_rename (t : Table β) : (t.rename r).keys = t.keys.map r :=
  keys_renameEntries r t.entries

@[simp] theorem get?_rename (t : Table β) (name : String) :
    (t.rename r).get? (r name) = t.get? name :=
  find?_renameEntries r name t.entries

@[simp] theorem contains_rename (t : Table β) (name : String) :
    (t.rename r).contains (r name) = t.contains name := by
  rw [contains, contains, get?_rename]

theorem insert_rename (t : Table β) (name : String) (x : β) :
    (t.rename r).insert (r name) x = (t.insert name x).rename r :=
  Table.ext (put_renameEntries r name x t.entries)

theorem traverse_rename (t : Table β) (f : β → Except ε γ) :
    (t.rename r).traverse f = (t.traverse f).map (rename r) := by
  have hconvert := convert_renameEntries r f t.entries
  cases h : t.traverse f with
  | error e =>
    rw [traverse_eq_error_iff] at h
    rw [h] at hconvert
    exact traverse_eq_error_iff.2 hconvert
  | ok u =>
    rw [traverse_eq_ok_iff] at h
    rw [h] at hconvert
    exact traverse_eq_ok_iff.2 hconvert

/-- Pairs under new names make the table under new names, also where a name comes again. -/
theorem ofList_rename (pairs : List (String × β)) :
    ofList (pairs.map fun e => (r e.1, e.2)) = (ofList pairs).rename r := by
  have hfold : ∀ t : Table β, (pairs.map fun e => (r e.1, e.2)).foldl
      (fun t e => t.insert e.1 e.2) (t.rename r) =
        (pairs.foldl (fun t e => t.insert e.1 e.2) t).rename r := by
    induction pairs with
    | nil => exact fun t => rfl
    | cons e pairs ih =>
      intro t
      simp only [List.map_cons, List.foldl_cons, insert_rename]
      exact ih _
  exact hfold empty

end Table

/-! ## Everything with a name -/

section Renamed

variable {α : Type} (r : Renaming)

def Variable.rename (v : Variable α) : Variable α :=
  { v with name := r.vars v.name }

def Constraint.rename (c : Constraint α) : Constraint α :=
  { c with name := r.constraints c.name, coefficients := c.coefficients.rename r.vars }

def Model.rename (m : Model α) : Model α :=
  { m with
    vars := m.vars.map (·.rename r)
    constraints := m.constraints.map (·.rename r)
    objective := m.objective.rename r.vars }

/-- The rows of a form are known by position; only its lists of names change. -/
def DenseForm.rename (f : DenseForm α) : DenseForm α :=
  { f with
    variableNames := f.variableNames.map r.vars
    constraintNames := f.constraintNames.map r.constraints }

/-- Crossed bounds are told by name, a constant row by its position. -/
def Contradiction.rename : Contradiction α → Contradiction α
  | .crossedBounds names => .crossedBounds (names.map r.vars)
  | c                    => c

def Obstacle.rename : Obstacle α → Obstacle α
  | .contradiction c => .contradiction (c.rename r)
  | .refusal text    => .refusal text

def Solution.rename (s : Solution α) : Solution α :=
  { s with values := s.values.rename r.vars }

def Violation.rename : Violation α → Violation α
  | .missingValues names          => .missingValues (names.map r.vars)
  | .belowLower name value bound  => .belowLower (r.vars name) value bound
  | .aboveUpper name value bound  => .aboveUpper (r.vars name) value bound
  | .broken name lhs relation rhs => .broken (r.constraints name) lhs relation rhs
  | v                             => v

def Reply.rename : Reply α → Reply α
  | .variable v    => .variable (v.rename r)
  | .constraint c  => .constraint (c.rename r)
  | .form f        => .form (f.rename r)
  | .violations vs => .violations (vs.map (·.rename r))
  | .solution s    => .solution (s.rename r)
  | reply          => reply

end Renamed

/-! ## Outcomes that differ in names -/

/-- Both answered, the second with the renamed answer, or both refused with errors of one kind. -/
inductive Alike {α ρ : Type} (rename : ρ → ρ) :
    Except (Error α) ρ → Except (Error α) ρ → Prop where
  | ok (x : ρ) : Alike rename (.ok x) (.ok (rename x))
  | error {e e' : Error α} (kind : e'.kind = e.kind) : Alike rename (.error e) (.error e')

/-- The outcome for the renamed model: its state and its answer are the renamed ones, and the
engines are handed the same problems. -/
structure Outcome.Alike {α ρ : Type} (r : Renaming) (rename : ρ → ρ)
    (o o' : Outcome α (Model α) ρ) : Prop where
  state : o'.state = o.state.rename r
  answer : LinearDispatch.Alike rename o.answer o'.answer
  calls : o'.calls = o.calls

/-! ## Twins -/

section Twins

variable {α : Type} (r : Renaming)

/-- Backends with the same raw outcome on a form and on the renamed form. -/
inductive Backend.Twin : Backend α → Backend α → Prop where
  | inequality (engine : InequalityEngine α) (method : String) :
    Twin (.inequality engine method) (.inequality engine method)
  | bounded (library : Library α) (engine : BoundedEngine α) (timeLimit : Literal α) :
    Twin (.bounded library engine timeLimit) (.bounded library engine timeLimit)
  | custom (kind : String) {answer answer' : DenseForm α → Except String (Answer α)}
    (same : ∀ f, answer' (f.rename r) = answer f) : Twin (.custom kind answer) (.custom kind answer')

structure Adapter.Twin (a a' : Adapter α) : Prop where
  name : a'.name = a.name
  iterations : a'.iterations = a.iterations
  backend : a.backend.Twin r a'.backend
  inner : a'.inner = a.inner

/-- The same command under the new names. -/
inductive Command.Twin : Command α → Command α → Prop where
  | addVariable name lower upper :
    Twin (.addVariable name lower upper) (.addVariable (r.vars name) lower upper)
  | addConstraint name coefficients relation rhs :
    Twin (.addConstraint name coefficients relation rhs)
      (.addConstraint (r.constraints name) (coefficients.rename r.vars) relation rhs)
  | setObjective coefficients direction :
    Twin (.setObjective coefficients direction)
      (.setObjective (coefficients.rename r.vars) direction)
  | setObjectiveCoefficient name coefficient :
    Twin (.setObjectiveCoefficient name coefficient)
      (.setObjectiveCoefficient (r.vars name) coefficient)
  | setDirection direction : Twin (.setDirection direction) (.setDirection direction)
  | build : Twin .build .build
  | setPreferred solver : Twin (.setPreferred solver) (.setPreferred solver)
  | variableIndex name : Twin (.variableIndex name) (.variableIndex (r.vars name))
  | constraintIndex name : Twin (.constraintIndex name) (.constraintIndex (r.constraints name))
  | variableNamed name : Twin (.variableNamed name) (.variableNamed (r.vars name))
  | constraintNamed name : Twin (.constraintNamed name) (.constraintNamed (r.constraints name))
  | hasVariable name : Twin (.hasVariable name) (.hasVariable (r.vars name))
  | hasConstraint name : Twin (.hasConstraint name) (.hasConstraint (r.constraints name))
  | coefficient constraint name :
    Twin (.coefficient constraint name) (.coefficient (r.constraints constraint) (r.vars name))
  | denseForm : Twin .denseForm .denseForm
  | inequalities : Twin .inequalities .inequalities
  | boundedProgram library : Twin (.boundedProgram library) (.boundedProgram library)
  | readPoint point : Twin (.readPoint point) (.readPoint point)
  | objectiveAt values : Twin (.objectiveAt values) (.objectiveAt (values.rename r.vars))
  | check solution tolerance : Twin (.check solution tolerance) (.check (solution.rename r) tolerance)
  | solve {a a'} (twin : a.Twin r a') : Twin (.solve a) (.solve a')

/-- Different forms stay different under new names. -/
theorem DenseForm.rename_injective : Function.Injective (DenseForm.rename (α := α) r) := by
  intro f g h
  have hvars := List.map_injective_iff.2 r.vars.injective
  have hconstraints := List.map_injective_iff.2 r.constraints.injective
  cases f
  cases g
  simpa only [rename, mk.injEq, hvars.eq_iff, hconstraints.eq_iff] using h

theorem Backend.exists_twin (b : Backend α) : ∃ b', b.Twin r b' := by
  cases b with
  | inequality engine method => exact ⟨_, .inequality engine method⟩
  | bounded library engine limit => exact ⟨_, .bounded library engine limit⟩
  | custom kind answer =>
    -- On a renamed form the twin answers as for the form, on any other one as it likes.
    refine ⟨.custom kind (Function.extend (DenseForm.rename r) answer fun _ => .error ""), ?_⟩
    exact .custom kind fun f => (DenseForm.rename_injective r).extend_apply answer _ f

/-- Every command can be asked under the new names. -/
theorem Command.exists_twin (c : Command α) : ∃ d, c.Twin r d := by
  cases c with
  | solve a =>
    obtain ⟨backend, twin⟩ := a.backend.exists_twin r
    exact ⟨.solve { a with backend }, .solve ⟨rfl, rfl, twin, rfl⟩⟩
  | addVariable name lower upper => exact ⟨_, .addVariable name lower upper⟩
  | addConstraint name coefficients relation rhs =>
    exact ⟨_, .addConstraint name coefficients relation rhs⟩
  | setObjective coefficients direction => exact ⟨_, .setObjective coefficients direction⟩
  | setObjectiveCoefficient name coefficient =>
    exact ⟨_, .setObjectiveCoefficient name coefficient⟩
  | setDirection direction => exact ⟨_, .setDirection direction⟩
  | build => exact ⟨_, .build⟩
  | setPreferred solver => exact ⟨_, .setPreferred solver⟩
  | variableIndex name => exact ⟨_, .variableIndex name⟩
  | constraintIndex name => exact ⟨_, .constraintIndex name⟩
  | variableNamed name => exact ⟨_, .variableNamed name⟩
  | constraintNamed name => exact ⟨_, .constraintNamed name⟩
  | hasVariable name => exact ⟨_, .hasVariable name⟩
  | hasConstraint name => exact ⟨_, .hasConstraint name⟩
  | coefficient constraint name => exact ⟨_, .coefficient constraint name⟩
  | denseForm => exact ⟨_, .denseForm⟩
  | inequalities => exact ⟨_, .inequalities⟩
  | boundedProgram library => exact ⟨_, .boundedProgram library⟩
  | readPoint point => exact ⟨_, .readPoint point⟩
  | objectiveAt values => exact ⟨_, .objectiveAt values⟩
  | check solution tolerance => exact ⟨_, .check solution tolerance⟩

end Twins

end LinearDispatch
