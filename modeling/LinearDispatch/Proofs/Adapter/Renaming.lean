-- SUMMARY: Names never reach an engine: renamed models come to the same programs, and a solve of them to the same solution under the new names.
import LinearDispatch.Proofs.Adapter.Attempt
import LinearDispatch.Proofs.Model.Built
import LinearDispatch.Proofs.Model.Renaming

/-!
# Renamed runs

Rows are known by position once a model is lowered. The programs of a renamed
form are those of the form itself, the engines are asked the same, and a point
is read back by position, so that the solution has the same values under the
new names. Every command therefore ends on the renamed model as its twin on the
model, and so does every run.
-/
namespace LinearDispatch

variable {α : Type} [Scalar α] (r : Renaming)

/-! ## Programs -/

omit [Scalar α] in
@[simp] theorem DenseForm.length_variableNames_rename (f : DenseForm α) :
    (f.rename r).variableNames.length = f.variableNames.length := by
  simp [rename]

omit [Scalar α] in
theorem DenseForm.conditions_rename (f : DenseForm α) : (f.rename r).conditions = f.conditions :=
  rfl

theorem InequalityProgram.ofDense_rename (f : DenseForm α) : ofDense (f.rename r) = ofDense f := by
  rw [ofDense, ofDense, DenseForm.length_variableNames_rename, DenseForm.conditions_rename]
  rfl

namespace BoundedProgram

theorem crossed_rename (f : DenseForm α) : crossed (f.rename r) = (crossed f).map r.vars := by
  simp only [crossed, DenseForm.rename, List.zip_map_left, List.filterMap_map, List.map_filterMap]
  apply List.filterMap_congr
  rintro ⟨name, lower, upper⟩ -
  simp only [Function.comp_apply, Prod.map_apply, id_eq]
  split <;> rfl

/-- What stands in the way of a row is told without a name. -/
theorem rename_of_nativeRow {library : Library α} {k : Nat} {row : List α} {relation : Relation}
    {rhs : α} {e : Obstacle α} (h : nativeRow library k row relation rhs = .error e) :
    e.rename r = e := by
  rw [nativeRow] at h
  split at h
  · split at h
    · cases h
    · cases h
      rfl
  · split at h
    · cases h
      rfl
    · split at h
      · cases h
        rfl
      · cases h

theorem rename_of_nativeRows {library : Library α} {k : Nat}
    {conditions : List (List α × Relation × α)} {e : Obstacle α}
    (h : nativeRows library k conditions = .error e) : e.rename r = e := by
  induction conditions generalizing k with
  | nil => cases h
  | cons c conditions ih =>
    rw [nativeRows] at h
    split at h
    · next hrow =>
      cases h
      exact rename_of_nativeRow r hrow
    · exact ih (map_eq_error_iff.1 h)

/-- Only crossed bounds are told by name, and which bounds cross does not depend on the names. -/
theorem ofDense_rename (library : Library α) (f : DenseForm α) :
    ofDense library (f.rename r) = (ofDense library f).mapError (Obstacle.rename r) := by
  rw [ofDense, ofDense, crossed_rename]
  cases crossed f with
  | cons name names => rfl
  | nil =>
    rw [List.map_nil, DenseForm.conditions_rename]
    dsimp only [DenseForm.rename]
    cases nativeBounds library (List.zip f.lower f.upper) with
    | error text => rfl
    | ok bounds =>
      cases terms library f.objective with
      | error text => rfl
      | ok objective =>
        cases hrows : nativeRows library 0 f.conditions with
        | error e => exact congrArg Except.error (rename_of_nativeRows r hrows).symm
        | ok rows => rfl

end BoundedProgram

/-! ## Attempts -/

/-- The engine is asked the same, and comes to the same. -/
structure Attempt.Alike (t t' : Attempt α) : Prop where
  result : t'.result = t.result
  calls : t'.calls = t.calls

namespace Adapter

variable {r} {a a' : Adapter α}

theorem alike_attemptBounded (library : Library α) (engine : BoundedEngine α) (limit : Literal α)
    (n : Int) (f : DenseForm α) :
    (attemptBounded library engine limit n f).Alike
      (attemptBounded library engine limit n (f.rename r)) := by
  rw [attemptBounded, attemptBounded, BoundedProgram.ofDense_rename]
  cases BoundedProgram.ofDense library f with
  | error e =>
    cases e with
    | contradiction why => exact ⟨rfl, rfl⟩
    | refusal text => exact ⟨rfl, rfl⟩
  | ok p => exact ⟨rfl, rfl⟩

theorem Twin.attempt (h : a.Twin r a') (f : DenseForm α) :
    (a.attempt f).Alike (a'.attempt (f.rename r)) := by
  obtain ⟨name, backend, iterations, inner⟩ := a
  obtain ⟨name', backend', iterations', inner'⟩ := a'
  obtain ⟨hname, hiterations, hbackend, -⟩ := h
  dsimp only at hname hiterations hbackend
  subst hname hiterations
  cases hbackend with
  | inequality engine method =>
    simp only [Adapter.attempt, attemptInequality, InequalityProgram.ofDense_rename]
    exact ⟨rfl, rfl⟩
  | bounded library engine limit => exact alike_attemptBounded library engine limit _ f
  | custom kind same =>
    simp only [Adapter.attempt, same]
    exact ⟨rfl, rfl⟩

/-! ## Solutions -/

variable (r) in
theorem infeasible_rename (names : List String) (status : Status) (backend : String) :
    Solution.infeasible (α := α) (names.map r.vars) status backend =
      (Solution.infeasible names status backend).rename r := by
  have hvalues : Table.ofList ((names.map r.vars).map fun name => (name, (0 : α))) =
      (Table.ofList (names.map fun name => (name, 0))).rename r.vars := by
    rw [← Table.ofList_rename, List.map_map, List.map_map]
    rfl
  rw [Solution.infeasible, hvalues]
  rfl

omit [Scalar α] in
theorem Twin.solutionAt (h : a.Twin r a') (f : DenseForm α) (values : List α) :
    a'.solutionAt (f.rename r) values = (a.solutionAt f values).rename r := by
  have hvalues : Table.ofList (List.zip (f.variableNames.map r.vars) values) =
      (Table.ofList (List.zip f.variableNames values)).rename r.vars := by
    rw [← Table.ofList_rename, List.zip_map_left]
    rfl
  rw [Adapter.solutionAt, h.name, h.inner]
  dsimp only [DenseForm.rename]
  rw [hvalues]
  rfl

theorem Twin.solveTrivial (h : a.Twin r a') (f : DenseForm α) :
    a'.solveTrivial (f.rename r) = (a.solveTrivial f).rename r := by
  have hrows : (f.rename r).constantRows = f.constantRows := rfl
  rw [Adapter.solveTrivial, Adapter.solveTrivial, h.name, hrows]
  split
  · rfl
  · exact infeasible_rename r [] .infeasible a.name

/-- The point is read back by position, and its values get the new names then. -/
theorem Twin.solveForm (h : a.Twin r a') (model : String) (f : DenseForm α) :
    Alike (·.rename r) (a.solveForm model f).1 (a'.solveForm model (f.rename r)).1 := by
  have hunsolved : ∀ status, Solution.infeasible (α := α) (f.rename r).variableNames status a'.name =
      (Solution.infeasible f.variableNames status a.name).rename r := by
    intro status
    rw [h.name]
    exact infeasible_rename r f.variableNames status a.name
  rw [Adapter.solveForm, Adapter.solveForm, (h.attempt f).result,
    DenseForm.length_variableNames_rename]
  cases (a.attempt f).result with
  | error fault =>
    dsimp only
    rw [hunsolved]
    exact .ok _
  | ok answer =>
    dsimp only
    split
    · rw [hunsolved]
      exact .ok _
    · cases readPoint f.variableNames.length answer.point with
      | error e => exact .error rfl
      | ok values =>
        dsimp only
        rw [h.solutionAt]
        exact .ok _

theorem Twin.solve (h : a.Twin r a') (m : Model α) :
    Outcome.Alike r (·.rename r) (a.solve m) (a'.solve (m.rename r)) := by
  refine (Model.alike_lower r m).andThen fun m f => ?_
  have hempty : (f.rename r).variableNames.isEmpty = f.variableNames.isEmpty := by
    simp [DenseForm.rename]
  rw [solveLowered, solveLowered, hempty]
  split
  · exact ⟨rfl, h.solveTrivial f ▸ .ok _, rfl⟩
  · refine ⟨rfl, h.solveForm m.name f, ?_⟩
    have hcalls : (a'.solveForm m.name (f.rename r)).2.2 = (a.solveForm m.name f).2.2 := by
      rw [calls_solveForm, calls_solveForm, (h.attempt f).calls]
    exact hcalls

end Adapter

/-! ## Commands -/

namespace Model

variable (m : Model α)

theorem alike_inequalities :
    Outcome.Alike r id m.inequalities (m.rename r).inequalities :=
  (alike_lower r m).map fun f => InequalityProgram.ofDense_rename r f

theorem alike_boundedProgram (library : Library α) :
    Outcome.Alike r id (m.boundedProgram library) ((m.rename r).boundedProgram library) := by
  refine (alike_lower r m).andThen fun m f => ?_
  rw [programOf, programOf, BoundedProgram.ofDense_rename]
  cases BoundedProgram.ofDense library f with
  | error e =>
    cases e with
    | contradiction why => exact ⟨rfl, .ok none, rfl⟩
    | refusal text => exact ⟨rfl, .error rfl, rfl⟩
  | ok p => exact ⟨rfl, .ok (some p), rfl⟩

theorem alike_lowerAndRead (point : Option (List (Literal α))) :
    Outcome.Alike r id (m.lowerAndRead point) ((m.rename r).lowerAndRead point) := by
  refine (alike_lower r m).andThen fun m f => ?_
  rw [readOver, readOver, DenseForm.length_variableNames_rename]
  cases readPoint f.variableNames.length point with
  | error e => exact ⟨rfl, .error rfl, rfl⟩
  | ok xs => exact ⟨rfl, .ok xs, rfl⟩

omit [Scalar α] in
theorem alike_build : Outcome.Alike r id m.build (m.rename r).build :=
  ⟨rfl, .ok (), rfl⟩

omit [Scalar α] in
theorem alike_look {ρ : Type} {g : ρ → ρ} {reply : ρ → Reply α} {x x' : Except (Error α) ρ}
    (h : Alike g x x') (hreply : ∀ y, reply (g y) = (reply y).rename r) :
    Outcome.Alike r (Reply.rename r) (m.look reply x) ((m.rename r).look reply x') :=
  ⟨rfl, h.map hreply, rfl⟩

/-- A command and its twin do the same to a model and to the renamed model. -/
theorem alike_perform {c d : Command α} (h : c.Twin r d) :
    Outcome.Alike r (Reply.rename r) (m.perform c) ((m.rename r).perform d) := by
  cases h with
  | addVariable name lower upper => exact (alike_addVariable r m name lower upper).map fun _ => rfl
  | addConstraint name coefficients relation rhs =>
    exact (alike_addConstraint r m name coefficients relation rhs).map fun _ => rfl
  | setObjective coefficients direction =>
    exact (alike_setObjective r m coefficients direction).map fun _ => rfl
  | setObjectiveCoefficient name coefficient =>
    exact (alike_setObjectiveCoefficient r m name coefficient).map fun _ => rfl
  | setDirection direction => exact (alike_setDirection r m direction).map fun _ => rfl
  | build => exact (alike_build r m).map fun _ => rfl
  | setPreferred solver => exact ⟨rfl, .ok (Reply.preference solver), rfl⟩
  | variableIndex name => exact alike_look r m (alike_variableIndex r m name) fun _ => rfl
  | constraintIndex name => exact alike_look r m (alike_constraintIndex r m name) fun _ => rfl
  | variableNamed name => exact alike_look r m (alike_variableNamed r m name) fun _ => rfl
  | constraintNamed name => exact alike_look r m (alike_constraintNamed r m name) fun _ => rfl
  | hasVariable name =>
    exact alike_look r m (g := id) (.ok_of_eq (hasVariable_rename r m name)) fun _ => rfl
  | hasConstraint name =>
    exact alike_look r m (g := id) (.ok_of_eq (hasConstraint_rename r m name)) fun _ => rfl
  | coefficient constraint name =>
    have hcoefficient : Alike id ((m.constraintNamed constraint).map (·.coefficient name))
        (((m.rename r).constraintNamed (r.constraints constraint)).map
          (·.coefficient (r.vars name))) :=
      (alike_constraintNamed r m constraint).map fun c => coefficient_rename r c name
    exact alike_look r m hcoefficient fun _ => rfl
  | denseForm => exact (alike_lower r m).map fun _ => rfl
  | inequalities => exact (alike_inequalities r m).map fun _ => rfl
  | boundedProgram library => exact (alike_boundedProgram r m library).map fun _ => rfl
  | readPoint point => exact (alike_lowerAndRead r m point).map fun _ => rfl
  | objectiveAt values =>
    exact alike_look r m (g := id) (.ok_of_eq (objectiveAt_rename r m values)) fun _ => rfl
  | check solution tolerance => exact alike_look r m (alike_check r m solution tolerance) fun _ => rfl
  | solve twin => exact (twin.solve m).map fun _ => rfl

/-! ## Runs -/

theorem run_rename {cs ds : List (Command α)} (h : List.Forall₂ (Command.Twin r) cs ds) :
    (m.rename r).run ds = (m.run cs).rename r := by
  induction h generalizing m with
  | nil => rfl
  | cons hcd _ ih =>
    rw [run, List.foldl_cons, (alike_perform r m hcd).state]
    exact ih _

/-- Under new names every step of a run does the same: it is refused for the same kind of cause or
answers the renamed answer, and hands the same problems to the engines. The models that the runs
end in have the same numbers in the same places: their dense forms differ in the lists of names
only, their programs do not differ, and a backend and its twin find solutions for them that differ
in the names of the values only. -/
theorem alike_run {cs ds : List (Command α)} (h : List.Forall₂ (Command.Twin r) cs ds)
    (name : String) (preferred : Literal α) :
    let fresh : Model α := { name, preferred }
    let m := fresh.run cs
    let m' := fresh.run ds
    (∀ (i : Nat) c d, cs[i]? = some c → ds[i]? = some d →
      Outcome.Alike r (Reply.rename r) ((fresh.before cs i).perform c)
        ((fresh.before ds i).perform d)) ∧
    Alike (·.rename r) m.denseForm m'.denseForm ∧
    Outcome.Alike r id m.inequalities m'.inequalities ∧
    (∀ library, Outcome.Alike r id (m.boundedProgram library) (m'.boundedProgram library)) ∧
    ∀ a a' : Adapter α, a.Twin r a' → Outcome.Alike r (·.rename r) (a.solve m) (a'.solve m') := by
  intro fresh m m'
  have hrun : ∀ {cs ds : List (Command α)}, List.Forall₂ (Command.Twin r) cs ds →
      fresh.run ds = (fresh.run cs).rename r := run_rename r fresh
  have hm : m' = m.rename r := hrun h
  rw [hm]
  refine ⟨fun i c d hc hd => ?_, alike_denseForm r m, alike_inequalities r m,
    alike_boundedProgram r m, fun a a' twin => twin.solve m⟩
  have hbefore : fresh.before ds i = (fresh.before cs i).rename r := hrun (List.forall₂_take i h)
  obtain ⟨hi, rfl⟩ := List.getElem?_eq_some_iff.1 hc
  obtain ⟨hi', rfl⟩ := List.getElem?_eq_some_iff.1 hd
  rw [hbefore]
  exact alike_perform r _ (h.get hi hi')

/-- Two variables change names, so that their order by name is another one, and constraints get
names that the file formats of engines do not allow. -/
def swapped : Renaming where
  vars := (Equiv.swap "x" "y").toEmbedding
  constraints := ⟨("-obj: " ++ ·), fun _ _ => (String.append_right_inj _).1⟩

def unswappedCommands : List (Command Exact) :=
  [.addVariable "x" (.int 0) (.int 4), .addVariable "y" (.int 0) (.int 9),
    .addConstraint "row" (.ofList [("y", .int 2), ("x", .int 1)]) (.text "<=") (.int 6),
    .addVariable "y" .null .null, .setObjectiveCoefficient "y" (.int 5), .solve Adapter.exactBounded]

def swappedCommands : List (Command Exact) :=
  [.addVariable "y" (.int 0) (.int 4), .addVariable "x" (.int 0) (.int 9),
    .addConstraint "-obj: row" (.ofList [("x", .int 2), ("y", .int 1)]) (.text "<=") (.int 6),
    .addVariable "x" .null .null, .setObjectiveCoefficient "x" (.int 5), .solve Adapter.exactBounded]

theorem twins_swapped :
    List.Forall₂ (Command.Twin swapped) unswappedCommands swappedCommands := by
  have hx : swapped.vars "x" = "y" := by decide
  have hy : swapped.vars "y" = "x" := by decide
  have hname : swapped.constraints "row" = "-obj: row" := by decide
  have hrow : (Table.ofList [("y", .int 2), ("x", .int 1)] : Table (Literal Exact)).rename
      swapped.vars = .ofList [("x", .int 2), ("y", .int 1)] := by
    rw [← Table.ofList_rename, List.map_cons, List.map_cons, List.map_nil, hx, hy]
  simp only [unswappedCommands, swappedCommands, List.forall₂_cons, List.Forall₂.nil, and_true]
  refine ⟨?_, ?_, ?_, ?_, ?_, ?_⟩
  · exact hx ▸ .addVariable "x" _ _
  · exact hy ▸ .addVariable "y" _ _
  · rw [← hrow, ← hname]
    exact .addConstraint "row" _ _ _
  · exact hy ▸ .addVariable "y" _ _
  · exact hy ▸ .setObjectiveCoefficient "y" _
  · exact .solve ⟨rfl, rfl, .bounded _ _ _, rfl⟩

theorem alike_run_swapped :
    let fresh : Model Exact := { name := "swapped" }
    List.Forall₂ (Command.Twin swapped) unswappedCommands swappedCommands ∧
      (fresh.run unswappedCommands).denseForm.isOk = true ∧
      Alike (·.rename swapped) (fresh.run unswappedCommands).denseForm
        (fresh.run swappedCommands).denseForm := by
  intro fresh
  obtain ⟨-, hform, -⟩ := alike_run swapped twins_swapped "swapped" .null
  exact ⟨twins_swapped, by decide +kernel, hform⟩

end Model

end LinearDispatch
