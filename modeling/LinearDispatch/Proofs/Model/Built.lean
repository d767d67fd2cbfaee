-- SUMMARY: The built mark: what a refused edit leaves, which steps set the mark, take it away or keep it, and when the loss of the mark is reported.
import Mathlib.Data.List.Induction
import LinearDispatch.Number.Exact
import LinearDispatch.Proofs.Except
import LinearDispatch.Proofs.Last
import LinearDispatch.Proofs.Model.Effect

/-!
# The built mark

A model that was built or lowered is marked until it is changed. An edit that
is refused leaves the model as it was, with one exception: a hasty edit has
taken the mark away by the time its numbers turn out to be none. The mark after
a run is therefore settled by the last step that finalises or resets, and the
loss of the mark is reported by the very step that takes it.
-/
namespace LinearDispatch.Model

variable {α : Type} [Scalar α]

/-! ## Refused edits -/

/-- An edit that is refused leaves nothing behind but a lost mark and its report, and these only
if it is a hasty edit whose numbers are none. -/
theorem perform_of_refused (m : Model α) (c : Command α) (hedits : c.group.edits = true)
    {e : Error α} (h : (m.perform c).answer = .error e) :
    (m.perform c).state = (if m.hasty c then m.unbuilt else m) ∧
    (m.perform c).events = (if m.hasty c then m.changeEvents else []) ∧
    (m.hasty c = true → ∃ fault, e = .notNumber fault) := by
  have heffect := effect_perform m c
  generalize m.perform c = o at h heffect
  cases heffect with
  | refused _ hpatient e => simp [hpatient, Outcome.fail]
  | refusedHastily hhasty fault =>
    cases h
    simp [hhasty]
  | lowered group => simp [group, Group.edits] at hedits
  | unlowered group => simp [group, Group.edits] at hedits
  | looked group => simp [group, Group.edits] at hedits
  | _ => cases h

/-- A model with one variable that was built. -/
def marked : Model Exact :=
  Model.run { name := "marked" } [.addVariable "x" (.int 0) (.int 1), .build]

/-- A constraint without a relation is refused before the mark is touched. -/
theorem perform_of_refused_marked :
    let c : Command Exact := .addConstraint "late" (.ofList [("y", .int 1)]) (.text "<") (.int 0)
    c.group.edits = true ∧ (marked.perform c).answer = .error (.badRelation (.text "<")) ∧
      (marked.perform c).state = marked ∧ (marked.perform c).events = [] := by
  intro c
  have hrefused : (marked.perform c).answer = .error (.badRelation (.text "<")) := by rfl
  obtain ⟨hstate, hevents, -⟩ := perform_of_refused marked c rfl hrefused
  exact ⟨rfl, hrefused, hstate, hevents⟩

/-- A bound and a coefficient that are no numbers are refused, and yet the mark is gone and its loss
is reported. -/
theorem perform_marked_hasty :
    marked.Reachable ∧
    ∀ c ∈ [Command.addVariable "y" (.text "abc") (.int 1),
        .setObjectiveCoefficient "x" (.text "abc")],
      (marked.perform c).answer = .error (.notNumber (.unreadable "abc")) ∧
        (marked.perform c).state ≠ marked ∧
        (marked.perform c).events = [.changedAfterBuild "marked"] := by
  have hlost : marked.unbuilt ≠ marked := by
    intro h
    cases congrArg Model.built h
  refine ⟨⟨"marked", .null, _, rfl⟩, ?_⟩
  rw [List.forall_mem_cons, List.forall_mem_singleton]
  exact ⟨⟨rfl, hlost, rfl⟩, ⟨rfl, hlost, rfl⟩⟩

/-! ## Steps -/

/-- Whether a step finalises the model: a build does, and a lowering that is not refused. -/
def finalises (m : Model α) (c : Command α) : Bool :=
  match c.group with
  | .build    => true
  | .lowering => m.denseForm.isOk
  | _         => false

/-- Whether a step takes the built mark away: an edit that goes through does, and a hasty one
whether or not it goes through. -/
def resets (m : Model α) (c : Command α) : Bool :=
  c.group.edits && ((m.perform c).answer.isOk || m.hasty c)

/-- The steps that have no business with the mark. -/
inductive Idle (m : Model α) (c : Command α) : Prop where
  | inquiry (group : c.group = .inquiry)
  | preference (group : c.group = .preference)
  | refusedLowering (group : c.group = .lowering) {e : Error α} (refusal : m.denseForm = .error e)
  | refusedEdit (edits : c.group.edits = true) {e : Error α}
    (refusal : (m.perform c).answer = .error e) (patient : m.hasty c = false)

theorem finalises_of_edits {m : Model α} {c : Command α} (h : c.group.edits = true) :
    m.finalises c = false := by
  rw [finalises]
  split
  · next hgroup => simp [hgroup, Group.edits] at h
  · next hgroup => simp [hgroup, Group.edits] at h
  · rfl

omit [Scalar α] in
theorem edits_of_hasty {m : Model α} {c : Command α} (h : m.hasty c = true) :
    c.group.edits = true := by
  cases c with
  | addVariable => rfl
  | setObjectiveCoefficient => rfl
  | _ => cases h

/-- A step that finalises sets the mark, one that resets takes it away, every other one keeps it. -/
theorem built_perform (m : Model α) (c : Command α) :
    (m.perform c).state.built = (m.finalises c || (m.built && !m.resets c)) := by
  have heffect := effect_perform m c
  rw [resets]
  generalize m.perform c = o at heffect
  cases heffect with
  | declared => simp [finalises, Command.group, Group.edits, unbuilt]
  | constrained => simp [finalises, Command.group, Group.edits, unbuilt]
  | restated group => simp [finalises, group, Group.edits, unbuilt]
  | refused hedits hpatient e => simp [finalises_of_edits hedits, hpatient, Outcome.fail]
  | refusedHastily hhasty fault =>
    have hedits := edits_of_hasty hhasty
    simp [finalises_of_edits hedits, hedits, hhasty, unbuilt]
  | built => simp [finalises, Command.group]
  | lowered group hform hstate _ => simp [finalises, group, hform, hstate]
  | unlowered group hform => simp [finalises, group, hform, Group.edits, Outcome.fail]
  | preferred => simp [finalises, Command.group, Group.edits]
  | looked group => simp [finalises, group, Group.edits]

theorem finalises_of_resets {m : Model α} {c : Command α} (h : m.resets c = true) :
    m.finalises c = false := by
  rw [resets, Bool.and_eq_true] at h
  exact finalises_of_edits h.1

theorem Idle.finalises_eq {m : Model α} {c : Command α} (h : m.Idle c) : m.finalises c = false := by
  cases h with
  | inquiry group => simp [finalises, group]
  | preference group => simp [finalises, group]
  | refusedLowering group hform => simp [finalises, group, hform]
  | refusedEdit hedits => exact finalises_of_edits hedits

theorem Idle.resets_eq {m : Model α} {c : Command α} (h : m.Idle c) : m.resets c = false := by
  cases h with
  | inquiry group => simp [resets, group, Group.edits]
  | preference group => simp [resets, group, Group.edits]
  | refusedLowering group => simp [resets, group, Group.edits]
  | refusedEdit _ hrefused hpatient => simp [resets, hrefused, hpatient]

/-! ## Reports -/

omit [Scalar α] in
theorem mem_changeEvents {m : Model α} {model : String} :
    .changedAfterBuild model ∈ m.changeEvents ↔ model = m.name ∧ m.built = true := by
  rw [changeEvents]
  split
  · next h => simp [h]
  · next h => simp [h]

/-- The loss of the mark is reported by the step that takes it, and by no other. -/
theorem mem_events_perform {m : Model α} {c : Command α} {model : String} :
    .changedAfterBuild model ∈ (m.perform c).events ↔
      model = m.name ∧ m.built = true ∧ (m.perform c).state.built = false := by
  have heffect := effect_perform m c
  generalize m.perform c = o at heffect
  cases heffect with
  | declared => simp [mem_changeEvents, unbuilt]
  | constrained => simp [mem_changeEvents, unbuilt]
  | restated => simp [mem_changeEvents, unbuilt]
  | refused => simp [Outcome.fail]
  | refusedHastily => simp [mem_changeEvents, unbuilt]
  | built => simp [quiet_buildEvents m model]
  | lowered _ _ hstate hquiet => simp [hquiet model, hstate]
  | unlowered => simp [Outcome.fail]
  | preferred => simp
  | looked => simp

/-! ## Runs -/

/-- The model as the command at a position of a run finds it. -/
def before (m : Model α) (commands : List (Command α)) (i : Nat) : Model α :=
  m.run (commands.take i)

/-- Some step of the run finalises, and no later one resets. -/
def Finalised (m : Model α) (commands : List (Command α)) : Prop :=
  ∃ (i : Nat) (c : Command α), commands[i]? = some c ∧ (m.before commands i).finalises c = true ∧
    ∀ (j : Nat) d, i < j → commands[j]? = some d → (m.before commands j).resets d = false

theorem run_concat (m : Model α) (commands : List (Command α)) (c : Command α) :
    m.run (commands ++ [c]) = ((m.run commands).perform c).state := by
  simp [run]

theorem before_length (m : Model α) (commands : List (Command α)) :
    m.before commands commands.length = m.run commands := by
  rw [before, List.take_length]

/-- Later commands do not change what an earlier one found. -/
theorem before_concat (m : Model α) (commands : List (Command α)) (c : Command α) {i : Nat}
    (hi : i ≤ commands.length) : m.before (commands ++ [c]) i = m.before commands i := by
  rw [before, before, List.take_append_of_le_length hi]

/-- The last step of a run finalises, or it does not reset what the steps before it left. -/
theorem finalised_concat {m : Model α} {commands : List (Command α)} {c : Command α} :
    m.Finalised (commands ++ [c]) ↔
      (m.run commands).finalises c = true ∨
        m.Finalised commands ∧ (m.run commands).resets c = false := by
  have hlast : m.before (commands ++ [c]) commands.length = m.run commands := by
    rw [before_concat m commands c (Nat.le_refl _), before_length]
  have hbefore : ∀ i < commands.length, m.before (commands ++ [c]) i = m.before commands i :=
    fun i hi => before_concat m commands c (Nat.le_of_lt hi)
  rw [← hlast]
  exact exists_last_concat (fun i d hi => by rw [hbefore i hi]) fun i d hi => by rw [hbefore i hi]

/-- A model without the mark has it after a run that is finalised, and after no other. -/
theorem built_run {m : Model α} (hm : m.built = false) (commands : List (Command α)) :
    (m.run commands).built = true ↔ m.Finalised commands := by
  induction commands using List.reverseRecOn with
  | nil => simp [run, hm, Finalised]
  | append_singleton commands c ih =>
    rw [run_concat, built_perform, finalised_concat, ← ih]
    simp

/-- The mark at the end of a run from a fresh model, what each step of the run does with it, and
which steps report its loss. -/
theorem built_run_iff (name : String) (preferred : Literal α) (commands : List (Command α)) :
    let fresh : Model α := { name, preferred }
    ((fresh.run commands).built = true ↔ fresh.Finalised commands) ∧
    ∀ (i : Nat) c, commands[i]? = some c →
      let m := fresh.before commands i
      let o := m.perform c
      (m.finalises c = true → o.state.built = true) ∧
      (m.resets c = true → o.state.built = false) ∧
      (m.Idle c → o.state.built = m.built) ∧
      ∀ model, .changedAfterBuild model ∈ o.events ↔
        model = m.name ∧ m.built = true ∧ o.state.built = false := by
  intro fresh
  refine ⟨built_run rfl commands, fun i c _ => ?_⟩
  intro m o
  have hbuilt : o.state.built = (m.finalises c || (m.built && !m.resets c)) := built_perform m c
  refine ⟨fun hfinalises => ?_, fun hresets => ?_, fun hidle => ?_, fun model => mem_events_perform⟩
  · rw [hbuilt, hfinalises, Bool.true_or]
  · rw [hbuilt, finalises_of_resets hresets, hresets]
    simp
  · rw [hbuilt, hidle.finalises_eq, hidle.resets_eq]
    simp

/-- A name that comes twice keeps the mark, a bound that is no number takes it away, and a lowering
brings it back. -/
def markedCommands : List (Command Exact) :=
  [.addVariable "x" (.int 0) (.int 1), .build, .addVariable "x" .null (.int 2),
    .addVariable "y" (.text "abc") (.int 2), .setObjective .empty (.text "max"), .denseForm,
    .variableIndex "y"]

theorem built_run_iff_marked :
    let fresh : Model Exact := { name := "marked" }
    let c : Command Exact := .addVariable "y" (.text "abc") (.int 2)
    markedCommands[3]? = some c ∧ (fresh.before markedCommands 3).resets c = true ∧
      ((fresh.before markedCommands 3).perform c).state.built = false ∧
      .changedAfterBuild "marked" ∈ ((fresh.before markedCommands 3).perform c).events ∧
      fresh.Finalised markedCommands := by
  intro fresh c
  obtain ⟨hrun, hsteps⟩ := built_run_iff (α := Exact) "marked" .null markedCommands
  have hresets : (fresh.before markedCommands 3).resets c = true := by rfl
  obtain ⟨-, hreset, -, hreport⟩ := hsteps 3 c rfl
  exact ⟨rfl, hresets, hreset hresets, (hreport "marked").2 ⟨rfl, rfl, hreset hresets⟩,
    hrun.1 rfl⟩

end LinearDispatch.Model
