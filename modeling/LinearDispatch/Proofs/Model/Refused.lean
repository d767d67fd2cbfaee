-- SUMMARY: The built mark after a refused lowering: it stays as it was, and it was set by hand, since a lowering only marks models that lower.
import LinearDispatch.Proofs.Adapter.Exits
import LinearDispatch.Proofs.Model.Built
import LinearDispatch.Proofs.Model.Interleaving

/-!
# Refused lowerings

Two kinds of step set the built mark. A lowering looks at every name before it
does so, a build by hand looks at nothing. As long as no edit goes through, the
program stays as the lowering saw it, so that a model which owes its mark to a
lowering is never refused. A refused lowering, whichever command asks for it,
leaves the mark alone: it is there afterwards exactly if the model was built by
hand and not changed since.
-/
namespace LinearDispatch.Model

variable {α : Type} [Scalar α] {m : Model α} {c : Command α}

/-! ## Refusals -/

/-- Whatever asks for the lowering is refused with it, and leaves the model alone. -/
theorem perform_of_denseForm_eq_error (hc : c.group = .lowering) {e : Error α}
    (h : m.denseForm = .error e) : m.perform c = .fail m e := by
  have heffect := effect_perform m c
  generalize m.perform c = o at heffect
  cases heffect with
  | lowered _ hform =>
    rw [h] at hform
    cases hform
  | unlowered _ hrefused =>
    rw [h] at hrefused
    cases hrefused
    rfl
  | restated group => cases group.symm.trans hc
  | refused hedits => simp [hc, Group.edits] at hedits
  | refusedHastily hhasty =>
    have hedits := edits_of_hasty hhasty
    simp [hc, Group.edits] at hedits
  | looked group => cases group.symm.trans hc
  | _ => cases hc

/-- Once a model is lowered, what is done with its form may fail, but not for the model's names. -/
theorem answer_ne_invalidModel (hc : c.group = .lowering) {f : DenseForm α}
    (h : m.denseForm = .ok f) (fault : ModelFault) :
    (m.perform c).answer ≠ .error (.invalidModel fault) := by
  cases c with
  | denseForm => simp [perform, Outcome.map, answer_lower, h, Except.map]
  | inequalities => simp [perform, inequalities, Outcome.map, answer_lower, h, Except.map]
  | boundedProgram library =>
    simp only [perform, boundedProgram, programOf, Outcome.map, Outcome.andThen, answer_lower, h]
    split <;> simp [Outcome.pure, Outcome.fail, Except.map]
  | readPoint point =>
    simp only [perform, lowerAndRead, readOver, Outcome.map, Outcome.andThen, answer_lower, h]
    split <;> simp [Outcome.pure, Outcome.fail, Except.map]
  | solve a =>
    have hexit := Adapter.exit_solve h a
    simp only [perform, Outcome.map]
    generalize (a.solve m).answer = answer at hexit
    cases hexit <;> simp [Except.map]
  | _ => cases hc

theorem denseForm_of_answer (hc : c.group = .lowering) {fault : ModelFault}
    (h : (m.perform c).answer = .error (.invalidModel fault)) :
    m.denseForm = .error (.invalidModel fault) := by
  cases hform : m.denseForm with
  | ok f => exact absurd h (answer_ne_invalidModel hc hform fault)
  | error e =>
    rw [perform_of_denseForm_eq_error hc hform] at h
    cases h
    rfl

/-! ## Marks set by hand -/

/-- Some step of the run builds the model by hand, and no later one resets. -/
def HandBuilt (m : Model α) (commands : List (Command α)) : Prop :=
  ∃ (i : Nat) (c : Command α), commands[i]? = some c ∧ c.group = .build ∧
    ∀ (j : Nat) d, i < j → commands[j]? = some d → (m.before commands j).resets d = false

theorem handBuilt_concat {commands : List (Command α)} :
    m.HandBuilt (commands ++ [c]) ↔
      c.group = .build ∨ m.HandBuilt commands ∧ (m.run commands).resets c = false := by
  have hlast : m.before (commands ++ [c]) commands.length = m.run commands := by
    rw [before_concat m commands c (Nat.le_refl _), before_length]
  rw [← hlast]
  refine exists_last_concat (fun _ _ _ => Iff.rfl) fun i d hi => ?_
  rw [before_concat m commands c (Nat.le_of_lt hi)]

theorem HandBuilt.finalised {commands : List (Command α)} (h : m.HandBuilt commands) :
    m.Finalised commands := by
  obtain ⟨i, c, hc, hbuild, hlater⟩ := h
  exact ⟨i, c, hc, by simp [finalises, hbuild], hlater⟩

/-- A step that does not reset leaves the variables, the constraints and the objective alone. -/
theorem parts_perform (h : m.resets c = false) :
    (m.perform c).state.vars = m.vars ∧ (m.perform c).state.constraints = m.constraints ∧
      (m.perform c).state.goal = m.goal := by
  have heffect := effect_perform m c
  rw [resets] at h
  generalize m.perform c = o at h heffect
  cases heffect with
  | declared => simp [Command.group, Group.edits] at h
  | constrained => simp [Command.group, Group.edits] at h
  | restated group => simp [group, Group.edits] at h
  | refusedHastily hhasty => simp [edits_of_hasty hhasty, hhasty] at h
  | lowered _ _ hstate _ =>
    rw [hstate]
    exact ⟨rfl, rfl, rfl⟩
  | _ => exact ⟨rfl, rfl, rfl⟩

theorem denseForm_perform (h : m.resets c = false) {f : DenseForm α} (hform : m.denseForm = .ok f) :
    (m.perform c).state.denseForm = .ok f := by
  obtain ⟨hvars, hconstraints, hgoal⟩ := parts_perform h
  exact denseForm_of_parts hvars.symm hconstraints.symm hgoal.symm hform

/-- A mark that was not set by hand vouches for every name: the lowering that set it saw the program
as it still is. -/
theorem exists_denseForm_of_built (hm : m.built = false) {commands : List (Command α)}
    (hbuilt : (m.run commands).built = true) (hhand : ¬ m.HandBuilt commands) :
    ∃ f, (m.run commands).denseForm = .ok f := by
  induction commands using List.reverseRecOn with
  | nil =>
    rw [run, List.foldl_nil, hm] at hbuilt
    cases hbuilt
  | append_singleton commands c ih =>
    rw [handBuilt_concat, not_or, not_and, Bool.not_eq_false] at hhand
    obtain ⟨hgroup, hearlier⟩ := hhand
    rw [run_concat, built_perform, Bool.or_eq_true, Bool.and_eq_true, Bool.not_eq_true'] at hbuilt
    rw [run_concat]
    rcases hbuilt with hfinalises | ⟨hbuilt, hkeeps⟩
    · have hkeeps : (m.run commands).resets c = false := by
        by_contra hresets
        rw [finalises_of_resets (by simpa using hresets)] at hfinalises
        cases hfinalises
      obtain ⟨f, hform⟩ : ∃ f, (m.run commands).denseForm = .ok f := by
        rw [finalises] at hfinalises
        split at hfinalises
        · next hbuild => exact absurd hbuild hgroup
        · cases hform : (m.run commands).denseForm with
          | ok f => exact ⟨f, rfl⟩
          | error e => simp [hform] at hfinalises
        · cases hfinalises
      exact ⟨f, denseForm_perform hkeeps hform⟩
    · have hhand : ¬ m.HandBuilt commands := by
        intro h
        rw [hearlier h] at hkeeps
        cases hkeeps
      obtain ⟨f, hform⟩ := ih hbuilt hhand
      exact ⟨f, denseForm_perform hkeeps hform⟩

/-- A lowering that is refused for a name leaves the model as it was, whichever command asked for
it. The model is built afterwards exactly if it was built by hand and no later step has reset
that. -/
theorem built_of_refused_lowering (name : String) (preferred : Literal α)
    (commands : List (Command α)) {c : Command α} (hc : c.group = .lowering) {fault : ModelFault} :
    let fresh : Model α := { name, preferred }
    let m := fresh.run commands
    (m.perform c).answer = .error (.invalidModel fault) →
      (m.perform c).state = m ∧
        ((m.perform c).state.built = true ↔ fresh.HandBuilt commands) := by
  intro fresh m h
  have hform : m.denseForm = .error (.invalidModel fault) := denseForm_of_answer hc h
  have hstate : (m.perform c).state = m := by rw [perform_of_denseForm_eq_error hc hform]; rfl
  refine ⟨hstate, ?_⟩
  rw [hstate]
  constructor
  · intro hbuilt
    by_contra hhand
    obtain ⟨f, hf⟩ := exists_denseForm_of_built rfl hbuilt hhand
    cases hform.symm.trans hf
  · intro hhand
    exact (built_run rfl commands).2 hhand.finalised

/-- A lowering that succeeds, a name that nobody declares, a build by hand, and an edit that is
refused after it. -/
def presumedCommands : List (Command Exact) :=
  [.addVariable "x" (.int 0) (.int 9), .denseForm, .setObjectiveCoefficient "ghost" (.int 1),
    .build, .addVariable "x" .null (.int 2)]

/-- A solve is refused, and the model is built although lowering has not seen its objective. -/
theorem built_of_refused_lowering_presumed :
    let fresh : Model Exact := { name := "presumed" }
    let m := fresh.run presumedCommands
    let c : Command Exact := .solve Adapter.exactBounded
    c.group = .lowering ∧
      (m.perform c).answer = .error (.invalidModel (.objectiveUnknown "ghost" "presumed")) ∧
      (m.perform c).state = m ∧ fresh.HandBuilt presumedCommands := by
  intro fresh m c
  have hrefused : (m.perform c).answer =
      .error (.invalidModel (.objectiveUnknown "ghost" "presumed")) := by
    rfl
  obtain ⟨hstate, hbuilt⟩ :=
    built_of_refused_lowering (α := Exact) "presumed" .null presumedCommands (c := c) rfl hrefused
  exact ⟨rfl, hrefused, hstate, hbuilt.1 rfl⟩

/-- A constraint on a variable that nobody declares, in a model that was built by hand. -/
def presumed : Model Exact :=
  Model.run { name := "presumed" }
    [.addConstraint "cap" (.ofList [("ghost", .int 1)]) (.text "<=") (.int 1), .build]

/-- The model is refused, by every adapter too, and it is still built. -/
theorem built_presumed_of_refused :
    presumed.Reachable ∧
      presumed.lower.answer = .error (.invalidModel (.constraintUnknown "cap" "ghost")) ∧
      presumed.lower.state.built = true ∧
      ∀ a : Adapter Exact,
        (a.solve presumed).answer = .error (.invalidModel (.constraintUnknown "cap" "ghost")) ∧
          (a.solve presumed).state.built = true :=
  ⟨⟨"presumed", .null, _, rfl⟩, rfl, rfl, fun _ => ⟨rfl, rfl⟩⟩

end LinearDispatch.Model
