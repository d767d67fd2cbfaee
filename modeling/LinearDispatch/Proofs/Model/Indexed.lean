-- SUMMARY: An indexed model does what the model without its index does: the same answers, reports and engine calls, command by command and along every run.
import LinearDispatch.Proofs.Model.Growth
import LinearDispatch.Proofs.Model.Lookup

/-!
# Indexed models refine models

Forgetting the index turns an indexed model into a model. As long as the index
agrees with the declarations, performing a command and forgetting the index is
the same as forgetting it first, and the index that is left is the one in which
the command was entered, so that it agrees again. By induction this holds along
every run from a fresh model, and whatever is shown of runs of models is shown
of runs of indexed models.
-/
namespace LinearDispatch.IndexedModel

variable {α : Type} {t : IndexedModel α}

/-! ## Lookups -/

section Lookups

variable {δ : Type} {positions : Table Nat} {declared : List δ} {p : δ → Bool} {name : String}

theorem position_eq (h : positions.get? name = declared.findIdx? p) (kind : String) :
    position (α := α) positions kind name
      = (declared.findIdx? p).elim (.error (.notFound kind name)) .ok := by
  rw [position, h]
  cases declared.findIdx? p <;> rfl

/-- Where the table gives the position that a search finds, it leads to the same declaration. -/
theorem entity_eq (h : positions.get? name = declared.findIdx? p) (kind : String) :
    entity (α := α) positions declared kind name
      = (declared.find? p).elim (.error (.notFound kind name)) .ok := by
  rw [entity, h, ← List.find?_eq_bind_findIdx?_getElem?]
  cases declared.find? p <;> rfl

end Lookups

section Agreement

variable (h : t.index.Agrees t.model)
include h

theorem contains_variablePositions (name : String) :
    t.index.variablePositions.contains name = t.model.hasVariable name := by
  rw [Table.contains, h.variablePositions, Model.hasVariable]

theorem contains_constraintPositions (name : String) :
    t.index.constraintPositions.contains name = t.model.hasConstraint name := by
  rw [Table.contains, h.constraintPositions, Model.hasConstraint]

theorem entity_constraintPositions (name : String) :
    entity t.index.constraintPositions t.model.constraints "constraint" name
      = t.model.constraintNamed name := by
  rw [entity_eq (h.constraintPositions name), Model.constraintNamed_eq]

/-! ## Lowering -/

theorem lower_eq [Scalar α] : t.lower = t.model.lower := by
  have hpositions : t.index.variablePositions.get? = t.model.variableIndex? :=
    funext h.variablePositions
  have hrow : t.row = t.model.row := by
    funext coefficients
    rw [row, hpositions, Model.row]
  rw [lower, hrow, Model.lower, Model.denseForm]

end Agreement

/-! ## Commands -/

variable [Scalar α]

/-- A command does to the indexed model what it does to the model, and is entered in the index. -/
structure Follows (t : IndexedModel α) (c : Command α) : Prop where
  model : (t.perform c).mapState (·.model) = t.model.perform c
  index : (t.perform c).state.index = t.index.enter t.model c

theorem Follows.state_model {c : Command α} (h : t.Follows c) :
    (t.perform c).state.model = (t.model.perform c).state :=
  congrArg Outcome.state h.model

/-- A command that declares nothing leaves the index alone. -/
theorem follows_of_inside {c : Command α} (hdeclares : t.index.declare t.model c = t.index)
    (hperform : t.perform c = t.inside (t.model.perform c)) : t.Follows c where
  model := by rw [hperform]; rfl
  index := by
    rw [hperform, Model.Index.enter, hdeclares, ite_self]
    rfl

section Entering

variable {ρ : Type} {o : Outcome α (Model α) ρ}

omit [Scalar α] in
/-- Entering a declaration is not seen on the model. -/
theorem mapState_entering (index : Model.Index) :
    (t.entering o index).mapState (·.model) = o := by
  obtain ⟨state, answer, events, calls⟩ := o
  cases answer <;> simp [entering, inside, Outcome.andThen, Outcome.mapState, Outcome.pure]

omit [Scalar α] in
/-- What is refused is not entered. -/
theorem index_entering (index : Model.Index) :
    (t.entering o index).state.index = if o.answer.isOk then index else t.index := by
  obtain ⟨state, answer, events, calls⟩ := o
  cases answer <;> rfl

/-- A declaration under a new name is entered. -/
theorem follows_of_entering {c : Command α} {reply : ρ → Reply α}
    (hperform : t.perform c = (t.entering o (t.index.declare t.model c)).map reply)
    (hmodel : t.model.perform c = o.map reply) : t.Follows c where
  model := by
    rw [hperform, hmodel]
    exact congrArg (Outcome.map reply) (mapState_entering _)
  index := by
    rw [hperform, Model.Index.enter, hmodel]
    refine (index_entering _).trans ?_
    obtain ⟨state, answer, events, calls⟩ := o
    cases answer <;> rfl

end Entering

/-- A name that is taken is refused and not entered. -/
theorem follows_of_refused {c : Command α} {e : Error α} (hperform : t.perform c = .fail t e)
    (hmodel : t.model.perform c = .fail t.model e) : t.Follows c where
  model := by rw [hperform, hmodel]; rfl
  index := by rw [hperform, Model.Index.enter, hmodel]; rfl

theorem follows_addVariable (h : t.index.Agrees t.model) (name : String)
    (lower upper : Literal α) : t.Follows (.addVariable name lower upper) := by
  have hknown := contains_variablePositions h name
  cases htaken : t.model.hasVariable name with
  | true =>
    refine follows_of_refused ?_ (Model.perform_addVariable_of_taken htaken lower upper)
    rw [perform, addVariable, hknown, htaken]
    rfl
  | false =>
    have hmodel : t.model.perform (.addVariable name lower upper) =
        (t.model.appendVariable name lower upper).map .position := by
      rw [Model.perform, Model.addVariable, htaken]
      rfl
    refine follows_of_entering ?_ hmodel
    rw [perform, addVariable, hknown, htaken]
    rfl

theorem follows_addConstraint (h : t.index.Agrees t.model) (name : String)
    (coefficients : Table (Literal α)) (relation rhs : Literal α) :
    t.Follows (.addConstraint name coefficients relation rhs) := by
  have hknown := contains_constraintPositions h name
  cases htaken : t.model.hasConstraint name with
  | true =>
    refine follows_of_refused ?_
      (Model.perform_addConstraint_of_taken htaken coefficients relation rhs)
    rw [perform, addConstraint, hknown, htaken]
    rfl
  | false =>
    have hmodel : t.model.perform (.addConstraint name coefficients relation rhs) =
        (t.model.appendConstraint name coefficients relation rhs).map .constraint := by
      rw [Model.perform, Model.addConstraint, htaken]
      rfl
    refine follows_of_entering ?_ hmodel
    rw [perform, addConstraint, hknown, htaken]
    rfl

/-- Every command follows the model, as long as the index agrees with it. -/
theorem follows (h : t.index.Agrees t.model) (c : Command α) : t.Follows c := by
  cases c with
  | addVariable name lower upper => exact follows_addVariable h name lower upper
  | addConstraint name coefs relation rhs => exact follows_addConstraint h name coefs relation rhs
  | variableIndex name =>
    refine follows_of_inside rfl ?_
    rw [perform, position_eq (h.variablePositions name), Model.perform, Model.variableIndex_eq]
  | constraintIndex name =>
    refine follows_of_inside rfl ?_
    rw [perform, position_eq (h.constraintPositions name), Model.perform, Model.constraintIndex_eq]
  | variableNamed name =>
    refine follows_of_inside rfl ?_
    rw [perform, entity_eq (h.variablePositions name), Model.perform, Model.variableNamed_eq]
  | constraintNamed name =>
    refine follows_of_inside rfl ?_
    rw [perform, entity_constraintPositions h, Model.perform]
  | coefficient constraint name =>
    refine follows_of_inside rfl ?_
    rw [perform, entity_constraintPositions h, Model.perform]
  | hasVariable name =>
    refine follows_of_inside rfl ?_
    rw [perform, contains_variablePositions h, Model.perform]
  | hasConstraint name =>
    refine follows_of_inside rfl ?_
    rw [perform, contains_constraintPositions h, Model.perform]
  | denseForm =>
    refine follows_of_inside rfl ?_
    rw [perform, lower_eq h, Model.perform]
  | inequalities =>
    refine follows_of_inside rfl ?_
    rw [perform, lower_eq h, Model.perform, Model.inequalities]
  | boundedProgram library =>
    refine follows_of_inside rfl ?_
    rw [perform, lower_eq h, Model.perform, Model.boundedProgram]
  | readPoint point =>
    refine follows_of_inside rfl ?_
    rw [perform, lower_eq h, Model.perform, Model.lowerAndRead]
  | solve adapter =>
    refine follows_of_inside rfl ?_
    rw [perform, lower_eq h, Model.perform, Adapter.solve]
  | _ => exact follows_of_inside rfl rfl

theorem agrees_perform (h : t.index.Agrees t.model) (c : Command α) :
    (t.perform c).state.index.Agrees (t.perform c).state.model := by
  have hfollows := follows h c
  rw [hfollows.state_model, hfollows.index]
  exact h.enter c

/-! ## Runs -/

/-- A run of an indexed model is the run of its model, with the index that is kept along it. -/
theorem run_eq (h : t.index.Agrees t.model) (commands : List (Command α)) :
    t.run commands = ⟨t.model.run commands, t.index.along t.model commands⟩ := by
  induction commands generalizing t with
  | nil => rfl
  | cons c commands ih =>
    have hfollows := follows h c
    have hrun := ih (agrees_perform h c)
    rw [hfollows.state_model, hfollows.index] at hrun
    exact hrun

/-- Whatever was asked of an indexed model from its start, refused commands included: its next
command is answered, reported and handed to engines as that of the model without the index is, and
leaves the same model. -/
theorem perform_run (name : String) (preferred : Literal α) (commands : List (Command α))
    (c : Command α) :
    let fresh : IndexedModel α := { model := { name, preferred } }
    ((fresh.run commands).perform c).mapState (·.model) = (fresh.model.run commands).perform c := by
  intro fresh
  have hfresh : fresh.index.Agrees fresh.model := ⟨fun _ => rfl, fun _ => rfl⟩
  rw [run_eq hfresh]
  exact (follows (hfresh.along commands) c).model

end LinearDispatch.IndexedModel
