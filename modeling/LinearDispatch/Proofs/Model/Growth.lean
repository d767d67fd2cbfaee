-- SUMMARY: Models only grow: the declarations of a model are the first ones of every later model, and what a name was once found to stand for it stands for ever.
import LinearDispatch.Proofs.Model.Lookup

/-!
# Growth

No command takes a declaration back or changes one. An effect appends one
declaration or leaves them all alone, so that the declarations before a run are
the first ones after it, entry for entry. A lookup finds the first declaration
of a name, which is still the first one when others follow: what was answered
once is answered at every later time, and a name that was taken is refused.
-/
namespace LinearDispatch

/-- The lookup that asks again for what a command answers: a declaration can be asked for by its
name, and a lookup can be repeated. -/
def Command.lookup? {α : Type} : Command α → Option (Command α)
  | .addVariable name ..   => some (.variableIndex name)
  | .addConstraint name .. => some (.constraintNamed name)
  | .variableIndex name    => some (.variableIndex name)
  | .constraintIndex name  => some (.constraintIndex name)
  | .variableNamed name    => some (.variableNamed name)
  | .constraintNamed name  => some (.constraintNamed name)
  | _                      => none

namespace Model

variable {α : Type}

/-! ## Longer models -/

/-- The declarations of a model are the first ones of another. -/
structure Extends (m m' : Model α) : Prop where
  vars : m.vars <+: m'.vars
  constraints : m.constraints <+: m'.constraints

namespace Extends

theorem refl (m : Model α) : m.Extends m :=
  ⟨List.prefix_refl _, List.prefix_refl _⟩

theorem trans {m m' m'' : Model α} (h : m.Extends m') (h' : m'.Extends m'') : m.Extends m'' :=
  ⟨h.vars.trans h'.vars, h.constraints.trans h'.constraints⟩

variable [Scalar α]

/-- Whatever a command comes to, it appends at most one declaration. -/
theorem effect {m : Model α} {c : Command α} {o : Outcome α (Model α) (Reply α)}
    (he : m.Effect c o) : m.Extends o.state := by
  cases he with
  | declared v => exact ⟨List.prefix_append _ [v], List.prefix_refl _⟩
  | constrained c => exact ⟨List.prefix_refl _, List.prefix_append _ [c]⟩
  | lowered _ _ hstate =>
    rw [hstate]
    exact ⟨List.prefix_refl _, List.prefix_refl _⟩
  | _ => exact ⟨List.prefix_refl _, List.prefix_refl _⟩

theorem perform (m : Model α) (c : Command α) : m.Extends (m.perform c).state :=
  effect (effect_perform m c)

theorem run (m : Model α) (commands : List (Command α)) : m.Extends (m.run commands) := by
  induction commands generalizing m with
  | nil => exact refl m
  | cons c commands ih => exact (perform m c).trans (ih _)

end Extends

/-! ## Lookups -/

section Lookups

variable {m m' : Model α} {name : String}

theorem variableIndex_eq_ok_iff {i : Nat} :
    m.variableIndex name = .ok i ↔ m.variableIndex? name = some i := by
  rw [variableIndex]
  split
  · next h => simp [h]
  · next h => simp [h]

theorem constraintIndex_eq_ok_iff {i : Nat} :
    m.constraintIndex name = .ok i ↔ m.constraintIndex? name = some i := by
  rw [constraintIndex]
  split
  · next h => simp [h]
  · next h => simp [h]

theorem variableNamed_eq_ok_iff {v : Variable α} :
    m.variableNamed name = .ok v ↔ m.vars.find? (·.name == name) = some v := by
  rw [variableNamed]
  split
  · next h => simp [h]
  · next h => simp [h]

theorem constraintNamed_eq_ok_iff {c : Constraint α} :
    m.constraintNamed name = .ok c ↔ m.constraints.find? (·.name == name) = some c := by
  rw [constraintNamed]
  split
  · next h => simp [h]
  · next h => simp [h]

namespace Extends

theorem variableIndex (h : m.Extends m') {i : Nat} (hi : m.variableIndex name = .ok i) :
    m'.variableIndex name = .ok i :=
  variableIndex_eq_ok_iff.2 (h.vars.findIdx?_eq_some (variableIndex_eq_ok_iff.1 hi))

theorem constraintIndex (h : m.Extends m') {i : Nat} (hi : m.constraintIndex name = .ok i) :
    m'.constraintIndex name = .ok i :=
  constraintIndex_eq_ok_iff.2 (h.constraints.findIdx?_eq_some (constraintIndex_eq_ok_iff.1 hi))

theorem variableNamed (h : m.Extends m') {v : Variable α} (hv : m.variableNamed name = .ok v) :
    m'.variableNamed name = .ok v :=
  variableNamed_eq_ok_iff.2 (h.vars.find?_eq_some (variableNamed_eq_ok_iff.1 hv))

theorem constraintNamed (h : m.Extends m') {c : Constraint α}
    (hc : m.constraintNamed name = .ok c) : m'.constraintNamed name = .ok c :=
  constraintNamed_eq_ok_iff.2 (h.constraints.find?_eq_some (constraintNamed_eq_ok_iff.1 hc))

theorem hasVariable (h : m.Extends m') (hname : m.hasVariable name = true) :
    m'.hasVariable name = true := by
  obtain ⟨i, hi⟩ := Option.isSome_iff_exists.1 hname
  exact Option.isSome_iff_exists.2 ⟨i, h.vars.findIdx?_eq_some hi⟩

theorem hasConstraint (h : m.Extends m') (hname : m.hasConstraint name = true) :
    m'.hasConstraint name = true := by
  obtain ⟨i, hi⟩ := Option.isSome_iff_exists.1 hname
  exact Option.isSome_iff_exists.2 ⟨i, h.constraints.findIdx?_eq_some hi⟩

end Extends

end Lookups

/-! ## Answers that stay -/

variable [Scalar α]

omit [Scalar α] in
/-- A look that is answered is answered in the same way of a longer model. -/
theorem Extends.look {m m' : Model α} {ρ : Type} {reply : ρ → Reply α}
    {x x' : Except (Error α) ρ} (h : ∀ y, x = .ok y → x' = .ok y) {r : Reply α}
    (hr : (m.look reply x).answer = .ok r) : (m'.look reply x').answer = .ok r := by
  obtain ⟨y, hy, rfl⟩ := map_eq_ok_iff.1 hr
  exact map_eq_ok_iff.2 ⟨y, h y hy, rfl⟩

theorem Extends.answer_lookup {m m' : Model α} (h : m.Extends m') {c q : Command α}
    (hq : c.lookup? = some q) {r : Reply α} (hr : (m.perform q).answer = .ok r) :
    (m'.perform q).answer = .ok r := by
  cases c with
  | addVariable => cases hq; exact look (fun _ => h.variableIndex) hr
  | addConstraint => cases hq; exact look (fun _ => h.constraintNamed) hr
  | variableIndex => cases hq; exact look (fun _ => h.variableIndex) hr
  | constraintIndex => cases hq; exact look (fun _ => h.constraintIndex) hr
  | variableNamed => cases hq; exact look (fun _ => h.variableNamed) hr
  | constraintNamed => cases hq; exact look (fun _ => h.constraintNamed) hr
  | _ => cases hq

/-- A variable that was just declared is found where it was put. -/
theorem answer_variableIndex_of_addVariable {m : Model α} {name : String} {lower upper : Literal α}
    {r : Reply α} (hr : (m.perform (.addVariable name lower upper)).answer = .ok r) :
    ((m.perform (.addVariable name lower upper)).state.perform (.variableIndex name)).answer
      = .ok r := by
  have heffect := effect_perform m (.addVariable name lower upper)
  generalize m.perform (.addVariable name lower upper) = o at hr heffect
  cases heffect with
  | declared v _ _ hfresh =>
    cases hr
    rw [hasVariable, Option.isSome_eq_false_iff, Option.isNone_iff_eq_none] at hfresh
    refine map_eq_ok_iff.2 ⟨_, variableIndex_eq_ok_iff.2 ?_, rfl⟩
    have hfound := Index.findIdx?_append_new Variable.name hfresh v.name
    rwa [if_pos rfl] at hfound
  | restated group => cases group
  | lowered group => cases group
  | looked group => cases group
  | _ => cases hr

/-- A constraint that was just stated is found as it was stated. -/
theorem answer_constraintNamed_of_addConstraint {m : Model α} {name : String}
    {coefficients : Table (Literal α)} {relation rhs : Literal α} {r : Reply α}
    (hr : (m.perform (.addConstraint name coefficients relation rhs)).answer = .ok r) :
    ((m.perform (.addConstraint name coefficients relation rhs)).state.perform
      (.constraintNamed name)).answer = .ok r := by
  have heffect := effect_perform m (.addConstraint name coefficients relation rhs)
  generalize m.perform (.addConstraint name coefficients relation rhs) = o at hr heffect
  cases heffect with
  | constrained c _ _ _ hfresh =>
    cases hr
    rw [hasConstraint, Option.isSome_eq_false_iff, Option.isNone_iff_eq_none] at hfresh
    have hnew : m.constraints.find? (·.name == c.name) = none := find?_eq_none_of_findIdx? hfresh
    refine map_eq_ok_iff.2 ⟨c, constraintNamed_eq_ok_iff.2 ?_, rfl⟩
    simp [List.find?_append, hnew]
  | restated group => cases group
  | lowered group => cases group
  | looked group => cases group
  | _ => cases hr

/-- Right after a command its lookup gives the same answer. -/
theorem answer_lookup_perform {m : Model α} {c q : Command α} (hq : c.lookup? = some q)
    {r : Reply α} (hr : (m.perform c).answer = .ok r) :
    ((m.perform c).state.perform q).answer = .ok r := by
  cases c with
  | addVariable => cases hq; exact answer_variableIndex_of_addVariable hr
  | addConstraint => cases hq; exact answer_constraintNamed_of_addConstraint hr
  | variableIndex => cases hq; exact hr
  | constraintIndex => cases hq; exact hr
  | variableNamed => cases hq; exact hr
  | constraintNamed => cases hq; exact hr
  | _ => cases hq

/-! ## Names that are taken -/

theorem perform_addVariable_of_taken {m : Model α} {name : String}
    (h : m.hasVariable name = true) (lower upper : Literal α) :
    m.perform (.addVariable name lower upper) = .fail m (.duplicateName "variable" name) := by
  rw [perform, addVariable, if_pos h]
  rfl

theorem perform_addConstraint_of_taken {m : Model α} {name : String}
    (h : m.hasConstraint name = true) (coefficients : Table (Literal α))
    (relation rhs : Literal α) :
    m.perform (.addConstraint name coefficients relation rhs)
      = .fail m (.duplicateName "constraint" name) := by
  rw [perform, addConstraint, if_pos h]
  rfl

/-! ## Runs -/

/-- The declarations of a model are the first ones of it after any further run. What a declaration
or a lookup was answered is answered to its lookup whenever it is asked again, and a name that is
taken is refused whenever it is declared again, which changes nothing. -/
theorem grows_run (m : Model α) (commands : List (Command α)) :
    let m' := m.run commands
    m.vars <+: m'.vars ∧ m.constraints <+: m'.constraints ∧
    (∀ c q r, c.lookup? = some q → (m.perform c).answer = .ok r →
      ((m.run (c :: commands)).perform q).answer = .ok r) ∧
    (∀ name, m.hasVariable name = true → ∀ lower upper,
      m'.perform (.addVariable name lower upper) = .fail m' (.duplicateName "variable" name)) ∧
    ∀ name, m.hasConstraint name = true → ∀ coefficients relation rhs,
      m'.perform (.addConstraint name coefficients relation rhs)
        = .fail m' (.duplicateName "constraint" name) := by
  intro m'
  have hextends : m.Extends m' := .run m commands
  refine ⟨hextends.vars, hextends.constraints, fun c q r hq hr => ?_, fun name h => ?_,
    fun name h => ?_⟩
  · have hlater : (m.perform c).state.Extends (m.run (c :: commands)) := .run _ commands
    exact hlater.answer_lookup hq (answer_lookup_perform hq hr)
  · exact perform_addVariable_of_taken (hextends.hasVariable h)
  · exact perform_addConstraint_of_taken (hextends.hasConstraint h)

/-- Names that come again, among other commands. -/
def repeatingCommands : List (Command Exact) :=
  [.addVariable "x" (.int 5) (.int 6), .build, .setObjectiveCoefficient "x" (.int 2),
    .addConstraint "row" .empty (.text ">=") (.int 0), .addVariable "y" (.int 0) (.int 3)]

theorem grows_run_repeating :
    let m : Model Exact := Model.run { name := "grown" } [.addVariable "x" (.int 0) (.int 1)]
    let c : Command Exact := .addConstraint "row" (.ofList [("x", .int 1)]) (.text "<=") (.int 4)
    let stated : Reply Exact :=
      .constraint ⟨"row", .ofList [("x", .finite 1)], .atMost, .finite 4⟩
    m.hasVariable "x" = true ∧ c.lookup? = some (.constraintNamed "row") ∧
      (m.perform c).answer = .ok stated ∧
      ((m.run (c :: repeatingCommands)).perform (.constraintNamed "row")).answer = .ok stated ∧
      ((m.run repeatingCommands).perform (.addVariable "x" .null .null)).answer
        = .error (.duplicateName "variable" "x") := by
  intro m c stated
  have hx : m.hasVariable "x" = true := by decide
  have hstated : (m.perform c).answer = .ok stated := by rfl
  obtain ⟨-, -, hlookup, hvariable, -⟩ := grows_run m repeatingCommands
  refine ⟨hx, rfl, hstated, hlookup c _ _ rfl hstated, ?_⟩
  rw [hvariable "x" hx]
  rfl

end Model

end LinearDispatch
