-- SUMMARY: Stating the objective: coefficient by coefficient or all at once comes to the same model, and stating it anew leaves nothing of what was stated before.
import LinearDispatch.Proofs.Model.Built
import LinearDispatch.Proofs.Model.Interleaving

/-!
# Stating the objective

The objective can be stated entry by entry, with the direction on its own, or
as a whole. Entries are merged into the objective that is there: a name that
comes again keeps its place and takes the later coefficient, just as it does in
a table of pairs. So the two ways come to the same where there was no objective
before. A whole statement replaces objective and direction together, and what
comes of it depends on the rest of the model alone. Of a run before it, only
the commands of other groups leave a trace.
-/
namespace LinearDispatch

/-- State coefficients one after the other, and then the direction. -/
def Command.chain {α : Type} (pairs : List (String × Literal α)) (direction : Literal α) :
    List (Command α) :=
  pairs.map (fun e => .setObjectiveCoefficient e.1 e.2) ++ [.setDirection direction]

namespace Model

variable {α : Type} [Scalar α]

/-! ## Entry by entry -/

theorem perform_setObjectiveCoefficient {coefficient : Literal α} {x : α}
    (h : coefficient.toScalar = .ok x) (m : Model α) (name : String) :
    m.perform (.setObjectiveCoefficient name coefficient) =
      { state := { m.unbuilt with objective := m.objective.insert name x }
        answer := .ok .done
        events := m.changeEvents } := by
  simp [perform, setObjectiveCoefficient, h, Outcome.map, Except.map]

theorem perform_setDirection {direction : Literal α} {d : Direction}
    (h : Direction.ofLiteral? direction = some d) (m : Model α) :
    m.perform (.setDirection direction) =
      { state := { m.unbuilt with direction := d }
        answer := .ok .done
        events := m.changeEvents } := by
  simp [perform, setDirection, h, Outcome.map, Except.map]

/-- Coefficients that are numbers and a direction that can be read are never refused. -/
theorem answer_perform_of_mem_chain {pairs : List (String × Literal α)} {direction : Literal α}
    {d : Direction} (hnumbers : ∀ e ∈ pairs, ∃ x, e.2.toScalar = .ok x)
    (hd : Direction.ofLiteral? direction = some d) {c : Command α}
    (hc : c ∈ Command.chain pairs direction) (m : Model α) : (m.perform c).answer = .ok .done := by
  rcases List.mem_append.1 hc with hc | hc
  · obtain ⟨e, he, rfl⟩ := List.mem_map.1 hc
    obtain ⟨x, hx⟩ := hnumbers e he
    rw [perform_setObjectiveCoefficient hx]
  · obtain rfl := List.mem_singleton.1 hc
    rw [perform_setDirection hd]

/-- Every entry of a chain is merged into the objective, and the direction is the one at its end. -/
theorem run_chain {pairs : List (String × Literal α)} {numbers : List (String × α)}
    {direction : Literal α} {d : Direction} (h : Table.convert Literal.toScalar pairs = .ok numbers)
    (hd : Direction.ofLiteral? direction = some d) (m : Model α) :
    m.run (Command.chain pairs direction) =
      { m with
        objective := numbers.foldl (fun t (name, x) => t.insert name x) m.objective
        direction := d
        built := false } := by
  induction pairs generalizing numbers m with
  | nil =>
    cases h
    exact congrArg Outcome.state (perform_setDirection hd m)
  | cons e pairs ih =>
    obtain ⟨name, coefficient⟩ := e
    obtain ⟨x, xs, hx, hxs, rfl⟩ := Table.convert_cons_eq_ok h
    have hstep := congrArg Outcome.state (perform_setObjectiveCoefficient hx m name)
    calc m.run (Command.chain ((name, coefficient) :: pairs) direction)
        = (m.perform (.setObjectiveCoefficient name coefficient)).state.run
            (Command.chain pairs direction) := rfl
      _ = _ := by rw [hstep, ih hxs]; rfl

/-! ## As a whole -/

/-- The model without its objective, its direction and its built mark. -/
def bare (m : Model α) : Model α :=
  { m with objective := .empty, direction := .maximize, built := false }

theorem perform_setObjective {coefficients : Table (Literal α)} {table : Table α}
    {direction : Literal α} {d : Direction}
    (h : coefficients.traverse Literal.toScalar = .ok table)
    (hd : Direction.ofLiteral? direction = some d) (m : Model α) :
    m.perform (.setObjective coefficients direction) =
      { state := { m.bare with objective := table, direction := d }
        answer := .ok .done
        events := m.changeEvents } := by
  simp [perform, setObjective, h, hd, Outcome.map, Except.map, unbuilt, bare]

/-- Whether a whole statement goes through does not depend on the model, and what it comes to depends
on the bare model. -/
theorem perform_setObjective_of_answer {coefficients : Table (Literal α)} {direction : Literal α}
    {m : Model α} (h : (m.perform (.setObjective coefficients direction)).answer = .ok .done) :
    ∃ (table : Table α) (d : Direction), ∀ m' : Model α,
      m'.perform (.setObjective coefficients direction) =
        { state := { m'.bare with objective := table, direction := d }
          answer := .ok .done
          events := m'.changeEvents } := by
  rw [perform, setObjective] at h
  split at h
  · cases h
  · next table htable =>
    split at h
    · cases h
    · next d hd => exact ⟨table, d, perform_setObjective htable hd⟩

/-! ## The bare model -/

omit [Scalar α] in
theorem bare_eq_iff {m m' : Model α} :
    m.bare = m'.bare ↔ m.name = m'.name ∧ m.vars = m'.vars ∧ m.constraints = m'.constraints ∧
      m.preferred = m'.preferred := by
  simp [bare]

/-- The bare model evolves on its own. -/
theorem bare_perform_congr {m m' : Model α} (h : m.bare = m'.bare) (c : Command α) :
    (m.perform c).state.bare = (m'.perform c).state.bare := by
  obtain ⟨hname, hvars, hconstraints, hpreferred⟩ := bare_eq_iff.1 h
  refine bare_eq_iff.2 ⟨?_, owns_vars.perform_congr hvars c,
    owns_constraints.perform_congr hconstraints c, owns_preferred.perform_congr hpreferred c⟩
  rw [(effect_perform m c).name_eq, (effect_perform m' c).name_eq, hname]

/-- Whatever is stated of the objective or the direction, the bare model stays as it is. -/
theorem bare_perform_of_objective {m : Model α} {c : Command α} (hc : c.group = .objective) :
    (m.perform c).state.bare = m.bare := by
  have hother : ∀ {g : Group}, g ≠ .objective → c.group ≠ g := fun hg heq => hg (heq.symm.trans hc)
  exact bare_eq_iff.2 ⟨(effect_perform m c).name_eq, owns_vars.frame m c (hother (by decide)),
    owns_constraints.frame m c (hother (by decide)), owns_preferred.frame m c (hother (by decide))⟩

/-- Commands on the objective leave no trace in the bare model, wherever they stand in a run. -/
theorem bare_run_filter {m m' : Model α} (h : m.bare = m'.bare) (commands : List (Command α)) :
    (m.run commands).bare = (m'.run (commands.filter (·.group ≠ .objective))).bare := by
  induction commands generalizing m m' with
  | nil => exact h
  | cons c commands ih =>
    by_cases hc : c.group = .objective
    · rw [List.filter_cons_of_neg (by simpa using hc)]
      exact ih ((bare_perform_of_objective hc).trans h)
    · rw [List.filter_cons_of_pos (by simpa using hc)]
      exact ih (bare_perform_congr h c)

/-! ## The two ways -/

/-- A chain of coefficients that starts without an objective comes to what the table of its pairs
comes to. No step of either is refused, and afterwards the objective is that table, the direction is
the one given, the model is not built, and the rest is as it was. A whole statement that goes through
comes to the same for models that differ in objective and direction only. So all commands on either
before it might as well have been left out of a run. -/
theorem run_chain_eq_setObjective :
    (∀ (pairs : List (String × Literal α)) (direction : Literal α) (d : Direction) (m : Model α),
      (∀ e ∈ pairs, ∃ x, e.2.toScalar = .ok x) → Direction.ofLiteral? direction = some d →
      m.objective = .empty →
      let whole := m.perform (.setObjective (.ofList pairs) direction)
      (∀ c ∈ Command.chain pairs direction, ∀ m' : Model α, (m'.perform c).answer = .ok .done) ∧
      whole.answer = .ok .done ∧
      m.run (Command.chain pairs direction) = whole.state ∧
      ∃ numbers, Table.convert Literal.toScalar pairs = .ok numbers ∧
        whole.state = { m with objective := .ofList numbers, direction := d, built := false }) ∧
    ∀ (coefficients : Table (Literal α)) (direction : Literal α) (m : Model α),
      let restate : Command α := .setObjective coefficients direction
      (m.perform restate).answer = .ok .done →
      (∀ m' : Model α, m' = { m with objective := m'.objective, direction := m'.direction } →
        m'.perform restate = m.perform restate) ∧
      ∀ commands : List (Command α),
        ((m.run commands).perform restate).answer = .ok .done ∧
        ((m.run commands).perform restate).state =
          ((m.run (commands.filter (·.group ≠ .objective))).perform restate).state := by
  constructor
  · intro pairs direction d m hnumbers hd hempty whole
    obtain ⟨numbers, hconvert⟩ := Table.exists_convert_iff.2 hnumbers
    have hwhole : whole = _ := perform_setObjective (Table.traverse_ofList hconvert) hd m
    have hchain := run_chain hconvert hd m
    rw [hempty] at hchain
    rw [hwhole]
    exact ⟨fun c => answer_perform_of_mem_chain hnumbers hd, rfl, hchain, numbers, hconvert, rfl⟩
  · intro coefficients direction m restate h
    obtain ⟨table, d, hrestate⟩ := perform_setObjective_of_answer h
    refine ⟨fun m' hm' => ?_, fun commands => ⟨?_, ?_⟩⟩
    · have hbare : m'.bare = m.bare := by rw [hm']; rfl
      have hevents : m'.changeEvents = m.changeEvents := by rw [hm']; rfl
      rw [hrestate, hrestate, hbare, hevents]
    · rw [hrestate]
    · rw [hrestate, hrestate, bare_run_filter rfl commands]

/-- Entries of a name that comes again and of one that nobody declared, with numbers in several
spellings. -/
def repeatedPairs : List (String × Literal Exact) :=
  [("x", .int 2), ("ghost", .bool true), ("y", .text " 1.5 "), ("x", .int (-3))]

/-- Steps on the objective, one of them refused, around a declaration. -/
def wavering : List (Command Exact) :=
  [.setObjectiveCoefficient "z" (.int 9), .setDirection (.text "min"),
    .addVariable "z" (.int 0) (.int 1), .setObjectiveCoefficient "z" (.text "abc"), .build]

/-- The repeated name stays in front with its last coefficient. What was stated before is gone,
whether it was there from the start or comes of the steps around a declaration. -/
theorem run_chain_eq_setObjective_repeated :
    let direction : Literal Exact := .text " Maximum"
    let restate : Command Exact := .setObjective (.ofList repeatedPairs) direction
    let biased : Model Exact :=
      { marked with objective := .ofList [("z", .finite 7)], direction := .minimize }
    (∀ e ∈ repeatedPairs, ∃ x, e.2.toScalar = .ok x) ∧
    Direction.ofLiteral? direction = some .maximize ∧ marked.objective = .empty ∧
    marked.run (Command.chain repeatedPairs direction) = (marked.perform restate).state ∧
    (marked.perform restate).state.objective.entries =
      [("x", .finite (-3)), ("ghost", .finite 1), ("y", .finite (3 / 2))] ∧
    (marked.perform restate).state.built = false ∧
    biased.perform restate = marked.perform restate ∧
    ((marked.run wavering).perform restate).state =
      ((marked.run [.addVariable "z" (.int 0) (.int 1), .build]).perform restate).state := by
  intro direction restate biased
  have hconvert : Table.convert Literal.toScalar repeatedPairs =
      .ok [("x", .finite 2), ("ghost", .finite 1), ("y", .finite (3 / 2)), ("x", .finite (-3))] := by
    decide +kernel
  have hnumbers : ∀ e ∈ repeatedPairs, ∃ x, e.2.toScalar = .ok x :=
    Table.exists_convert_iff.1 ⟨_, hconvert⟩
  have hd : Direction.ofLiteral? direction = some .maximize := by decide +kernel
  have hempty : marked.objective = .empty := by rfl
  obtain ⟨hchain, hwhole⟩ := run_chain_eq_setObjective (α := Exact)
  obtain ⟨-, hanswer, hrun, numbers, hconverted, hstate⟩ :=
    hchain repeatedPairs direction .maximize marked hnumbers hd hempty
  obtain rfl : numbers = _ := Except.ok.inj (hconverted.symm.trans hconvert)
  obtain ⟨hbiased, hcommands⟩ := hwhole (.ofList repeatedPairs) direction marked hanswer
  refine ⟨hnumbers, hd, hempty, hrun, ?_, ?_, hbiased biased rfl, (hcommands wavering).2⟩
  · rw [hstate]
    rfl
  · rw [hstate]

end Model

end LinearDispatch
