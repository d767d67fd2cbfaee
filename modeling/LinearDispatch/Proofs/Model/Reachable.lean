-- SUMMARY: What holds of every reachable model, as every effect keeps it: names are distinct and indices are positions.
import LinearDispatch.Proofs.Model.Effect

/-!
# Reachable models

Whatever is asked of a model, its effect is one of few: the model is kept, a
mark, the preference or the objective changes, or one declaration is appended
under a new name. What these effects keep holds of every reachable model.
-/
namespace LinearDispatch

namespace Outcome

variable {α σ ρ ρ' : Type}

/-- Work that leaves the subject alone can be put behind any other. -/
theorem state_andThen {o : Outcome α σ ρ} {next : σ → ρ → Outcome α σ ρ'}
    (h : ∀ s x, (next s x).state = s) : (o.andThen next).state = o.state := by
  rw [andThen]
  split
  · rfl
  · exact h _ _

theorem answer_andThen_eq_ok_iff {o : Outcome α σ ρ} {next : σ → ρ → Outcome α σ ρ'} {y : ρ'} :
    (o.andThen next).answer = .ok y ↔ ∃ x, o.answer = .ok x ∧ (next o.state x).answer = .ok y := by
  rw [andThen]
  split
  · next e he => simp [he]
  · next x hx => simp [hx]

end Outcome

namespace Model

variable {α : Type}

/-! ## Names -/

section Labels

variable {δ : Type} {label : δ → String} {declared : List δ}

/-- Where labels are distinct, what is declared earlier has another label. -/
theorem label_ne_of_lt (h : (declared.map label).Nodup) {i j : Nat} (hi : i < declared.length)
    (hj : j < i) : label declared[j] ≠ label declared[i] := by
  intro heq
  have hsame : (declared.map label)[j]? = (declared.map label)[i]? := by
    rw [List.getElem?_map, List.getElem?_map, List.getElem?_eq_getElem hi,
      List.getElem?_eq_getElem (Nat.lt_trans hj hi), Option.map_some, Option.map_some, heq]
  have hlt : j < (declared.map label).length := by
    rw [List.length_map]
    exact Nat.lt_trans hj hi
  exact Nat.ne_of_lt hj ((List.getElem?_inj hlt h).1 hsame)

theorem findIdx?_label (h : (declared.map label).Nodup) {i : Nat} {d : δ}
    (hd : declared[i]? = some d) : declared.findIdx? (label · == label d) = some i := by
  obtain ⟨hi, rfl⟩ := List.getElem?_eq_some_iff.1 hd
  rw [List.findIdx?_eq_some_iff_getElem]
  exact ⟨hi, by simp, fun j hj => by simpa using label_ne_of_lt h hi hj⟩

theorem find?_label (h : (declared.map label).Nodup) {i : Nat} {d : δ}
    (hd : declared[i]? = some d) : declared.find? (label · == label d) = some d := by
  obtain ⟨hi, rfl⟩ := List.getElem?_eq_some_iff.1 hd
  rw [List.find?_eq_some_iff_getElem]
  exact ⟨by simp, i, hi, rfl, fun j hj => by simpa using label_ne_of_lt h hi hj⟩

end Labels

/-- What has no position is not found either. -/
theorem find?_eq_none_of_findIdx? {δ : Type} {declared : List δ} {p : δ → Bool}
    (h : declared.findIdx? p = none) : declared.find? p = none := by
  rw [List.find?_eq_none]
  rw [List.findIdx?_eq_none_iff] at h
  exact fun d hd => by simpa using h d hd

theorem hasVariable_iff {m : Model α} {name : String} :
    m.hasVariable name = true ↔ name ∈ m.variableNames := by
  simp [hasVariable, variableIndex?, variableNames]

theorem hasConstraint_iff {m : Model α} {name : String} :
    m.hasConstraint name = true ↔ name ∈ m.constraints.map (·.name) := by
  simp [hasConstraint, constraintIndex?]

variable [Scalar α]

theorem state_solve (a : Adapter α) (m : Model α) : (a.solve m).state = m.lower.state := by
  refine Outcome.state_andThen fun m f => ?_
  rw [Adapter.solveLowered]
  dsimp only
  split <;> rfl

/-! ## Well-formed models -/

/-- Distinct names, and every variable knows its position. -/
structure WellFormed (m : Model α) : Prop where
  variableNames : m.variableNames.Nodup
  constraintNames : (m.constraints.map (·.name)).Nodup
  indices : ∀ (i : Nat) v, m.vars[i]? = some v → v.index = i

namespace WellFormed

/-- Adding a name that a list does not have keeps its names distinct. -/
private theorem nodup_append_new {names : List String} {name : String} (h : names.Nodup)
    (hnew : name ∉ names) : (names ++ [name]).Nodup := by
  rw [List.nodup_append]
  refine ⟨h, by simp, fun a ha b hb => ?_⟩
  obtain rfl := List.mem_singleton.1 hb
  exact fun heq => hnew (heq ▸ ha)

omit [Scalar α] in
/-- The model that a run starts from. -/
theorem fresh (name : String) (preferred : Literal α) :
    WellFormed { name, preferred : Model α } :=
  ⟨List.nodup_nil, List.nodup_nil, nofun⟩

/-- No command takes a name twice or misplaces a variable. -/
theorem effect {m : Model α} {c : Command α} {o : Outcome α (Model α) (Reply α)}
    (h : m.WellFormed) (he : m.Effect c o) : o.state.WellFormed := by
  cases he with
  | declared v _ _ hfresh position =>
    have hnew : v.name ∉ m.variableNames := by
      rw [← hasVariable_iff, hfresh]
      exact Bool.false_ne_true
    refine ⟨?_, h.constraintNames, fun i w hw => ?_⟩
    · simpa [Model.variableNames] using nodup_append_new h.variableNames hnew
    · rcases Nat.lt_or_ge i m.vars.length with hi | hi
      · exact h.indices i w (by rwa [List.getElem?_append_left hi] at hw)
      · obtain ⟨hzero, rfl⟩ : i - m.vars.length = 0 ∧ w = v := by
          simpa [List.getElem?_append_right hi, List.getElem?_singleton, eq_comm] using hw
        rw [position]
        omega
  | constrained c _ _ _ hfresh =>
    have hnew : c.name ∉ m.constraints.map (·.name) := by
      rw [← hasConstraint_iff, hfresh]
      exact Bool.false_ne_true
    refine ⟨h.variableNames, ?_, h.indices⟩
    simpa using nodup_append_new h.constraintNames hnew
  | restated => exact ⟨h.variableNames, h.constraintNames, h.indices⟩
  | refused => exact h
  | refusedHastily => exact ⟨h.variableNames, h.constraintNames, h.indices⟩
  | built => exact ⟨h.variableNames, h.constraintNames, h.indices⟩
  | lowered _ _ hstate _ =>
    rw [hstate]
    exact ⟨h.variableNames, h.constraintNames, h.indices⟩
  | unlowered => exact h
  | preferred => exact ⟨h.variableNames, h.constraintNames, h.indices⟩
  | looked => exact h

/-- A run of commands keeps a model well-formed. -/
theorem run {m : Model α} (h : m.WellFormed) (commands : List (Command α)) :
    (m.run commands).WellFormed := by
  induction commands generalizing m with
  | nil => exact h
  | cons c commands ih => exact ih (h.effect (effect_perform m c))

end WellFormed

theorem Reachable.wellFormed {m : Model α} (h : m.Reachable) : m.WellFormed := by
  obtain ⟨name, preferred, commands, rfl⟩ := h
  exact (WellFormed.fresh name preferred).run commands

end Model

end LinearDispatch
