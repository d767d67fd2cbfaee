-- SUMMARY: The point that an engine for native bounds is completed to: what the engine reports where the form has a coefficient, resting values elsewhere, and admitted by the form.
import LinearDispatch.Proofs.Adapter.Attempt
import LinearDispatch.Proofs.Program.Used

/-!
# Completed points

An engine for native bounds is asked for the variables with a coefficient and
for no others. Its values need not be optimal for what is said here: wherever
they satisfy the program, the point that the attempt puts together satisfies
the form. Each variable that was dropped rests within its bounds, as these do
not cross, and each row that was dropped holds everywhere. A form without any
coefficient is left to no engine at all.
-/
namespace LinearDispatch

open Exact (vector)

namespace BoundedProgram

variable {f : DenseForm Exact} {p : BoundedProgram Exact} {v : Nat → Rat}

/-- The point has the given values at the used variables and the resting values at the others. -/
structure Completes (p : BoundedProgram Exact) (f : DenseForm Exact) (v : Nat → Rat)
    (x : List Rat) : Prop where
  size : x.length = f.variableNames.length
  used : ∀ i ∈ p.used, x[i]? = some (v i)
  unused : ∀ (i : Nat) lower upper, i ∉ p.used → f.lower[i]? = some lower →
    f.upper[i]? = some upper → ∃ q, x[i]? = some q ∧ restingValue lower upper = .finite q

theorem Represents.completes_completed (h : p.Represents f) (v : Nat → Rat) :
    p.Completes f v (point f.variableNames.length (p.completed f v)) := by
  refine ⟨length_point _ _, ?_, ?_⟩
  · intro i hi
    have huses := h.mem_used_iff.1 hi
    rw [getElem?_point (h.lt_of_uses huses), completed_of_uses huses]
  · intro i lower upper hi hl hu
    have huses : p.uses i = false := by
      rw [h.mem_used_iff] at hi
      exact Bool.eq_false_iff.2 hi
    have hlt : i < f.variableNames.length := by
      rw [← h.shaped.lower]
      exact (List.getElem?_eq_some_iff.1 hl).1
    have hrest : p.completed f v i = rest f i := by simp [completed, huses]
    refine ⟨rest f i, ?_, (h.rest_between hl hu).1⟩
    rw [getElem?_point hlt, hrest]

/-- Without used variables every point that completes some values completes all. -/
theorem Completes.of_used_eq_nil {x : List Rat} (h : p.Completes f v x) (hused : p.used = [])
    (w : Nat → Rat) : p.Completes f w x :=
  ⟨h.size, by simp [hused], h.unused⟩

end BoundedProgram

namespace Adapter

open BoundedProgram (restingValue)

variable {library : Library Exact} {f : DenseForm Exact} {p : BoundedProgram Exact}

/-- The engine sees exactly the variables with a coefficient other than zero. Whatever values of
these satisfy their bounds and the constraints of the program, their completion is admitted by the
form, and it is where the attempt ends if the engine reports them. Where there is no such variable,
every attempt ends at the resting point without a call of its engine, and that point is an optimum
of the form. -/
theorem attemptBounded_completes (hu : library.FindsUsed) (hs : f.shapeFault? = none)
    (hf : f.Regular) (h : BoundedProgram.ofDense library f = .ok p) :
    (∀ i, i ∈ library.found p ↔ f.Mentions i) ∧
    (∀ v, p.Admits p.used v → ∃ x, p.Completes f v x ∧ f.Admits x ∧
      ∀ (engine : BoundedEngine Exact) (limit : Literal Exact) (n : Int) r,
        p.used ≠ [] → engine p limit n = .ok r → r.Claims p.used v →
        (attemptBounded library engine limit n f).Reaches x) ∧
    (p.used = [] → ∃ x, (∀ v, p.Completes f v x) ∧ f.Optimal x ∧
      ∀ (engine : BoundedEngine Exact) (limit : Literal Exact) (n : Int),
        (attemptBounded library engine limit n f).calls = [] ∧
          (attemptBounded library engine limit n f).Reaches x) := by
  have hshaped := DenseForm.shaped_iff.2 hs
  have hp := BoundedProgram.represents_of_ofDense hshaped hf h
  refine ⟨fun i => ?_, fun v hv => ?_, fun hused => ?_⟩
  · rw [hu p, hp.mem_used_iff]
    exact BoundedProgram.uses_iff_mentions hshaped h i
  · refine ⟨_, hp.completes_completed v, hp.admits_completed hv, ?_⟩
    intro engine limit n r hused hengine hr
    exact attemptBounded_reaches hu h hp hused hengine hr
  · have hcompletes := hp.completes_completed fun _ => 0
    refine ⟨_, hcompletes.of_used_eq_nil hused,
      hp.optimal_completed (hp.optimal_of_used_eq_nil hused _), ?_⟩
    intro engine limit n
    refine ⟨?_, attemptBounded_reaches_of_used_eq_nil hu h hp hused _⟩
    rw [calls_attemptBounded h, if_pos ((hu.found_eq_nil_iff p).2 hused)]

/-- A form without a coefficient, its variables on either side of zero and around it. -/
def idleForm : DenseForm Exact where
  variableNames := ["x", "y", "z"]
  objective := vector [0, 0, 0]
  lower := [.finite (-5), .finite 1, .infinite true]
  upper := [.finite (-2), .infinite false, .infinite false]
  rows := [vector [0, 0, 0]]
  relations := [.atMost]
  rhs := vector [3]
  maximize := true
  constraintNames := ["slack"]

/-- The program of the form has bounds and nothing else. -/
def idleProgram : BoundedProgram Exact where
  maximize := true
  bounds := [(some (.finite (-5)), some (.finite (-2))), (some (.finite 1), none), (none, none)]
  objective := []
  rows := []

/-- What the engine says of the last variable of the sample is not what it rests at. The other form
is left to no engine. -/
theorem attemptBounded_completes_samples :
    (∃ x, (attemptBounded Engine.library Engine.bounded .null 10000 .sample).Reaches x ∧
      DenseForm.sample.Admits x ∧ x[2]? = some (-2 : Rat)) ∧
    ∃ x, idleForm.Optimal x ∧ x[0]? = some (-2 : Rat) ∧
      ∀ engine, (attemptBounded Engine.library engine .null 10000 idleForm).calls = [] ∧
        (attemptBounded Engine.library engine .null 10000 idleForm).Reaches x := by
  have hidle : BoundedProgram.ofDense Engine.library idleForm = .ok idleProgram := by
    decide +kernel
  have hresting : ∀ q, restingValue (.finite (-5)) (.finite (-2)) = Exact.finite q → -2 = q := by
    intro q hq
    have hvalue : restingValue (.finite (-5)) (.finite (-2)) = Exact.finite (-2) := by
      decide +kernel
    exact Exact.finite.inj (hvalue.symm.trans hq)
  obtain ⟨-, hadmitted, -⟩ := attemptBounded_completes Engine.findsUsed_library (by decide)
    (by decide) ofDense_sample
  obtain ⟨-, -, hrests⟩ := attemptBounded_completes Engine.findsUsed_library (by decide)
    (by decide) hidle
  constructor
  · obtain ⟨x, hx, hadmits, hreaches⟩ := hadmitted _ (represents_sample.admits_used admits_sample)
    obtain ⟨q, hq, hrest⟩ := hx.unused 2 _ _ (by decide) rfl rfl
    obtain rfl := hresting q hrest
    exact ⟨x, hreaches _ _ _ _ (by decide) bounded_sample ⟨rfl, rfl, claims_sample⟩, hadmits, hq⟩
  · obtain ⟨x, hx, hoptimal, hreaches⟩ := hrests rfl
    obtain ⟨q, hq, hrest⟩ := (hx fun _ => 0).unused 0 _ _ (by decide) rfl rfl
    obtain rfl := hresting q hrest
    exact ⟨x, hoptimal, hq, fun engine => hreaches engine .null 10000⟩

end Adapter

end LinearDispatch
