-- SUMMARY: A larger tolerance never makes the check stricter: what is reported then is reported with a smaller one too, in the same order and words.
import Mathlib.Data.List.Flatten
import LinearDispatch.Proofs.Model.Violations

/-!
# Tolerances

Each part of the check takes the tolerance on its own side: off a lower bound,
onto an upper one, on either side of a constraint as its relation asks, and as
a distance for equations and for the objective. Whatever holds within one
tolerance holds within a larger one. What a report says does not depend on the
tolerance, only whether it is made, so that reports can only go.
-/
namespace LinearDispatch

/-! ## Comparisons -/

variable {p q b t₁ t₂ : Rat}

theorem Exact.BoundsBelow.mono {b : Exact} (h : b.BoundsBelow t₁ q) (ht : t₁ ≤ t₂) :
    b.BoundsBelow t₂ q := by
  cases b with
  | finite l => exact (sub_le_sub_left ht l).trans h
  | infinite s => exact h
  | notANumber => exact h

theorem Exact.BoundsAbove.mono {b : Exact} (h : b.BoundsAbove t₁ q) (ht : t₁ ≤ t₂) :
    b.BoundsAbove t₂ q := by
  cases b with
  | finite u => exact h.trans (add_le_add_right ht u)
  | infinite s => exact h
  | notANumber => exact h

theorem Relation.HoldsWithin.mono {r : Relation} (h : r.HoldsWithin t₁ p b) (ht : t₁ ≤ t₂) :
    r.HoldsWithin t₂ p b := by
  cases r with
  | atMost => exact h.trans (add_le_add_right ht b)
  | atLeast => exact (sub_le_sub_left ht b).trans h
  | equal => exact h.trans ht

/-! ## Reports -/

namespace Model

open List (Sublist)

variable {m : Model Exact} {s : Solution Exact}

/-- A report that is made unless something holds goes when more holds. -/
theorem sublist_ite {P Q : Prop} [Decidable P] [Decidable Q] (h : P → Q) (v : Violation Exact) :
    Sublist (if Q then [] else [v]) (if P then [] else [v]) := by
  by_cases hQ : Q
  · rw [if_pos hQ]
    exact List.nil_sublist _
  · rw [if_neg hQ, if_neg fun hP => hQ (h hP)]

theorem boundReports_sublist (ht : t₁ ≤ t₂) (values : Table Exact) (v : Variable Exact) :
    Sublist (boundReports t₂ values v) (boundReports t₁ values v) :=
  (sublist_ite (fun h => h.mono ht) _).append (sublist_ite (fun h => h.mono ht) _)

theorem constraintReports_sublist (ht : t₁ ≤ t₂) (values : Table Exact) (c : Constraint Exact) :
    Sublist (constraintReports t₂ values c) (constraintReports t₁ values c) :=
  sublist_ite (fun h => Relation.HoldsWithin.mono h ht) _

theorem objectiveReports_sublist (ht : t₁ ≤ t₂) :
    Sublist (m.objectiveReports t₂ s) (m.objectiveReports t₁ s) :=
  sublist_ite (fun h => h.trans ht) _

/-- Part by part, the reports for the larger tolerance are among those for the smaller one. -/
theorem reports_sublist (ht : t₁ ≤ t₂) : Sublist (m.reports t₂ s) (m.reports t₁ s) := by
  have hbounds : Sublist (m.vars.flatMap (boundReports t₂ s.values))
      (m.vars.flatMap (boundReports t₁ s.values)) :=
    Sublist.flatMap_right _ fun v _ => boundReports_sublist ht s.values v
  have hconstraints : Sublist (m.constraints.flatMap (constraintReports t₂ s.values))
      (m.constraints.flatMap (constraintReports t₁ s.values)) :=
    Sublist.flatMap_right _ fun c _ => constraintReports_sublist ht s.values c
  exact (((Sublist.refl _).append hbounds).append hconstraints).append (objectiveReports_sublist ht)

/-! ## The whole check -/

/-- The check answers for every tolerance that is not negative, and with a larger one it reports a
part of what it reports with a smaller one, in the same order. So it stays silent once it is. -/
theorem check_mono (hn : m.Numeric) (hs : s.Numeric) (ht₁ : 0 ≤ t₁) (ht : t₁ ≤ t₂) :
    ∃ l₁ l₂, m.check s (.finite t₁) = .ok l₁ ∧ m.check s (.finite t₂) = .ok l₂ ∧
      Sublist l₂ l₁ ∧ (l₁ = [] → l₂ = []) := by
  cases hfeasible : s.feasible with
  | false =>
    have hunsolved : ∀ t : Exact, m.check s t = .ok [.unsolved s.status] := by
      intro t
      rw [check, hfeasible, Bool.false_and, if_neg Bool.false_ne_true, violations, hfeasible,
        if_neg Bool.false_ne_true]
    exact ⟨_, _, hunsolved _, hunsolved _, Sublist.refl _, id⟩
  | true =>
    have hsub : Sublist (m.reports t₂ s) (m.reports t₁ s) := reports_sublist ht
    refine ⟨_, _, check_eq_ok_reports hn hs ht₁ hfeasible,
      check_eq_ok_reports hn hs (ht₁.trans ht) hfeasible, hsub, fun hnil => ?_⟩
    rw [hnil] at hsub
    exact List.sublist_nil.1 hsub

/-- The constraint is met with a tolerance of one, the crossing bounds and the missing value are
not. -/
theorem check_mono_crossing :
    let m : Model Exact := Model.run { name := "crossing" } crossingCommands
    ∃ l₁ l₂, m.check partialSolution (.finite (1 / 2)) = .ok l₁ ∧
      m.check partialSolution (.finite 1) = .ok l₂ ∧ Sublist l₂ l₁ ∧
      l₁ = l₂ ++ [.broken "sum" (.finite 3) .atMost (.finite 2)] := by
  intro m
  have hn : m.Numeric := by decide +kernel
  have hs : partialSolution.Numeric := by decide +kernel
  have hhalf : (0 : Rat) ≤ 1 / 2 := by norm_num
  have hone : (1 / 2 : Rat) ≤ 1 := by norm_num
  obtain ⟨l₁, l₂, hl₁, hl₂, hsub, -⟩ := check_mono hn hs hhalf hone
  have hstrict : m.check partialSolution (.finite (1 / 2)) =
      .ok [.missingValues ["y"], .belowLower "x" (.finite 3) (.finite 5),
        .aboveUpper "x" (.finite 3) (.finite 1),
        .broken "sum" (.finite 3) .atMost (.finite 2)] := by
    decide +kernel
  have hloose : m.check partialSolution (.finite 1) =
      .ok [.missingValues ["y"], .belowLower "x" (.finite 3) (.finite 5),
        .aboveUpper "x" (.finite 3) (.finite 1)] := by
    decide +kernel
  obtain rfl := Except.ok.inj (hl₁.symm.trans hstrict)
  obtain rfl := Except.ok.inj (hl₂.symm.trans hloose)
  exact ⟨_, _, hl₁, hl₂, hsub, rfl⟩

end Model

end LinearDispatch
