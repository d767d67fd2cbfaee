-- SUMMARY: The check on finite data: it reports nothing exactly where a solution is valid within the tolerance, and otherwise every violation once and in order.
import Mathlib.Algebra.Order.Group.Unbundled.Abs
import Mathlib.Data.List.Nodup
import LinearDispatch.Proofs.Exact
import LinearDispatch.Proofs.Model.Reachable

/-!
# What the check reports

Over finite data the check compares rationals. What a valid solution is can
then be said without the check: every variable has a value, the values lie
between the bounds, the constraints hold, and the objective is the one
reported, each within the tolerance. The check reports nothing exactly then;
otherwise it reports each condition that fails, once, in the order in which the
model declares them.

A bound may be infinite. An infinite upper bound that is negative, or a lower
one that is positive, is violated by every value.
-/
namespace LinearDispatch

/-! ## Comparisons of rationals -/

namespace Exact

/-- The rational that a finite number is. -/
def rational : Exact → Rat
  | .finite q => q
  | _         => 0

/-- The bound less the tolerance is at most the value. -/
def BoundsBelow (t q : Rat) : Exact → Prop
  | .finite l          => l - t ≤ q
  | .infinite negative => negative = true
  | .notANumber        => False

/-- The value is at most the bound and the tolerance. -/
def BoundsAbove (t q : Rat) : Exact → Prop
  | .finite u          => q ≤ u + t
  | .infinite negative => negative = false
  | .notANumber        => False

instance (t q : Rat) : (b : Exact) → Decidable (b.BoundsBelow t q)
  | .finite l          => inferInstanceAs (Decidable (l - t ≤ q))
  | .infinite negative => inferInstanceAs (Decidable (negative = true))
  | .notANumber        => inferInstanceAs (Decidable False)

instance (t q : Rat) : (b : Exact) → Decidable (b.BoundsAbove t q)
  | .finite u          => inferInstanceAs (Decidable (q ≤ u + t))
  | .infinite negative => inferInstanceAs (Decidable (negative = false))
  | .notANumber        => inferInstanceAs (Decidable False)

variable {b : Exact} {p q t : Rat}

theorem eq_finite_rational (h : Scalar.isFinite b = true) : b = .finite b.rational := by
  obtain ⟨q, rfl⟩ := isFinite_iff.1 h
  rfl

theorem lt_sub_iff (hb : Scalar.isNaN b = false) :
    Scalar.lt (.finite q) (b - .finite t) = true ↔ ¬ b.BoundsBelow t q := by
  cases b with
  | finite l => rw [finite_sub, lt_finite, BoundsBelow, not_le]
  | infinite s => simp [BoundsBelow]
  | notANumber => cases hb

theorem add_lt_iff (hb : Scalar.isNaN b = false) :
    Scalar.lt (b + .finite t) (.finite q) = true ↔ ¬ b.BoundsAbove t q := by
  cases b with
  | finite u => rw [finite_add, lt_finite, BoundsAbove, not_le]
  | infinite s => simp [BoundsAbove]
  | notANumber => cases hb

theorem abs_finite (q : Rat) : Scalar.abs (Exact.finite q) = .finite |q| := by
  rw [Scalar.abs, zero_eq]
  split
  · next h => rw [neg_finite, abs_of_neg ((lt_finite q 0).1 h)]
  · next h => rw [abs_of_nonneg (not_lt.1 ((lt_finite q 0).not.1 h))]

theorem isClose_finite_iff (ht : 0 ≤ t) :
    Scalar.isClose (.finite t) (.finite p) (Exact.finite q) = true ↔ |p - q| ≤ t := by
  rw [Scalar.isClose, finite_sub, abs_finite, abs_sub_comm]
  by_cases heq : p = q
  · simp [heq, ht]
  · simp [heq, Scalar.isInfinite]

end Exact

/-- The two sides stand in the relation within the tolerance. -/
def Relation.HoldsWithin (t p b : Rat) : Relation → Prop
  | .atMost  => p ≤ b + t
  | .atLeast => b - t ≤ p
  | .equal   => |p - b| ≤ t

instance (t p b : Rat) : (r : Relation) → Decidable (r.HoldsWithin t p b)
  | .atMost  => inferInstanceAs (Decidable (p ≤ b + t))
  | .atLeast => inferInstanceAs (Decidable (b - t ≤ p))
  | .equal   => inferInstanceAs (Decidable (|p - b| ≤ t))

theorem Relation.holds_finite_iff {r : Relation} {p b t : Rat} :
    r.holds (.finite p) (.finite b) (Exact.finite t) = true ↔ r.HoldsWithin t p b := by
  cases r with
  | atMost => exact Exact.le_finite ..
  | atLeast => rw [holds, Exact.finite_sub, Exact.le_finite, HoldsWithin]
  | equal => rw [holds, Exact.finite_sub, Exact.abs_finite, Exact.le_finite, HoldsWithin]

/-! ## Expressions -/

/-- The value of a name; what has none counts as zero. -/
def Solution.rationalOf (values : Table Exact) (name : String) : Rat :=
  ((values.get? name).map Exact.rational).getD 0

/-- The sum of the coefficients times the values of their names. -/
def Model.combination (coefficients values : Table Exact) : Rat :=
  (coefficients.entries.map fun (name, a) => a.rational * Solution.rationalOf values name).sum

theorem Solution.valueOf_eq_finite {values : Table Exact}
    (h : ∀ e ∈ values.entries, Scalar.isFinite e.2 = true) (name : String) :
    valueOf values name = .finite (rationalOf values name) := by
  rw [valueOf, rationalOf]
  cases hget : values.get? name with
  | none => rfl
  | some x => exact Exact.eq_finite_rational (h _ (Table.mem_of_get? hget))

theorem Model.evaluate_eq_finite {coefficients values : Table Exact}
    (hcoefficients : ∀ e ∈ coefficients.entries, Scalar.isFinite e.2 = true)
    (hvalues : ∀ e ∈ values.entries, Scalar.isFinite e.2 = true) :
    evaluate coefficients values = .finite (combination coefficients values) := by
  have hterms : (coefficients.entries.map fun (name, a) => a * Solution.valueOf values name) =
      Exact.vector (coefficients.entries.map fun (name, a) =>
        a.rational * Solution.rationalOf values name) := by
    rw [Exact.vector, List.map_map]
    refine List.map_congr_left fun e he => ?_
    dsimp only [Function.comp_apply]
    rw [Solution.valueOf_eq_finite hvalues, Exact.eq_finite_rational (hcoefficients e he),
      Exact.finite_mul]
    rfl
  rw [evaluate, hterms, Exact.sum_vector, combination]

/-! ## Finite data -/

/-- The bounds are numbers, and everything else that is written in the model is finite. -/
structure Model.Numeric (m : Model Exact) : Prop where
  lower : ∀ v ∈ m.vars, Scalar.isNaN v.lower = false
  upper : ∀ v ∈ m.vars, Scalar.isNaN v.upper = false
  coefficients : ∀ c ∈ m.constraints, ∀ e ∈ c.coefficients.entries, Scalar.isFinite e.2 = true
  rhs : ∀ c ∈ m.constraints, Scalar.isFinite c.rhs = true
  objective : ∀ e ∈ m.objective.entries, Scalar.isFinite e.2 = true

instance (m : Model Exact) : Decidable m.Numeric :=
  decidable_of_iff
    ((∀ v ∈ m.vars, Scalar.isNaN v.lower = false) ∧
      (∀ v ∈ m.vars, Scalar.isNaN v.upper = false) ∧
      (∀ c ∈ m.constraints, ∀ e ∈ c.coefficients.entries, Scalar.isFinite e.2 = true) ∧
      (∀ c ∈ m.constraints, Scalar.isFinite c.rhs = true) ∧
      ∀ e ∈ m.objective.entries, Scalar.isFinite e.2 = true)
    ⟨fun ⟨hl, hu, hc, hb, ho⟩ => ⟨hl, hu, hc, hb, ho⟩,
      fun h => ⟨h.lower, h.upper, h.coefficients, h.rhs, h.objective⟩⟩

/-- The values and the objective are finite. -/
structure Solution.Numeric (s : Solution Exact) : Prop where
  values : ∀ e ∈ s.values.entries, Scalar.isFinite e.2 = true
  objective : Scalar.isFinite s.objective = true

instance (s : Solution Exact) : Decidable s.Numeric :=
  decidable_of_iff
    ((∀ e ∈ s.values.entries, Scalar.isFinite e.2 = true) ∧ Scalar.isFinite s.objective = true)
    ⟨fun ⟨hv, ho⟩ => ⟨hv, ho⟩, fun h => ⟨h.values, h.objective⟩⟩

/-! ## Valid solutions and reports -/

namespace Violation

variable {α : Type}

/-- The part of the check that reports a violation. -/
def part : Violation α → Nat
  | .unsolved _           => 0
  | .missingValues _      => 1
  | .belowLower ..        => 2
  | .aboveUpper ..        => 2
  | .broken ..            => 3
  | .objectiveMismatch .. => 4

/-- The declaration that a violation is about. -/
def declaration? : Violation α → Option String
  | .belowLower name .. => some name
  | .aboveUpper name .. => some name
  | .broken name ..     => some name
  | _                   => none

end Violation

namespace Model

variable {m : Model Exact} {s : Solution Exact} {t : Rat}

/-- The values of a solution make a constraint hold within the tolerance. -/
def HoldsAt (t : Rat) (values : Table Exact) (c : Constraint Exact) : Prop :=
  c.relation.HoldsWithin t (combination c.coefficients values) c.rhs.rational

instance (t : Rat) (values : Table Exact) (c : Constraint Exact) : Decidable (HoldsAt t values c) :=
  inferInstanceAs (Decidable (c.relation.HoldsWithin ..))

/-- The solution is complete, and what the model asks of it holds within the tolerance. -/
structure ValidWithin (m : Model Exact) (t : Rat) (s : Solution Exact) : Prop where
  complete : ∀ v ∈ m.vars, v.name ∈ s.values.keys
  lower : ∀ v ∈ m.vars, v.lower.BoundsBelow t (Solution.rationalOf s.values v.name)
  upper : ∀ v ∈ m.vars, v.upper.BoundsAbove t (Solution.rationalOf s.values v.name)
  constraints : ∀ c ∈ m.constraints, HoldsAt t s.values c
  objective : |combination m.objective s.values - s.objective.rational| ≤ t

/-- The variables without a value, in one report. -/
def missingReports (m : Model Exact) (values : Table Exact) : List (Violation Exact) :=
  let missing := m.variableNames.filter (· ∉ values.keys)
  if missing = [] then [] else [.missingValues missing]

/-- One report for each bound of a variable that is violated. -/
def boundReports (t : Rat) (values : Table Exact) (v : Variable Exact) : List (Violation Exact) :=
  let q := Solution.rationalOf values v.name
  (if v.lower.BoundsBelow t q then [] else [.belowLower v.name (.finite q) v.lower])
    ++ (if v.upper.BoundsAbove t q then [] else [.aboveUpper v.name (.finite q) v.upper])

/-- The report of a constraint that does not hold. -/
def constraintReports (t : Rat) (values : Table Exact) (c : Constraint Exact) :
    List (Violation Exact) :=
  if HoldsAt t values c then []
  else [.broken c.name (.finite (combination c.coefficients values)) c.relation c.rhs]

/-- The report of an objective that is not the one of the values. -/
def objectiveReports (m : Model Exact) (t : Rat) (s : Solution Exact) : List (Violation Exact) :=
  let recomputed := combination m.objective s.values
  if |recomputed - s.objective.rational| ≤ t then []
  else [.objectiveMismatch s.objective (.finite recomputed)]

/-- What is to be reported of a solution, in order. -/
def reports (m : Model Exact) (t : Rat) (s : Solution Exact) : List (Violation Exact) :=
  m.missingReports s.values ++ m.vars.flatMap (boundReports t s.values)
    ++ m.constraints.flatMap (constraintReports t s.values) ++ m.objectiveReports t s

/-! ## The check reports just that -/

theorem missingReports_eq (m : Model Exact) (values : Table Exact) :
    (match m.missingNames values with
      | []            => []
      | name :: names => [.missingValues (name :: names)]) = m.missingReports values := by
  have hmissing : m.missingNames values = m.variableNames.filter (· ∉ values.keys) := by
    refine List.filter_congr fun name _ => ?_
    rw [Bool.eq_iff_iff, Bool.not_eq_true', decide_eq_true_iff, ← Table.contains_iff_mem_keys,
      Bool.not_eq_true]
  rw [missingReports, ← hmissing]
  cases m.missingNames values <;> rfl

theorem boundViolations_eq_boundReports {v : Variable Exact} {values : Table Exact}
    (hlower : Scalar.isNaN v.lower = false) (hupper : Scalar.isNaN v.upper = false)
    (hvalues : ∀ e ∈ values.entries, Scalar.isFinite e.2 = true) :
    boundViolations v values (.finite t) = boundReports t values v := by
  simp only [boundViolations, boundReports, Solution.valueOf_eq_finite hvalues,
    Exact.lt_sub_iff hlower, Exact.add_lt_iff hupper, ite_not]

theorem constraintViolations_eq_constraintReports {c : Constraint Exact} {values : Table Exact}
    (hcoefficients : ∀ e ∈ c.coefficients.entries, Scalar.isFinite e.2 = true)
    (hrhs : Scalar.isFinite c.rhs = true)
    (hvalues : ∀ e ∈ values.entries, Scalar.isFinite e.2 = true) :
    constraintViolations c values (.finite t) = constraintReports t values c := by
  have hholds : c.relation.holds (.finite (combination c.coefficients values)) c.rhs
      (Exact.finite t) = true ↔ HoldsAt t values c := by
    rw [Exact.eq_finite_rational hrhs]
    exact Relation.holds_finite_iff
  simp only [constraintViolations, constraintReports, evaluate_eq_finite hcoefficients hvalues,
    hholds]

theorem objectiveViolations_eq_objectiveReports (hm : m.Numeric) (hs : s.Numeric) (ht : 0 ≤ t) :
    m.objectiveViolations s (.finite t) = m.objectiveReports t s := by
  have hclose : Scalar.isClose (.finite t) (.finite (combination m.objective s.values)) s.objective
      = true ↔ |combination m.objective s.values - s.objective.rational| ≤ t := by
    rw [Exact.eq_finite_rational hs.objective]
    exact Exact.isClose_finite_iff ht
  simp only [objectiveViolations, objectiveReports, objectiveAt,
    evaluate_eq_finite hm.objective hs.values, hclose]

/-- A solution that was found is reported on in full. -/
theorem check_eq_ok_reports (hm : m.Numeric) (hs : s.Numeric) (ht : 0 ≤ t)
    (hfeasible : s.feasible = true) : m.check s (.finite t) = .ok (m.reports t s) := by
  have hbounds : m.vars.flatMap (boundViolations · s.values (.finite t)) =
      m.vars.flatMap (boundReports t s.values) :=
    List.flatMap_congr fun v hv =>
      boundViolations_eq_boundReports (hm.lower v hv) (hm.upper v hv) hs.values
  have hconstraints : m.constraints.flatMap (constraintViolations · s.values (.finite t)) =
      m.constraints.flatMap (constraintReports t s.values) :=
    List.flatMap_congr fun c hc =>
      constraintViolations_eq_constraintReports (hm.coefficients c hc) (hm.rhs c hc) hs.values
  have hsign : Scalar.lt (Exact.finite t) 0 = false := by
    rw [Bool.eq_false_iff, Ne, Exact.zero_eq, Exact.lt_finite, not_lt]
    exact ht
  rw [check, hsign, Bool.and_false, if_neg Bool.false_ne_true, violations, if_pos hfeasible,
    hbounds, hconstraints, objectiveViolations_eq_objectiveReports hm hs ht, reports]
  exact congrArg (fun missing => Except.ok (missing ++ m.vars.flatMap (boundReports t s.values)
    ++ m.constraints.flatMap (constraintReports t s.values) ++ m.objectiveReports t s))
    (m.missingReports_eq s.values)

/-! ## No reports -/

theorem missingReports_eq_nil_iff {values : Table Exact} :
    m.missingReports values = [] ↔ ∀ v ∈ m.vars, v.name ∈ values.keys := by
  simp [missingReports, variableNames, List.filter_eq_nil_iff]

theorem boundReports_eq_nil_iff {v : Variable Exact} {values : Table Exact} :
    boundReports t values v = [] ↔
      v.lower.BoundsBelow t (Solution.rationalOf values v.name) ∧
        v.upper.BoundsAbove t (Solution.rationalOf values v.name) := by
  simp [boundReports]

theorem reports_eq_nil_iff : m.reports t s = [] ↔ m.ValidWithin t s := by
  have hconstraint : ∀ c, constraintReports t s.values c = [] ↔ HoldsAt t s.values c := by
    simp [constraintReports]
  have hobjective : m.objectiveReports t s = [] ↔
      |combination m.objective s.values - s.objective.rational| ≤ t := by
    simp [objectiveReports]
  simp only [reports, List.append_eq_nil_iff, List.flatMap_eq_nil_iff, missingReports_eq_nil_iff,
    boundReports_eq_nil_iff, hconstraint, hobjective]
  constructor
  · rintro ⟨⟨⟨hcomplete, hbounds⟩, hconstraints⟩, hclose⟩
    exact ⟨hcomplete, fun v hv => (hbounds v hv).1, fun v hv => (hbounds v hv).2, hconstraints,
      hclose⟩
  · rintro ⟨hcomplete, hlower, hupper, hconstraints, hclose⟩
    exact ⟨⟨⟨hcomplete, fun v hv => ⟨hlower v hv, hupper v hv⟩⟩, hconstraints⟩, hclose⟩

/-! ## No report twice -/

/-- Reports about declarations of different names are different. -/
theorem nodup_flatMap_of_names {δ : Type} {label : δ → String} {declared : List δ}
    {report : δ → List (Violation Exact)} (h : (declared.map label).Nodup)
    (hnodup : ∀ d, (report d).Nodup)
    (hlabel : ∀ d, ∀ p ∈ report d, p.declaration? = some (label d)) :
    (declared.flatMap report).Nodup := by
  refine List.nodup_flatMap.2 ⟨fun d _ => hnodup d, ?_⟩
  refine (List.pairwise_map.1 h).imp fun {a b} hne p ha hb => hne ?_
  exact Option.some.inj ((hlabel a p ha).symm.trans (hlabel b p hb))

/-- Reports of the parts before this one, none twice. -/
structure ReportsBefore (n : Nat) (l : List (Violation Exact)) : Prop where
  nodup : l.Nodup
  part_lt : ∀ p ∈ l, p.part < n

/-- The reports of the next part differ from those before. -/
theorem ReportsBefore.append {n : Nat} {l l' : List (Violation Exact)} (h : ReportsBefore n l)
    (hl' : l'.Nodup) (hpart : ∀ p ∈ l', p.part = n) : ReportsBefore (n + 1) (l ++ l') := by
  constructor
  · refine List.nodup_append.2 ⟨h.nodup, hl', fun a ha b hb heq => ?_⟩
    have hlt := h.part_lt a ha
    rw [heq, hpart b hb] at hlt
    exact Nat.lt_irrefl _ hlt
  · intro p hp
    rcases List.mem_append.1 hp with hp | hp
    · exact Nat.lt_succ_of_lt (h.part_lt p hp)
    · rw [hpart p hp]
      exact Nat.lt_succ_self n

/-- An optional report is none, or this one. -/
theorem eq_of_mem_ite {c : Prop} [Decidable c] {p q : Violation Exact}
    (h : p ∈ if c then [] else [q]) : p = q :=
  List.mem_singleton.1 (List.mem_ite_nil_left.1 h).2

theorem of_mem_boundReports {v : Variable Exact} {values : Table Exact} {p : Violation Exact}
    (hp : p ∈ boundReports t values v) : p.part = 2 ∧ p.declaration? = some v.name := by
  rcases List.mem_append.1 hp with hp | hp <;> obtain rfl := eq_of_mem_ite hp <;> exact ⟨rfl, rfl⟩

theorem nodup_boundReports (t : Rat) (values : Table Exact) (v : Variable Exact) :
    (boundReports t values v).Nodup := by
  simp only [boundReports]
  split <;> split <;> simp

theorem nodup_reports (hm : m.WellFormed) : (m.reports t s).Nodup := by
  have hmissing : ReportsBefore 2 (m.missingReports s.values) := by
    simp only [missingReports]
    split
    · exact ⟨List.nodup_nil, List.forall_mem_nil _⟩
    · exact ⟨List.nodup_singleton _, List.forall_mem_singleton.2 (Nat.lt_succ_self 1)⟩
  have hbounds : (m.vars.flatMap (boundReports t s.values)).Nodup :=
    nodup_flatMap_of_names hm.variableNames (nodup_boundReports t s.values)
      fun v p hp => (of_mem_boundReports hp).2
  have hconstraint : ∀ c, ∀ p ∈ constraintReports t s.values c,
      p.part = 3 ∧ p.declaration? = some c.name := by
    intro c p hp
    obtain rfl := eq_of_mem_ite hp
    exact ⟨rfl, rfl⟩
  have hconstraints : (m.constraints.flatMap (constraintReports t s.values)).Nodup := by
    refine nodup_flatMap_of_names hm.constraintNames (fun c => ?_) fun c p hp =>
      (hconstraint c p hp).2
    rw [constraintReports]
    split <;> simp
  have hobjective : (m.objectiveReports t s).Nodup := by
    simp only [objectiveReports]
    split <;> simp
  refine (((hmissing.append hbounds fun p hp => ?_).append hconstraints fun p hp => ?_).append
    hobjective fun p hp => ?_).nodup
  · obtain ⟨v, -, hv⟩ := List.mem_flatMap.1 hp
    exact (of_mem_boundReports hv).1
  · obtain ⟨c, -, hc⟩ := List.mem_flatMap.1 hp
    exact (hconstraint c p hc).1
  · obtain rfl := eq_of_mem_ite hp
    rfl

/-! ## The whole check -/

/-- On finite data the check is sound and complete. A solution that found nothing is reported as
such. Of any other there is nothing to report exactly if it is valid within the tolerance, and
otherwise every violation is reported, once and in the order in which the model declares them. -/
theorem check_eq_reports (hm : m.Reachable) (hn : m.Numeric) (ht : 0 ≤ t) (s : Solution Exact) :
    (s.feasible = false → m.check s (.finite t) = .ok [.unsolved s.status]) ∧
    (s.feasible = true → s.Numeric →
      m.check s (.finite t) = .ok (m.reports t s) ∧
      (m.reports t s = [] ↔ m.ValidWithin t s) ∧ (m.reports t s).Nodup) := by
  refine ⟨fun hfeasible => ?_, fun hfeasible hs => ?_⟩
  · rw [check, hfeasible, Bool.false_and, if_neg Bool.false_ne_true, violations, hfeasible,
      if_neg Bool.false_ne_true]
  · exact ⟨check_eq_ok_reports hn hs ht hfeasible, reports_eq_nil_iff, nodup_reports hm.wellFormed⟩

/-- Commands that state a variable whose bounds cross, another without bounds, and a constraint on
both. -/
def crossingCommands : List (Command Exact) :=
  [.addVariable "x" (.int 5) (.int 1),
    .addVariable "y" (.real (.infinite true)) (.real (.infinite false)),
    .addConstraint "sum" (.ofList [("x", .int 1), ("y", .int 1)]) (.text "<=") (.int 2),
    .setObjective (.ofList [("x", .int 1)]) (.bool true)]

/-- A solution without a value for the second variable. -/
def partialSolution : Solution Exact :=
  ⟨.ofList [("x", .finite 3)], .finite 3, true, .optimal, "stub"⟩

/-- One variable may violate both of its bounds. -/
theorem check_eq_reports_crossing :
    let m : Model Exact := Model.run { name := "crossing" } crossingCommands
    m.Numeric ∧ partialSolution.Numeric ∧
      m.check partialSolution (.finite (1 / 2)) =
        .ok [.missingValues ["y"], .belowLower "x" (.finite 3) (.finite 5),
          .aboveUpper "x" (.finite 3) (.finite 1), .broken "sum" (.finite 3) .atMost (.finite 2)] := by
  intro m
  have hm : m.Reachable := ⟨"crossing", .null, crossingCommands, rfl⟩
  have hn : m.Numeric := by decide +kernel
  have hs : partialSolution.Numeric := by decide +kernel
  have ht : (0 : Rat) ≤ 1 / 2 := by norm_num
  have hreports : m.reports (1 / 2) partialSolution =
      [.missingValues ["y"], .belowLower "x" (.finite 3) (.finite 5),
        .aboveUpper "x" (.finite 3) (.finite 1), .broken "sum" (.finite 3) .atMost (.finite 2)] := by
    decide +kernel
  obtain ⟨-, hfound⟩ := check_eq_reports hm hn ht partialSolution
  obtain ⟨hcheck, -, -⟩ := hfound rfl hs
  exact ⟨hn, hs, hreports ▸ hcheck⟩

end Model

end LinearDispatch
