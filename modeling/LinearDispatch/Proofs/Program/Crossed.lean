-- SUMMARY: Crossed bounds: a form with them never has a program with native bounds, and its program of inequalities keeps only the finite ones among them.
import LinearDispatch.Proofs.Program.Bounded
import LinearDispatch.Proofs.Program.Inequality

/-!
# Crossed bounds

A lower bound above the upper one leaves a variable without a value. The
lowering to native bounds compares the two as they stand, and refuses the form
whichever of them are finite. The lowering to inequalities never compares them:
it writes a row for each finite bound, so a finite pair contradicts itself, but
a lower bound above everything or an upper bound below everything is left out
like any other that is not finite, and the form is relaxed.
-/
namespace LinearDispatch

open Exact (vector)

/-! ## Relaxed forms -/

namespace Exact

/-- What a row can say of a lower bound: one that is not finite bounds nothing. -/
def relaxedLower (b : Exact) : Exact :=
  if Scalar.isFinite b then b else .infinite true

/-- What a row can say of an upper bound. -/
def relaxedUpper (b : Exact) : Exact :=
  if Scalar.isFinite b then b else .infinite false

theorem isLower_relaxedLower (b : Exact) : b.relaxedLower.IsLower := by
  cases b with
  | finite q => exact isLower_iff.2 (.inr ⟨q, rfl⟩)
  | infinite s => exact isLower_iff.2 (.inl rfl)
  | notANumber => exact isLower_iff.2 (.inl rfl)

theorem isUpper_relaxedUpper (b : Exact) : b.relaxedUpper.IsUpper := by
  cases b with
  | finite q => exact isUpper_iff.2 (.inr ⟨q, rfl⟩)
  | infinite s => exact isUpper_iff.2 (.inl rfl)
  | notANumber => exact isUpper_iff.2 (.inl rfl)

end Exact

namespace DenseForm

/-- Finite rows and right-hand sides, and bounds that are numbers; the objective may be anything. -/
structure Numeric (f : DenseForm Exact) : Prop where
  rows : ∀ row ∈ f.rows, ∀ a ∈ row, Scalar.isFinite a = true
  rhs : ∀ b ∈ f.rhs, Scalar.isFinite b = true
  lower : ∀ b ∈ f.lower, Scalar.isNaN b = false
  upper : ∀ b ∈ f.upper, Scalar.isNaN b = false

instance (f : DenseForm Exact) : Decidable f.Numeric :=
  decidable_of_iff
    ((∀ row ∈ f.rows, ∀ a ∈ row, Scalar.isFinite a = true) ∧
      (∀ b ∈ f.rhs, Scalar.isFinite b = true) ∧
      (∀ b ∈ f.lower, Scalar.isNaN b = false) ∧ ∀ b ∈ f.upper, Scalar.isNaN b = false)
    ⟨fun ⟨hr, hb, hl, hu⟩ => ⟨hr, hb, hl, hu⟩, fun h => ⟨h.rows, h.rhs, h.lower, h.upper⟩⟩

/-- The bounds of the variable at a position cross. -/
def CrossedAt {α : Type} [Scalar α] (f : DenseForm α) (i : Nat) (lower upper : α) : Prop :=
  f.lower[i]? = some lower ∧ f.upper[i]? = some upper ∧ Scalar.lt upper lower = true

instance {α : Type} [Scalar α] [DecidableEq α] (f : DenseForm α) (i : Nat) (lower upper : α) :
    Decidable (f.CrossedAt i lower upper) :=
  inferInstanceAs (Decidable (_ ∧ _))

/-- The form without an objective that asks for the finite bounds and the rows only. -/
def relaxed (f : DenseForm Exact) : DenseForm Exact :=
  { f with
    objective := List.replicate f.variableNames.length 0
    lower := f.lower.map Exact.relaxedLower
    upper := f.upper.map Exact.relaxedUpper }

variable {f : DenseForm Exact}

theorem Shaped.relaxed (hs : f.Shaped) : f.relaxed.Shaped where
  objective := List.length_replicate
  lower := (List.length_map _).trans hs.lower
  upper := (List.length_map _).trans hs.upper
  rows := hs.rows
  cells := hs.cells
  rhs := hs.rhs

/-- Whatever its bounds and its objective, a relaxed form has the numbers that a program needs. -/
theorem Numeric.regular_relaxed (hf : f.Numeric) : f.relaxed.Regular where
  objective := by
    intro a ha
    rw [List.eq_of_mem_replicate ha]
    rfl
  rows := hf.rows
  rhs := hf.rhs
  lower := by
    intro b hb
    obtain ⟨lower, -, rfl⟩ := List.mem_map.1 hb
    exact lower.isLower_relaxedLower
  upper := by
    intro b hb
    obtain ⟨upper, -, rfl⟩ := List.mem_map.1 hb
    exact upper.isUpper_relaxedUpper

/-- Two finite bounds that cross stay, so that no value is left. -/
theorem not_admits_relaxed_of_crossedAt (hs : f.Shaped) {i : Nat} {lower upper : Exact}
    (hcrossed : f.CrossedAt i lower upper) (hl : Scalar.isFinite lower = true)
    (hu : Scalar.isFinite upper = true) (x : List Rat) : ¬ f.relaxed.Admits x := by
  intro hx
  obtain ⟨hlower, hupper, hlt⟩ := hcrossed
  have hi : i < x.length := by
    rw [hx.size]
    exact hs.lt_of_lower hlower
  have hkept : f.relaxed.lower[i]? = some lower ∧ f.relaxed.upper[i]? = some upper := by
    simp [relaxed, hlower, hupper, Exact.relaxedLower, Exact.relaxedUpper, hl, hu]
  have hbetween := hx.bounds i lower upper x[i] hkept.1 hkept.2 (List.getElem?_eq_getElem hi)
  exact BoundedProgram.not_between_of_crossed hlt x[i] hbetween

/-- One variable without a row, whose lower bound is above everything and whose upper one is not. -/
def crossedAtInfinity : DenseForm Exact where
  variableNames := ["x"]
  objective := vector [1]
  lower := [.infinite false]
  upper := [.finite 5]
  rows := []
  relations := []
  rhs := []
  maximize := true
  constraintNames := []

/-- Two variables whose bounds cross, finite ones and one below everything, and no number in the
objective. -/
def crossedSample : DenseForm Exact where
  variableNames := ["x", "y"]
  objective := [.notANumber, .infinite true]
  lower := [.finite 7, .finite 0]
  upper := [.finite 5, .infinite true]
  rows := [vector [1, -1]]
  relations := [.equal]
  rhs := vector [3]
  maximize := false
  constraintNames := ["level"]

end DenseForm

/-! ## Programs of inequalities -/

namespace InequalityProgram

/-- A bound that is relaxed has the same row, or none as before. -/
theorem boundRows_relaxed (n i : Nat) (lower upper : Exact) :
    boundRows n i lower.relaxedLower upper.relaxedUpper = boundRows n i lower upper := by
  have hlower : (if Scalar.isFinite lower.relaxedLower then
      [(⟨unitRow n i (-1), -lower.relaxedLower⟩ : HalfSpace Exact)] else [])
        = if Scalar.isFinite lower then [⟨unitRow n i (-1), -lower⟩] else [] := by
    cases lower <;> rfl
  have hupper : (if Scalar.isFinite upper.relaxedUpper then
      [(⟨unitRow n i 1, upper.relaxedUpper⟩ : HalfSpace Exact)] else [])
        = if Scalar.isFinite upper then [⟨unitRow n i 1, upper⟩] else [] := by
    cases upper <;> rfl
  rw [boundRows, boundRows, hlower, hupper]

theorem rows_ofDense_relaxed (f : DenseForm Exact) :
    (ofDense f.relaxed).rows = (ofDense f).rows := by
  have hbounds : List.zip f.relaxed.lower f.relaxed.upper =
      (List.zip f.lower f.upper).map (Prod.map Exact.relaxedLower Exact.relaxedUpper) :=
    List.zip_map ..
  have hconditions : f.relaxed.conditions = f.conditions := rfl
  have hnames : f.relaxed.variableNames = f.variableNames := rfl
  simp only [rows_ofDense, blocks, hbounds, hconditions, hnames, List.zipIdx_map, List.flatMap_map,
    boundBlock, Prod.map_fst, Prod.map_snd, id, boundRows_relaxed]

/-- The half-spaces contain the points that the relaxed form admits, whatever the bounds. -/
theorem contains_rows_iff_admits_relaxed {f : DenseForm Exact} (hs : f.Shaped) (hf : f.Numeric)
    {x : List Rat} (hx : x.length = f.variableNames.length) :
    (∀ h ∈ (ofDense f).rows, h.Contains x) ↔ f.relaxed.Admits x := by
  rw [← admits_ofDense_iff hs.relaxed hf.regular_relaxed, ← rows_ofDense_relaxed]
  constructor
  · intro h
    exact ⟨hx.trans (length_cost_ofDense hs.relaxed).symm, h⟩
  · intro h
    exact h.rows

end InequalityProgram

/-! ## Both programs -/

namespace BoundedProgram

theorem crossed_eq_nil {α : Type} [Scalar α] {f : DenseForm α} (hs : f.Shaped)
    (h : ¬ ∃ i lower upper, f.CrossedAt i lower upper) : crossed f = [] :=
  (crossed_eq_nil_iff hs).2 fun i lower upper hl hu =>
    (Bool.not_eq_true _).mp fun hlt => h ⟨i, lower, upper, hl, hu, hlt⟩

/-- Bounds that cross are named, and nothing else of the form is looked at. -/
theorem ofDense_of_crossedAt {α : Type} [Scalar α] {f : DenseForm α} (hs : f.Shaped) {i : Nat}
    {lower upper : α} (hcrossed : f.CrossedAt i lower upper) (library : Library α) :
    ofDense library f = .error (.contradiction (.crossedBounds (crossed f))) := by
  obtain ⟨hl, hu, hlt⟩ := hcrossed
  cases hnames : crossed f with
  | nil =>
    have hordered := (crossed_eq_nil_iff hs).1 hnames i lower upper hl hu
    rw [hlt] at hordered
    cases hordered
  | cons name names => rw [ofDense, hnames]

end BoundedProgram

/-- A form with crossed bounds has no program with native bounds. Its program of inequalities
contains the points of the relaxed form, so none if the two bounds that cross are finite. -/
theorem DenseForm.lowerings_of_crossedAt (f : DenseForm Exact) (hs : f.shapeFault? = none)
    (hf : f.Numeric) {i : Nat} {lower upper : Exact} (hcrossed : f.CrossedAt i lower upper) :
    (∀ library, BoundedProgram.ofDense library f
      = .error (.contradiction (.crossedBounds (BoundedProgram.crossed f)))) ∧
    (∀ x : List Rat, x.length = f.variableNames.length →
      ((∀ h ∈ (InequalityProgram.ofDense f).rows, h.Contains x) ↔ f.relaxed.Admits x)) ∧
    (Scalar.isFinite lower = true → Scalar.isFinite upper = true →
      ∀ x : List Rat, x.length = f.variableNames.length →
        ¬ ∀ h ∈ (InequalityProgram.ofDense f).rows, h.Contains x) := by
  have hshaped := shaped_iff.2 hs
  refine ⟨BoundedProgram.ofDense_of_crossedAt hshaped hcrossed, ?_, ?_⟩
  · intro x hx
    exact InequalityProgram.contains_rows_iff_admits_relaxed hshaped hf hx
  · intro hl hu x hx h
    have hrelaxed := (InequalityProgram.contains_rows_iff_admits_relaxed hshaped hf hx).1 h
    exact not_admits_relaxed_of_crossedAt hshaped hcrossed hl hu x hrelaxed

theorem DenseForm.lowerings_of_crossedAt_sample :
    crossedSample.shapeFault? = none ∧ crossedSample.Numeric ∧
    crossedSample.CrossedAt 0 (.finite 7) (.finite 5) ∧
    (∀ library, BoundedProgram.ofDense library crossedSample
      = .error (.contradiction (.crossedBounds (BoundedProgram.crossed crossedSample)))) ∧
    ∀ x : List Rat, x.length = 2 →
      ¬ ∀ h ∈ (InequalityProgram.ofDense crossedSample).rows, h.Contains x := by
  have hs : crossedSample.shapeFault? = none := by decide
  have hf : crossedSample.Numeric := by decide
  have hcrossed : crossedSample.CrossedAt 0 (.finite 7) (.finite 5) := by decide +kernel
  obtain ⟨hbounded, -, hnone⟩ := lowerings_of_crossedAt crossedSample hs hf hcrossed
  exact ⟨hs, hf, hcrossed, hbounded, hnone rfl rfl⟩

/-- A lower bound above everything crosses every finite one, but only the finite one has a row:
there is no program with native bounds, and yet every half-space contains the upper bound. -/
theorem DenseForm.contains_of_crossedAt_infinity :
    crossedAtInfinity.shapeFault? = none ∧ crossedAtInfinity.Numeric ∧
    crossedAtInfinity.CrossedAt 0 (.infinite false) (.finite 5) ∧
    (∀ library, BoundedProgram.ofDense library crossedAtInfinity
      = .error (.contradiction (.crossedBounds ["x"]))) ∧
    ∀ h ∈ (InequalityProgram.ofDense crossedAtInfinity).rows, h.Contains [5] := by
  have hs : crossedAtInfinity.shapeFault? = none := by decide
  have hcrossed : crossedAtInfinity.CrossedAt 0 (.infinite false) (.finite 5) := by decide +kernel
  exact ⟨hs, by decide, hcrossed, BoundedProgram.ofDense_of_crossedAt (shaped_iff.2 hs) hcrossed,
    by decide +kernel⟩

end LinearDispatch
