-- SUMMARY: How libraries form a product of vectors, in any order and with or without fused steps; without rounding it is always the dot product.
import LinearDispatch.Number.Fused
import LinearDispatch.Proofs.Exact

/-!
# Accumulations

A library of linear algebra is free in how it forms the product of two vectors:
it may split the positions among several sums, take them in any order, and fuse
a multiplication with the addition that follows. A tree says how one product
was formed. Its leaves are the terms, each of them a coefficient with a value,
and its value is what the operations come to.

Where nothing is rounded all trees over the same terms have one value, so that it
makes no difference which library is asked.
-/
namespace LinearDispatch

/-- How the product of two vectors was formed. -/
inductive Accumulation (α : Type) where
  | zero
  | product (c x : α)
  | fused (c x : α) (rest : Accumulation α)
  | sum (left right : Accumulation α)

namespace Accumulation

variable {α : Type}

/-- The coefficients with the values that they are multiplied with. -/
def terms : Accumulation α → List (α × α)
  | zero           => []
  | product c x    => [(c, x)]
  | fused c x rest => (c, x) :: rest.terms
  | sum left right => left.terms ++ right.terms

/-- What the operations come to. -/
def value [Scalar α] [Fused α] : Accumulation α → α
  | zero           => 0
  | product c x    => c * x
  | fused c x rest => Fused.fma c x rest.value
  | sum left right => left.value + right.value

end Accumulation

/-- Every product of two vectors of one length is formed from their positions, each taken once. -/
def InnerProduct.Accumulates {α : Type} [Scalar α] [Fused α] (inner : InnerProduct α) : Prop :=
  ∀ cs xs, xs.length = cs.length →
    ∃ t : Accumulation α, t.terms.Perm (List.zip cs xs) ∧ t.value = inner cs xs

/-! ## Libraries -/

/-- The dot product multiplies position by position, and adds from left to right. -/
theorem accumulates_dot {α : Type} [Scalar α] [Fused α] :
    InnerProduct.Accumulates (α := α) Scalar.dot := by
  intro cs xs _
  have hfold : ∀ (ts : List (α × α)) (t : Accumulation α), ∃ u : Accumulation α,
      u.terms = t.terms ++ ts ∧ u.value = (ts.map fun p => p.1 * p.2).foldl (· + ·) t.value := by
    intro ts
    induction ts with
    | nil => exact fun t => ⟨t, by simp, rfl⟩
    | cons p ts ih =>
      intro t
      obtain ⟨u, hterms, hvalue⟩ := ih (.sum t (.product p.1 p.2))
      exact ⟨u, by simp [hterms, Accumulation.terms], hvalue⟩
  obtain ⟨t, hterms, hvalue⟩ := hfold (List.zip cs xs) .zero
  refine ⟨t, .of_eq hterms, ?_⟩
  rw [hvalue, Scalar.dot, Scalar.sum, List.zip, List.map_zipWith]
  rfl

theorem Binary64.accumulates_fusedProduct : Binary64.fusedProduct.Accumulates := by
  intro cs xs _
  have hfold : ∀ (ts : List (Float × Float)) (t : Accumulation Float), ∃ u : Accumulation Float,
      u.terms.Perm (ts ++ t.terms) ∧
        u.value = ts.foldl (fun acc p => Fused.fma p.1 p.2 acc) t.value := by
    intro ts
    induction ts with
    | nil => exact fun t => ⟨t, .refl _, rfl⟩
    | cons p ts ih =>
      intro t
      obtain ⟨u, hterms, hvalue⟩ := ih (.fused p.1 p.2 t)
      exact ⟨u, hterms.trans List.perm_middle, hvalue⟩
  rw [fusedProduct.eq_def]
  split
  · next c x _ => exact ⟨.product c x, .refl _, rfl⟩
  · obtain ⟨t, hterms, hvalue⟩ := hfold (List.zip cs xs) .zero
    exact ⟨t, by simpa [Accumulation.terms] using hterms, hvalue⟩

/-! ## Exact arithmetic -/

namespace Exact

theorem value_eq_sum (t : Accumulation Exact) :
    t.value = (t.terms.map fun p => p.1 * p.2).sum := by
  induction t with
  | zero => rfl
  | product c x =>
    change c * x = c * x + 0
    exact (Exact.add_zero _).symm
  | fused c x rest ih =>
    rw [Accumulation.terms, List.map_cons, List.sum_cons, ← ih]
    rfl
  | sum left right ihl ihr =>
    change left.value + right.value = _
    rw [Accumulation.terms, List.map_append, List.sum_append, ihl, ihr]

/-- However a product is formed, it is the dot product where nothing is rounded. -/
theorem inner_eq_dot {inner : InnerProduct Exact} (h : inner.Accumulates) {cs xs : List Exact}
    (hlength : xs.length = cs.length) : inner cs xs = Scalar.dot cs xs := by
  obtain ⟨t, hterms, hvalue⟩ := h cs xs hlength
  calc inner cs xs
      = (t.terms.map fun p => p.1 * p.2).sum := by rw [← hvalue, value_eq_sum]
    _ = ((List.zip cs xs).map fun p => p.1 * p.2).sum := (hterms.map _).foldr_op_eq
    _ = Scalar.dot cs xs := by rw [Scalar.dot, sum_eq, List.zip, List.map_zipWith]

end Exact

end LinearDispatch
