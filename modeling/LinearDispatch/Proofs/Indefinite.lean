-- SUMMARY: What makes a product of vectors no number, however a library forms it, and that nothing else does while the sums stay in the range.
import LinearDispatch.Proofs.Accumulation
import LinearDispatch.Proofs.Directed

/-!
# Products that are no number

Where sums are rounded, trees over the same terms have different values. All of
them agree on what a coefficient does to them that is infinite or no number:
a zero takes an infinite one with it, and two that come to opposite infinities
meet in some sum, whatever the order. Only a sum that leaves the range on the
way makes a difference, since what it meets then depends on the order.
-/
namespace LinearDispatch

open Scalar (isNaN isFinite isInfinite direction?)

namespace Accumulation

variable {α : Type} [Scalar α] {ts us : List (α × α)} {p : α × α} {c x u v : α}

/-- The terms leave no number for a product, however it is formed from them. -/
inductive Indefinite (ts : List (α × α)) : Prop where
  | nan (c x : α) (mem : (c, x) ∈ ts) (nan : isNaN c = true)
  | erased (c x : α) (mem : (c, x) ∈ ts) (infinite : isInfinite c = true)
    (zero : Scalar.eq x 0 = true)
  | opposed (c x d y : α) (mem : (c, x) ∈ ts) (mem' : (d, y) ∈ ts)
    (infinite : isInfinite c = true) (infinite' : isInfinite d = true)
    (below : direction? (c * x) = some true) (above : direction? (d * y) = some false)

theorem Indefinite.mono (h : Indefinite ts) (hsub : ts ⊆ us) : Indefinite us := by
  cases h with
  | nan c x hmem hnan => exact .nan c x (hsub hmem) hnan
  | erased c x hmem hinfinite hzero => exact .erased c x (hsub hmem) hinfinite hzero
  | opposed c x d y hmem hmem' hinfinite hinfinite' hbelow habove =>
    exact .opposed c x d y (hsub hmem) (hsub hmem') hinfinite hinfinite' hbelow habove

/-- Finite coefficients leave a number wherever no sum of them leaves the range. -/
theorem not_indefinite_of_isFinite [DefiniteScalar α] (h : ∀ p ∈ ts, isFinite p.1 = true) :
    ¬ Indefinite ts := by
  intro hi
  cases hi with
  | nan c x hmem hnan =>
    rw [Scalar.isNaN_of_isFinite (h _ hmem)] at hnan
    cases hnan
  | erased c x hmem hinfinite hzero =>
    rw [Scalar.isInfinite_of_isFinite (h _ hmem)] at hinfinite
    cases hinfinite
  | opposed c x d y hmem hmem' hinfinite hinfinite' hbelow habove =>
    rw [Scalar.isInfinite_of_isFinite (h _ hmem)] at hinfinite
    cases hinfinite

theorem isNaN_mul_finite [DefiniteScalar α] (hx : isFinite x = true) :
    isNaN (c * x) = true ↔ isNaN c = true ∨ isInfinite c = true ∧ Scalar.eq x 0 = true := by
  simp [DefiniteScalar.isNaN_mul_eq, Scalar.isNaN_of_isFinite hx, Scalar.isInfinite_of_isFinite hx]

/-! ### What a coefficient does to a result -/

/-- The term leaves a number for the result: its coefficient is one, and where that is infinite the
result is the infinity that the product is. -/
def Allows (p : α × α) (result : α) : Prop :=
  isNaN p.1 = false ∧
    (isInfinite p.1 = true → ∃ d, direction? (p.1 * p.2) = some d ∧ direction? result = some d)

variable [Fused α] [DirectedScalar α]

theorem allows_product (hproduct : isNaN (c * x) = false) : Allows (c, x) (c * x) := by
  constructor
  · rw [Bool.eq_false_iff]
    intro hc
    rw [OrderedScalar.isNaN_mul (.inl hc)] at hproduct
    cases hproduct
  · intro hinfinite
    obtain ⟨d, hd⟩ :=
      Scalar.exists_direction? (DirectedScalar.isInfinite_mul hinfinite hproduct)
    exact ⟨d, hd, hd⟩

theorem isNaN_of_isNaN_add (h : isNaN (u + v) = false) : isNaN u = false ∧ isNaN v = false := by
  simp only [DefiniteScalar.isNaN_add_eq, Bool.or_eq_false_iff] at h
  exact h.1

theorem Allows.add (hsum : isNaN (u + v) = false) (h : Allows p u ∨ Allows p v) :
    Allows p (u + v) := by
  rcases h with ⟨hnan, hdirection⟩ | ⟨hnan, hdirection⟩
  · refine ⟨hnan, fun hinfinite => ?_⟩
    obtain ⟨d, hproduct, hu⟩ := hdirection hinfinite
    exact ⟨d, hproduct, DirectedScalar.direction?_add hsum (.inl hu)⟩
  · refine ⟨hnan, fun hinfinite => ?_⟩
    obtain ⟨d, hproduct, hv⟩ := hdirection hinfinite
    exact ⟨d, hproduct, DirectedScalar.direction?_add hsum (.inr hv)⟩

/-- A product that is a number is one that every term allows. -/
theorem allows_value {t : Accumulation α} (hfinite : ∀ p ∈ t.terms, isFinite p.2 = true)
    (hvalue : isNaN t.value = false) : ∀ p ∈ t.terms, Allows p t.value := by
  induction t with
  | zero => nofun
  | product c x =>
    intro p hp
    obtain rfl := List.mem_singleton.1 hp
    exact allows_product hvalue
  | fused c x rest ih =>
    have hrest : ∀ p ∈ rest.terms, isFinite p.2 = true :=
      fun p hp => hfinite p (List.mem_cons_of_mem _ hp)
    intro p hp
    by_cases hc : isFinite c = true
    · have hx : isFinite x = true := hfinite (c, x) List.mem_cons_self
      have hnumber : isNaN rest.value = false := by
        rw [← DirectedScalar.isNaN_fma hc hx]
        exact hvalue
      rcases List.mem_cons.1 hp with rfl | hp
      · refine ⟨Scalar.isNaN_of_isFinite hc, fun hinfinite => ?_⟩
        rw [Scalar.isInfinite_of_isFinite hc] at hinfinite
        cases hinfinite
      · obtain ⟨hnan, hdirection⟩ := ih hrest hnumber p hp
        refine ⟨hnan, fun hinfinite => ?_⟩
        obtain ⟨d, hproduct, hd⟩ := hdirection hinfinite
        exact ⟨d, hproduct, DirectedScalar.direction?_fma hc hx hd⟩
    · have heq : (fused c x rest).value = c * x + rest.value :=
        DirectedScalar.fma_eq (Bool.eq_false_iff.2 hc)
      rw [heq] at hvalue ⊢
      obtain ⟨hproduct, hnumber⟩ := isNaN_of_isNaN_add hvalue
      rcases List.mem_cons.1 hp with rfl | hp
      · exact .add hvalue (.inl (allows_product hproduct))
      · exact .add hvalue (.inr (ih hrest hnumber p hp))
  | sum left right ihl ihr =>
    obtain ⟨hl, hr⟩ := isNaN_of_isNaN_add (u := left.value) (v := right.value) hvalue
    intro p hp
    rcases List.mem_append.1 hp with hmem | hmem
    · exact .add hvalue (.inl (ihl (fun q hq => hfinite q (List.mem_append_left _ hq)) hl p hmem))
    · exact .add hvalue (.inr (ihr (fun q hq => hfinite q (List.mem_append_right _ hq)) hr p hmem))

/-- No way of forming a product makes a number of terms that leave none. -/
theorem isNaN_value_of_indefinite {t : Accumulation α}
    (hfinite : ∀ p ∈ t.terms, isFinite p.2 = true) (h : Indefinite t.terms) :
    isNaN t.value = true := by
  rw [← Bool.not_eq_false]
  intro hvalue
  have hallows := allows_value hfinite hvalue
  cases h with
  | nan c x hmem hnan =>
    rw [(hallows _ hmem).1] at hnan
    cases hnan
  | erased c x hmem hinfinite hzero =>
    obtain ⟨d, hproduct, -⟩ := (hallows _ hmem).2 hinfinite
    have hnan : isNaN (c * x) = true :=
      (isNaN_mul_finite (hfinite _ hmem)).2 (.inr ⟨hinfinite, hzero⟩)
    have hnumber := Scalar.isInfinite_of_direction? hproduct
    simp [isInfinite, hnan] at hnumber
  | opposed c x d y hmem hmem' hinfinite hinfinite' hbelow habove =>
    obtain ⟨b, hb, hresult⟩ := (hallows _ hmem).2 hinfinite
    obtain ⟨b', hb', hresult'⟩ := (hallows _ hmem').2 hinfinite'
    obtain rfl : b = true := Option.some.inj (hb.symm.trans hbelow)
    obtain rfl : b' = false := Option.some.inj (hb'.symm.trans habove)
    cases hresult.symm.trans hresult'

/-! ### Where a result that is no number comes from -/

/-- No sum of the terms with finite coefficients leaves the range, whichever of them it takes. -/
def InRange (ts : List (α × α)) : Prop :=
  ∀ t : Accumulation α, t.terms.Subperm ts → (∀ p ∈ t.terms, isFinite p.1 = true) →
    isFinite t.value = true

omit [DirectedScalar α] in
theorem InRange.mono (h : InRange us) (hsub : ts.Subperm us) : InRange ts :=
  fun t ht => h t (ht.trans hsub)

/-- An infinite result is the product with an infinite coefficient. -/
def Stems (result : α) (ts : List (α × α)) : Prop :=
  ∀ d, direction? result = some d →
    ∃ p ∈ ts, isInfinite p.1 = true ∧ direction? (p.1 * p.2) = some d

theorem stems_value {t : Accumulation α} (hfinite : ∀ p ∈ t.terms, isFinite p.2 = true)
    (hrange : InRange t.terms) (hvalue : isNaN t.value = false) : Stems t.value t.terms := by
  intro d hd
  have hallows := allows_value hfinite hvalue
  by_cases hcs : ∀ p ∈ t.terms, isFinite p.1 = true
  · have hinfinite := Scalar.isInfinite_of_direction? hd
    rw [Scalar.isInfinite_of_isFinite (hrange t (.refl _) hcs)] at hinfinite
    cases hinfinite
  · obtain ⟨p, hp, hnot⟩ := not_forall₂.1 hcs
    have hinfinite : isInfinite p.1 = true := by simp [isInfinite, (hallows p hp).1, hnot]
    obtain ⟨e, hproduct, hresult⟩ := (hallows p hp).2 hinfinite
    obtain rfl : e = d := Option.some.inj (hresult.symm.trans hd)
    exact ⟨p, hp, hinfinite, hproduct⟩

/-- Two infinities that stem from terms without opposite ones are not opposite. -/
theorem isNaN_add_of_stems (hu : isNaN u = false) (hv : isNaN v = false) (hleft : Stems u ts)
    (hright : Stems v us) (hdefinite : ¬ Indefinite (ts ++ us)) : isNaN (u + v) = false := by
  rw [DefiniteScalar.isNaN_add_eq, hu, hv, Bool.eq_false_iff]
  intro hclash
  obtain ⟨⟨hui, hvi⟩, hne⟩ : (isInfinite u = true ∧ isInfinite v = true) ∧
      Scalar.eq u v = false := by simpa using hclash
  obtain ⟨d, hd⟩ := Scalar.exists_direction? hui
  obtain ⟨e, he⟩ := Scalar.exists_direction? hvi
  obtain ⟨p, hp, hpi, hproduct⟩ := hleft d hd
  obtain ⟨q, hq, hqi, hproduct'⟩ := hright e he
  have hp' := List.mem_append_left us hp
  have hq' := List.mem_append_right ts hq
  cases d with
  | true =>
    cases e with
    | true =>
      rw [DirectedScalar.eq_of_direction? hd he] at hne
      cases hne
    | false => exact hdefinite (.opposed _ _ _ _ hp' hq' hpi hqi hproduct hproduct')
  | false =>
    cases e with
    | true => exact hdefinite (.opposed _ _ _ _ hq' hp' hqi hpi hproduct' hproduct)
    | false =>
      rw [DirectedScalar.eq_of_direction? hd he] at hne
      cases hne

theorem isNaN_product (hx : isFinite x = true) (hdefinite : ¬ Indefinite [(c, x)]) :
    isNaN (c * x) = false := by
  rw [Bool.eq_false_iff]
  intro hnan
  rcases (isNaN_mul_finite hx).1 hnan with hc | ⟨hc, hzero⟩
  · exact hdefinite (.nan c x List.mem_cons_self hc)
  · exact hdefinite (.erased c x List.mem_cons_self hc hzero)

theorem isNaN_value_of_not_indefinite {t : Accumulation α}
    (hfinite : ∀ p ∈ t.terms, isFinite p.2 = true) (hrange : InRange t.terms)
    (hdefinite : ¬ Indefinite t.terms) : isNaN t.value = false := by
  induction t with
  | zero => exact Scalar.isNaN_zero
  | product c x => exact isNaN_product (hfinite (c, x) List.mem_cons_self) hdefinite
  | fused c x rest ih =>
    have hx : isFinite x = true := hfinite (c, x) List.mem_cons_self
    have hrest : ∀ p ∈ rest.terms, isFinite p.2 = true :=
      fun p hp => hfinite p (List.mem_cons_of_mem _ hp)
    have hrange' : InRange rest.terms := hrange.mono (List.sublist_cons_self ..).subperm
    have hnumber : isNaN rest.value = false :=
      ih hrest hrange' fun h => hdefinite (h.mono (List.subset_cons_self ..))
    by_cases hc : isFinite c = true
    · rw [← hnumber]
      exact DirectedScalar.isNaN_fma hc hx
    · have heq : (fused c x rest).value = c * x + rest.value :=
        DirectedScalar.fma_eq (Bool.eq_false_iff.2 hc)
      have hproduct : isNaN (c * x) = false :=
        isNaN_product hx fun h => hdefinite (h.mono (by simp [terms]))
      have hstems : Stems (c * x) [(c, x)] := by
        intro d hd
        have hinfinite : isInfinite c = true := by
          simp [isInfinite, (allows_product hproduct).1, hc]
        exact ⟨(c, x), List.mem_cons_self, hinfinite, hd⟩
      rw [heq]
      exact isNaN_add_of_stems hproduct hnumber hstems (stems_value hrest hrange' hnumber) hdefinite
  | sum left right ihl ihr =>
    have hl : ∀ p ∈ left.terms, isFinite p.2 = true :=
      fun p hp => hfinite p (List.mem_append_left _ hp)
    have hr : ∀ p ∈ right.terms, isFinite p.2 = true :=
      fun p hp => hfinite p (List.mem_append_right _ hp)
    have hrangel : InRange left.terms := hrange.mono (List.sublist_append_left ..).subperm
    have hranger : InRange right.terms := hrange.mono (List.sublist_append_right ..).subperm
    have hleft : isNaN left.value = false :=
      ihl hl hrangel fun h => hdefinite (h.mono (List.subset_append_left ..))
    have hright : isNaN right.value = false :=
      ihr hr hranger fun h => hdefinite (h.mono (List.subset_append_right ..))
    exact isNaN_add_of_stems hleft hright (stems_value hl hrangel hleft)
      (stems_value hr hranger hright) hdefinite

end Accumulation

/-! ### Products -/

section Products

open Accumulation (Indefinite InRange)

variable {α : Type} [Scalar α] [Fused α] [DirectedScalar α] {inner : InnerProduct α}
  {cs xs : List α}

theorem InnerProduct.Accumulates.isNaN_of_indefinite (h : inner.Accumulates)
    (hlength : xs.length = cs.length) (hfinite : ∀ x ∈ xs, isFinite x = true)
    (hi : Indefinite (List.zip cs xs)) : isNaN (inner cs xs) = true := by
  obtain ⟨t, hterms, hvalue⟩ := h cs xs hlength
  rw [← hvalue]
  apply Accumulation.isNaN_value_of_indefinite
  · intro p hp
    exact hfinite _ (List.of_mem_zip (hterms.mem_iff.1 hp)).2
  · exact hi.mono hterms.symm.subset

/-- In the range the product is a number unless its terms leave none. -/
theorem InnerProduct.Accumulates.isNaN_iff (h : inner.Accumulates)
    (hlength : xs.length = cs.length) (hfinite : ∀ x ∈ xs, isFinite x = true)
    (hrange : InRange (List.zip cs xs)) :
    isNaN (inner cs xs) = true ↔ Indefinite (List.zip cs xs) := by
  constructor
  · intro hnan
    by_contra hdefinite
    obtain ⟨t, hterms, hvalue⟩ := h cs xs hlength
    have hnumber : isNaN t.value = false := by
      apply Accumulation.isNaN_value_of_not_indefinite
      · intro p hp
        exact hfinite _ (List.of_mem_zip (hterms.mem_iff.1 hp)).2
      · exact hrange.mono hterms.subperm
      · exact fun hi => hdefinite (hi.mono hterms.subset)
    rw [hvalue, hnan] at hnumber
    cases hnumber
  · exact h.isNaN_of_indefinite hlength hfinite

end Products

/-- Without rounding no sum leaves the range. -/
theorem Exact.inRange {ts : List (Exact × Exact)} (hvalues : ∀ p ∈ ts, isFinite p.2 = true) :
    Accumulation.InRange ts := by
  intro t hsub hcoefficients
  have hsum : ∀ us : List (Exact × Exact),
      (∀ p ∈ us, isFinite p.1 = true ∧ isFinite p.2 = true) →
      isFinite (us.map fun p => p.1 * p.2).sum = true := by
    intro us hus
    induction us with
    | nil => rfl
    | cons p us ih =>
      obtain ⟨hc, hx⟩ := hus p List.mem_cons_self
      obtain ⟨c, hc⟩ := Exact.isFinite_iff.1 hc
      obtain ⟨x, hx⟩ := Exact.isFinite_iff.1 hx
      obtain ⟨q, hq⟩ := Exact.isFinite_iff.1 (ih fun r hr => hus r (List.mem_cons_of_mem _ hr))
      rw [List.map_cons, List.sum_cons, hc, hx, hq]
      rfl
  rw [Exact.value_eq_sum]
  exact hsum t.terms fun p hp => ⟨hcoefficients p hp, hvalues p (hsub.subset hp)⟩

end LinearDispatch
