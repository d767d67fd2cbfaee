-- SUMMARY: The last entry of a list that decides something: how one more entry at the end changes which one it is.
import Mathlib.Init

/-!
# Last entries

The state that a run ends in is often settled by one of its steps, with only
steps after it that leave the matter alone. Such a statement about a run is
proved along the run: one more step either decides anew, or leaves the matter
to the steps before it.
-/
namespace LinearDispatch

variable {γ : Type} {l : List γ} {a c : γ}

theorem getElem?_concat_eq_some_iff {i : Nat} :
    (l ++ [a])[i]? = some c ↔ (i < l.length ∧ l[i]? = some c) ∨ i = l.length ∧ c = a := by
  rcases Nat.lt_trichotomy i l.length with hi | rfl | hi
  · simp [List.getElem?_append_left hi, hi, Nat.ne_of_lt hi]
  · simp [eq_comm]
  · have hbeyond : (l ++ [a])[i]? = none := by
      simp only [List.getElem?_eq_none_iff, List.length_append, List.length_singleton]
      omega
    simp [hbeyond, Nat.not_lt_of_gt hi, Nat.ne_of_gt hi]

/-- An entry of the longer list decides, with entries after it that keep off: it is the new one, or
the new one keeps off and an entry of the shorter list decides. What an entry does may depend on
its position, and on the entries before it, but not on the new one. -/
theorem exists_last_concat {Decides KeepsOff Decides' KeepsOff' : Nat → γ → Prop}
    (hdecides : ∀ i c, i < l.length → (Decides i c ↔ Decides' i c))
    (hkeeps : ∀ i c, i < l.length → (KeepsOff i c ↔ KeepsOff' i c)) :
    (∃ (i : Nat) (c : γ), (l ++ [a])[i]? = some c ∧ Decides i c ∧
      ∀ (j : Nat) d, i < j → (l ++ [a])[j]? = some d → KeepsOff j d) ↔
    Decides l.length a ∨
      (∃ (i : Nat) (c : γ), l[i]? = some c ∧ Decides' i c ∧
        ∀ (j : Nat) d, i < j → l[j]? = some d → KeepsOff' j d) ∧ KeepsOff l.length a := by
  constructor
  · rintro ⟨i, c, hc, hi, hlater⟩
    -- The entry that decides comes before the new one, which is then a later one, or is the new one.
    rcases getElem?_concat_eq_some_iff.1 hc with ⟨hlt, hc⟩ | ⟨rfl, rfl⟩
    · right
      refine ⟨⟨i, c, hc, (hdecides i c hlt).1 hi, fun j d hij hd => ?_⟩,
        hlater _ a hlt (getElem?_concat_eq_some_iff.2 (.inr ⟨rfl, rfl⟩))⟩
      have hj : j < l.length := (List.getElem?_eq_some_iff.1 hd).1
      exact (hkeeps j d hj).1 (hlater j d hij (getElem?_concat_eq_some_iff.2 (.inl ⟨hj, hd⟩)))
    · exact .inl hi
  · rintro (hnew | ⟨⟨i, c, hc, hi, hlater⟩, hnew⟩)
    · refine ⟨l.length, a, getElem?_concat_eq_some_iff.2 (.inr ⟨rfl, rfl⟩), hnew, ?_⟩
      intro j d hj hd
      rcases getElem?_concat_eq_some_iff.1 hd with ⟨hlt, -⟩ | ⟨rfl, -⟩
      · exact absurd hj (Nat.lt_asymm hlt)
      · exact absurd hj (Nat.lt_irrefl _)
    · have hlt : i < l.length := (List.getElem?_eq_some_iff.1 hc).1
      refine ⟨i, c, getElem?_concat_eq_some_iff.2 (.inl ⟨hlt, hc⟩), (hdecides i c hlt).2 hi, ?_⟩
      intro j d hij hd
      rcases getElem?_concat_eq_some_iff.1 hd with ⟨hj, hd⟩ | ⟨rfl, rfl⟩
      · exact (hkeeps j d hj).2 (hlater j d hij hd)
      · exact hnew

end LinearDispatch
