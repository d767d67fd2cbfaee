-- SUMMARY: Registry lookups agree: every registered name is in normal form and finds its factory, and labels of one normal form find the same.
import Mathlib.Data.String.Basic
import LinearDispatch.Proofs.Registry.History
import LinearDispatch.Proofs.Text

/-!
# Lookups in a registry

Every call that writes to a registry writes under a normal form, and a normal
form is its own normal form. So a registered name can be asked for as it is
listed, and whether a label is known is settled by its normal form alone.
-/
namespace LinearDispatch

/-! ## Names in order -/

theorem mem_sortNames {names : List String} {name : String} :
    name ∈ sortNames names ↔ name ∈ names :=
  (List.mergeSort_perm names _).mem_iff

/-- Different names stand in ascending order. -/
theorem pairwise_sortNames {names : List String} (h : names.Nodup) :
    (sortNames names).Pairwise (· < ·) := by
  have hle : (sortNames names).Pairwise fun a b => (!decide (b < a)) = true := by
    refine List.pairwise_mergeSort ?_ ?_ names
    · intro a b c hab hbc
      simp only [Bool.not_eq_true', decide_eq_false_iff_not, not_lt] at hab hbc ⊢
      exact hab.trans hbc
    · intro a b
      simp only [Bool.or_eq_true, Bool.not_eq_true', decide_eq_false_iff_not, not_lt]
      exact le_total a b
  have hnodup : (sortNames names).Nodup := (List.mergeSort_perm names _).nodup_iff.2 h
  refine (List.pairwise_and_iff.2 ⟨hle, hnodup⟩).imp fun ⟨hab, hne⟩ => ?_
  simp only [Bool.not_eq_true', decide_eq_false_iff_not, not_lt] at hab
  exact lt_of_le_of_ne hab hne

namespace Registry

variable {α : Type} {r start : Registry (Factory α)} {prior : List (Registration α)}

/-- Every name under which a factory stands is its own key. -/
def Normal (r : Registry (Factory α)) : Prop :=
  ∀ key ∈ r.keys, (Label.text key).key? = some key

theorem mem_names {key : String} : key ∈ r.names ↔ key ∈ r.keys :=
  mem_sortNames

theorem pairwise_names (r : Registry (Factory α)) : r.names.Pairwise (· < ·) :=
  pairwise_sortNames r.entries.distinct

/-! ## Keys in normal form -/

theorem Normal.proper (h : r.Normal) : r.Proper := by
  rw [Proper, Option.eq_none_iff_forall_ne_some]
  intro f hf
  have hmem : "" ∈ r.keys := Table.contains_iff_mem_keys.1 (Option.isSome_of_eq_some hf)
  exact (Label.key?_eq_some_iff.1 (h "" hmem)).2 rfl

theorem normal_empty : (empty : Registry (Factory α)).Normal :=
  List.forall_mem_nil _

theorem normal_perform (h : r.Normal) (c : Registration α) : (r.perform c).state.Normal := by
  have heffect := effect_perform h.proper c
  generalize r.perform c = o at heffect
  cases heffect with
  | refused => exact h
  | @written key f _ hkey =>
    intro k hk
    rcases Table.mem_keys_insert.1 hk with rfl | hk
    · obtain ⟨hnormal, hne⟩ := Label.key?_eq_some_iff.1 hkey
      exact Label.key?_eq_some_iff.2 ⟨Label.normalize_of_normalize hnormal, hne⟩
    · exact h k hk

theorem normal_run (h : r.Normal) (calls : List (Registration α)) : (r.run calls).Normal := by
  induction calls generalizing r with
  | nil => exact h
  | cons c calls ih => exact ih (normal_perform h c)

theorem Starting.normal_run (h : Starting start prior) (calls : List (Registration α)) :
    (start.run calls).Normal := by
  rw [h.eq_run, ← run_append]
  exact Registry.normal_run normal_empty (prior ++ calls)

/-! ## Lookups -/

theorem has_iff {name : Label} :
    r.has name = true ↔ ∃ key, name.normalize = some key ∧ key ≠ "" ∧ key ∈ r.names := by
  have hmem : ∀ key, (r.entries.get? key).isSome = true ↔ key ∈ r.names := fun key => by
    rw [mem_names]
    exact Table.contains_iff_mem_keys
  rw [has, find?]
  cases hkey : name.key? with
  | none =>
    constructor
    · intro h
      cases h
    · rintro ⟨key, hnormal, hne, -⟩
      rw [Label.key?_eq_some_iff.2 ⟨hnormal, hne⟩] at hkey
      cases hkey
  | some key =>
    obtain ⟨hnormal, hne⟩ := Label.key?_eq_some_iff.1 hkey
    simp [hnormal, hne, hmem]

theorem has_congr {a b : Label} (h : a.normalize = b.normalize) : r.has a = r.has b := by
  rw [has, has, find?, find?, Label.key?_congr h]

/-- A registered name is known as it is listed. -/
theorem Normal.has (h : r.Normal) {key : String} (hkey : key ∈ r.names) :
    r.has (.text key) = true := by
  obtain ⟨hnormal, hne⟩ := Label.key?_eq_some_iff.1 (h key (mem_names.1 hkey))
  exact has_iff.2 ⟨key, hnormal, hne, hkey⟩

/-! ## Instances -/

theorem exists_create_of_has {name : Label} (h : r.has name = true) :
    ∃ f, r.find? name = some f ∧ r.create name = f.mapError .raised := by
  obtain ⟨f, hf⟩ := Option.isSome_iff_exists.1 h
  exact ⟨f, hf, create_of_find? hf⟩

theorem create_of_not_has {name : Label} (h : r.has name = false) :
    r.create name = .error (.unknownBackend name r.names) :=
  create_of_find?_eq_none (by simpa [Registry.has] using h)

theorem create_ne_unknownBackend {name : Label} (h : r.has name = true) (asked : Label)
    (known : List String) : r.create name ≠ .error (.unknownBackend asked known) := by
  obtain ⟨f, -, hcreate⟩ := exists_create_of_has h
  rw [hcreate]
  cases f <;> exact nofun

/-- What is unknown are the labels without a factory, and nothing else is refused in this way. -/
theorem create_eq_unknownBackend_iff {name : Label} :
    (∃ asked known, r.create name = .error (.unknownBackend asked known)) ↔
      r.has name = false := by
  constructor
  · rintro ⟨asked, known, hcreate⟩
    rw [Bool.eq_false_iff]
    exact fun h => create_ne_unknownBackend h asked known hcreate
  · exact fun h => ⟨name, r.names, create_of_not_has h⟩

/-- Labels of one normal form stand for the same instance, or are refused each as what it is. -/
theorem create_congr {a b : Label} (h : a.normalize = b.normalize) :
    (∃ f, r.create a = Except.mapError .raised f ∧ r.create b = f.mapError .raised) ∨
      r.create a = .error (.unknownBackend a r.names) ∧
        r.create b = .error (.unknownBackend b r.names) := by
  cases ha : r.has a with
  | true =>
    obtain ⟨f, hf, hcreate⟩ := exists_create_of_has ha
    refine .inl ⟨f, hcreate, create_of_find? ?_⟩
    rwa [find?, ← Label.key?_congr h]
  | false => exact .inr ⟨create_of_not_has ha, create_of_not_has (has_congr h ▸ ha)⟩

/-! ## Agreement -/

/-- The listed names, membership and instances agree with each other: what is listed are the normal
forms under which there are backends, and the normal form of a label settles what it stands for. -/
structure Coherent (r : Registry (Factory α)) : Prop where
  ordered : r.names.Pairwise (· < ·)
  listed : ∀ key ∈ r.names, key ≠ "" ∧ (Label.text key).normalize = some key ∧
    r.has (.text key) = true ∧
    ∀ asked known, r.create (.text key) ≠ .error (.unknownBackend asked known)
  known_iff : ∀ name, r.has name = true ↔
    ∃ key, name.normalize = some key ∧ key ≠ "" ∧ key ∈ r.names
  unknown_iff : ∀ name, (∃ asked known, r.create name = .error (.unknownBackend asked known)) ↔
    r.has name = false
  refused : ∀ name, r.has name = false → r.create name = .error (.unknownBackend name r.names)
  alike : ∀ a b : Label, a.normalize = b.normalize → r.has a = r.has b ∧
    ((∃ f : Factory α, r.create a = f.mapError .raised ∧ r.create b = f.mapError .raised) ∨
      r.create a = .error (.unknownBackend a r.names) ∧
        r.create b = .error (.unknownBackend b r.names))

theorem Normal.coherent (h : r.Normal) : r.Coherent where
  ordered := r.pairwise_names
  listed := by
    intro key hkey
    obtain ⟨hnormal, hne⟩ := Label.key?_eq_some_iff.1 (h key (mem_names.1 hkey))
    have hhas := h.has hkey
    exact ⟨hne, hnormal, hhas, create_ne_unknownBackend hhas⟩
  known_iff _ := has_iff
  unknown_iff _ := create_eq_unknownBackend_iff
  refused _ := create_of_not_has
  alike _ _ hnormal := ⟨has_congr hnormal, create_congr hnormal⟩

end Registry

end LinearDispatch
