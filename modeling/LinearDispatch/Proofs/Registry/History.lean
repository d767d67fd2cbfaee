-- SUMMARY: Registries by their history: a name stands for the factory of the last call that wrote it, and an alias for the factory its canonical name had when the alias was made.
import Mathlib.Data.List.Induction
import LinearDispatch.Engine
import LinearDispatch.Number.Exact
import LinearDispatch.Proofs.Last
import LinearDispatch.Registry

/-!
# The history of a registry

A registry is what the calls that were made on it left. A call writes one
factory under one name, or it is refused and changes nothing. What a name
stands for is therefore settled by the last call that wrote under its normal
form. An alias writes the factory that its canonical name has at that moment;
what happens to the canonical name later is no call on the alias.
-/
namespace LinearDispatch

/-! ## Labels -/

namespace Label

theorem key?_eq_some_iff {label : Label} {key : String} :
    label.key? = some key ↔ label.normalize = some key ∧ key ≠ "" := by
  simp [key?, Option.filter_eq_some_iff]

theorem key?_congr {a b : Label} (h : a.normalize = b.normalize) : a.key? = b.key? := by
  rw [key?, key?, h]

end Label

/-! ## Calls -/

/-- A call that is meant to write to a registry. -/
inductive Registration (α : Type) where
  | register (name : Label) (factory : Option (Factory α))
  | registerAlias (synonym canonical : Label)

namespace Registration

variable {α : Type}

/-- The name that a call writes under. -/
def target : Registration α → Label
  | .register name _         => name
  | .registerAlias synonym _ => synonym

/-- The factory that a call has to write: its own, or the one that the canonical name stands for. -/
def factory? (r : Registry (Factory α)) : Registration α → Option (Factory α)
  | .register _ factory         => factory
  | .registerAlias _ canonical  => r.find? canonical

end Registration

namespace Registry

variable {α : Type} {r : Registry (Factory α)} {c : Registration α} {name : Label}

def perform (r : Registry (Factory α)) :
    Registration α → Outcome α (Registry (Factory α)) Unit
  | .register name factory            => r.register name factory
  | .registerAlias synonym canonical  => r.registerAlias synonym canonical

/-- The registry after a run of calls. -/
def run (r : Registry (Factory α)) (calls : List (Registration α)) : Registry (Factory α) :=
  calls.foldl (fun r c => (r.perform c).state) r

/-- The registry as the call at a position of a run finds it. -/
def before (r : Registry (Factory α)) (calls : List (Registration α)) (i : Nat) :
    Registry (Factory α) :=
  r.run (calls.take i)

/-! ## One call -/

/-- No factory stands under the empty name. -/
def Proper (r : Registry (Factory α)) : Prop :=
  r.entries.get? "" = none

/-- An alias need not ask whether the normal form of its canonical name is empty. -/
theorem find?_eq_bind (hr : r.Proper) (name : Label) :
    name.normalize.bind r.entries.get? = r.find? name := by
  rw [find?, Label.key?]
  cases name.normalize with
  | none => rfl
  | some key =>
    by_cases hkey : key = ""
    · rw [hkey]
      exact hr
    · simp [Option.filter, hkey]

/-- What a call can do: write its factory under the normal form of its target, or nothing. -/
inductive Effect (r : Registry (Factory α)) (c : Registration α) :
    Outcome α (Registry (Factory α)) Unit → Prop where
  | written {key : String} {f : Factory α} {events : List (Event α)}
    (hkey : c.target.key? = some key) (hfactory : c.factory? r = some f) :
    Effect r c { state := ⟨r.entries.insert key f⟩, answer := .ok (), events }
  | refused (e : Error α) (cause : c.target.key? = none ∨ c.factory? r = none) :
    Effect r c (.fail r e)

theorem effect_perform (hr : r.Proper) (c : Registration α) : Effect r c (r.perform c) := by
  cases c with
  | register name factory =>
    rw [perform, register]
    split
    · next hkey => exact .refused _ (.inl hkey)
    · next key hkey =>
      cases factory with
      | none => exact .refused _ (.inr rfl)
      | some f => exact .written hkey rfl
  | registerAlias synonym canonical =>
    rw [perform, registerAlias, find?_eq_bind hr]
    split
    · next hkey => exact .refused _ (.inl hkey)
    · next key hkey =>
      split
      · next hnone => exact .refused _ (.inr hnone)
      · next f hf => exact .written hkey hf

theorem proper_perform (hr : r.Proper) (c : Registration α) : (r.perform c).state.Proper := by
  have heffect := effect_perform hr c
  generalize r.perform c = o at heffect
  cases heffect with
  | refused => exact hr
  | written hkey =>
    rw [Proper, Table.get?_insert, if_neg (Label.key?_eq_some_iff.1 hkey).2.symm]
    exact hr

/-- A call that is refused leaves the registry as it was. -/
theorem perform_of_error (hr : r.Proper) {e : Error α} (h : (r.perform c).answer = .error e) :
    (r.perform c).state = r := by
  have heffect := effect_perform hr c
  generalize r.perform c = o at h heffect
  cases heffect with
  | refused => rfl
  | written => cases h

/-- An alias of a name for itself writes what is there. -/
theorem perform_self (hr : r.Proper) {synonym canonical : Label}
    (h : synonym.normalize = canonical.normalize) :
    (r.perform (.registerAlias synonym canonical)).state = r := by
  have heffect := effect_perform hr (.registerAlias synonym canonical)
  generalize r.perform _ = o at heffect
  cases heffect with
  | refused => rfl
  | @written key f _ hkey hfactory =>
    have hget : r.entries.get? key = some f := by
      have hsynonym : synonym.key? = some key := hkey
      rw [Registration.factory?, find?, ← Label.key?_congr h, hsynonym] at hfactory
      exact hfactory
    rw [Table.insert_of_get? hget]

/-- The call goes through, and its target has the normal form of the name. -/
def Writes (r : Registry (Factory α)) (c : Registration α) (name : Label) : Prop :=
  (r.perform c).answer = .ok () ∧ c.target.normalize = name.normalize

theorem find?_perform_of_writes (hr : r.Proper) (h : r.Writes c name) :
    ∃ f, c.factory? r = some f ∧ (r.perform c).state.find? name = some f := by
  obtain ⟨hok, htarget⟩ := h
  have heffect := effect_perform hr c
  generalize r.perform c = o at hok heffect
  cases heffect with
  | refused => cases hok
  | written hkey hfactory =>
    refine ⟨_, hfactory, ?_⟩
    rw [find?, ← Label.key?_congr htarget, hkey]
    simp

theorem find?_perform_of_not_writes (hr : r.Proper) (h : ¬ r.Writes c name) :
    (r.perform c).state.find? name = r.find? name := by
  rw [Writes] at h
  have heffect := effect_perform hr c
  generalize r.perform c = o at h heffect
  cases heffect with
  | refused => rfl
  | @written key f _ hkey =>
    cases hname : name.key? with
    | none => simp [find?, hname]
    | some k =>
      have hne : k ≠ key := by
        rintro rfl
        have hnormal := (Label.key?_eq_some_iff.1 hname).1
        exact h ⟨rfl, (Label.key?_eq_some_iff.1 hkey).1.trans hnormal.symm⟩
      simp [find?, hname, hne]

/-! ## Runs -/

theorem run_cons (r : Registry (Factory α)) (c : Registration α) (calls : List (Registration α)) :
    r.run (c :: calls) = (r.perform c).state.run calls := rfl

theorem run_concat (r : Registry (Factory α)) (calls : List (Registration α))
    (c : Registration α) : r.run (calls ++ [c]) = ((r.run calls).perform c).state := by
  simp [run]

theorem run_append (r : Registry (Factory α)) (calls later : List (Registration α)) :
    r.run (calls ++ later) = (r.run calls).run later := by
  simp [run]

theorem before_length (r : Registry (Factory α)) (calls : List (Registration α)) :
    r.before calls calls.length = r.run calls := by
  rw [before, List.take_length]

theorem before_concat (r : Registry (Factory α)) (calls : List (Registration α))
    (c : Registration α) {i : Nat} (hi : i ≤ calls.length) :
    r.before (calls ++ [c]) i = r.before calls i := by
  rw [before, before, List.take_append_of_le_length hi]

theorem proper_run (hr : r.Proper) (calls : List (Registration α)) : (r.run calls).Proper := by
  induction calls generalizing r with
  | nil => exact hr
  | cons c calls ih => exact ih (proper_perform hr c)

/-- A name keeps its factory while no call has it for a target. -/
theorem find?_run_of_untargeted (hr : r.Proper) {later : List (Registration α)}
    (h : ∀ c ∈ later, c.target.normalize ≠ name.normalize) :
    (r.run later).find? name = r.find? name := by
  induction later generalizing r with
  | nil => rfl
  | cons c later ih =>
    rw [List.forall_mem_cons] at h
    rw [run_cons, ← find?_perform_of_not_writes hr fun hwrites => h.1 hwrites.2]
    exact ih (proper_perform hr c) h.2

/-- A name that stands for a factory always stands for one. -/
theorem has_run (hr : r.Proper) (h : r.has name = true) (later : List (Registration α)) :
    (r.run later).has name = true := by
  induction later generalizing r with
  | nil => exact h
  | cons c later ih =>
    refine ih (proper_perform hr c) ?_
    by_cases hwrites : r.Writes c name
    · obtain ⟨f, -, hf⟩ := find?_perform_of_writes hr hwrites
      rw [has, hf]
      rfl
    · rwa [has, find?_perform_of_not_writes hr hwrites]

/-- Some call of the run wrote the factory under the normal form of the name, and no later one wrote
under it. -/
def LastWritten (r : Registry (Factory α)) (calls : List (Registration α)) (name : Label)
    (f : Factory α) : Prop :=
  ∃ (i : Nat) (c : Registration α), calls[i]? = some c ∧
    ((r.before calls i).Writes c name ∧ c.factory? (r.before calls i) = some f) ∧
    ∀ (j : Nat) d, i < j → calls[j]? = some d → ¬ (r.before calls j).Writes d name

theorem lastWritten_concat {calls : List (Registration α)} {f : Factory α} :
    r.LastWritten (calls ++ [c]) name f ↔
      ((r.run calls).Writes c name ∧ c.factory? (r.run calls) = some f) ∨
        r.LastWritten calls name f ∧ ¬ (r.run calls).Writes c name := by
  have hlast : r.before (calls ++ [c]) calls.length = r.run calls := by
    rw [before_concat r calls c (Nat.le_refl _), before_length]
  have hbefore : ∀ i < calls.length, r.before (calls ++ [c]) i = r.before calls i :=
    fun i hi => before_concat r calls c (Nat.le_of_lt hi)
  rw [← hlast]
  exact exists_last_concat (fun i d hi => by rw [hbefore i hi]) fun i d hi => by rw [hbefore i hi]

theorem find?_empty (name : Label) : (empty : Registry (Factory α)).find? name = none := by
  rw [find?]
  cases name.key? <;> rfl

theorem proper_empty : (empty : Registry (Factory α)).Proper := rfl

/-- A name stands for the factory that was last written under its normal form, and for none if there
is no such call. -/
theorem find?_run_iff (calls : List (Registration α)) (name : Label) (f : Factory α) :
    (empty.run calls).find? name = some f ↔ empty.LastWritten calls name f := by
  induction calls using List.reverseRecOn with
  | nil => simp [run, find?_empty, LastWritten]
  | append_singleton calls c ih =>
    have hproper := proper_run proper_empty calls
    rw [run_concat, lastWritten_concat, ← ih]
    by_cases hwrites : (empty.run calls).Writes c name
    · obtain ⟨g, hg, hfind⟩ := find?_perform_of_writes hproper hwrites
      simp [hwrites, hg, hfind]
    · simp [hwrites, find?_perform_of_not_writes hproper hwrites]

end Registry

/-! ## The built-in backends -/

/-- The calls that make the registry of the built-in backends. -/
def Engines.registrations {α : Type} (e : Engines α) : List (Registration α) :=
  [.register (.text Adapter.inequalityName) (some (.ok e.inequalityAdapter)),
    .register (.text Adapter.boundedName) (some (.ok e.boundedAdapter))]
  ++ builtinAliases.map fun (synonym, canonical) =>
    .registerAlias (.text synonym) (.text canonical)

theorem Registry.state_registerAlias {α β φ : Type} (r : Registry φ) (synonym canonical : Label) :
    (r.registerAlias (α := α) synonym canonical).state =
      (r.registerAlias (α := β) synonym canonical).state := by
  rw [registerAlias, registerAlias]
  split
  · rfl
  · split <;> rfl

/-- The registry that a program starts with is what these calls leave of an empty one. -/
theorem Engines.registry_eq_run {α : Type} (e : Engines α) :
    e.registry = Registry.empty.run e.registrations := by
  have hinequality : (Label.text Adapter.inequalityName).key? = some Adapter.inequalityName := by
    decide +kernel
  have hbounded : (Label.text Adapter.boundedName).key? = some Adapter.boundedName := by
    decide +kernel
  have haliases : ∀ (aliases : List (String × String)) (r : Registry (Factory α)),
      aliases.foldl (fun r (synonym, canonical) =>
        (r.registerAlias (α := Empty) (.text synonym) (.text canonical)).state) r =
      r.run (aliases.map fun (synonym, canonical) =>
        .registerAlias (.text synonym) (.text canonical)) := by
    intro aliases
    induction aliases with
    | nil => exact fun r => rfl
    | cons pair aliases ih =>
      intro r
      obtain ⟨synonym, canonical⟩ := pair
      rw [List.foldl_cons, List.map_cons, Registry.run_cons, ih]
      dsimp only
      rw [r.state_registerAlias (β := α), Registry.perform]
  have hnamed : Registry.empty.run
      [.register (.text Adapter.inequalityName) (some (.ok e.inequalityAdapter)),
        .register (.text Adapter.boundedName) (some (.ok e.boundedAdapter))] =
      ⟨.ofList [(Adapter.inequalityName, .ok e.inequalityAdapter),
        (Adapter.boundedName, .ok e.boundedAdapter)]⟩ := by
    simp only [Registry.run, List.foldl_cons, List.foldl_nil, Registry.perform, Registry.register,
      hinequality, hbounded]
    rfl
  rw [registry, Registry.builtin, haliases, registrations, Registry.run_append, hnamed]

namespace Registry

variable {α : Type} {r start : Registry (Factory α)} {prior : List (Registration α)}

/-- A registry to start with, and the calls that made it. -/
inductive Starting : Registry (Factory α) → List (Registration α) → Prop where
  | empty : Starting .empty []
  | builtin (e : Engines α) : Starting e.registry e.registrations

theorem Starting.eq_run (h : Starting start prior) : start = Registry.empty.run prior := by
  cases h with
  | empty => rfl
  | builtin e => exact e.registry_eq_run

/-! ## Instances -/

theorem create_of_find? {name : Label} {f : Factory α} (h : r.find? name = some f) :
    r.create name = f.mapError .raised := by
  rw [create, find, h]
  cases f <;> rfl

theorem create_of_find?_eq_none {name : Label} (h : r.find? name = none) :
    r.create name = .error (.unknown name r.keys) := by
  rw [create, find, h]

/-- An alias stands for what its canonical name stood for, as long as no other call has the alias
for its target. -/
theorem create_run_of_alias (hr : r.Proper) {synonym canonical : Label}
    (h : (r.perform (.registerAlias synonym canonical)).answer = .ok ())
    {later : List (Registration α)} (hlater : ∀ c ∈ later, c.target.normalize ≠ synonym.normalize) :
    ((r.perform (.registerAlias synonym canonical)).state.run later).create synonym =
      r.create canonical := by
  have hwrites : r.Writes (.registerAlias synonym canonical) synonym := ⟨h, rfl⟩
  obtain ⟨f, hf, hfind⟩ := find?_perform_of_writes hr hwrites
  have hcanonical : r.find? canonical = some f := hf
  have hproper := proper_perform hr (.registerAlias synonym canonical)
  have hkept := find?_run_of_untargeted hproper hlater
  rw [create_of_find? (hkept.trans hfind), create_of_find? hcanonical]

/-- Registries over their whole history. A name gives an instance of the factory that was last
written under its normal form, an alias writing the factory that its canonical name has when the
alias is made; a name under which nothing was written is unknown. So an alias keeps its factory
whatever is registered under its canonical name afterwards, an alias of an alias stands for the same
factory, an alias of a name for itself and a call that is refused change nothing, and a name that
stands for a factory always stands for one. -/
theorem create_run (h : Starting start prior) (calls : List (Registration α)) :
    let r := start.run calls
    let history := prior ++ calls
    (∀ name f, empty.LastWritten history name f → r.create name = f.mapError .raised) ∧
    (∀ name, (∀ f, ¬ empty.LastWritten history name f) →
      r.create name = .error (.unknown name r.keys)) ∧
    (∀ synonym canonical, (r.perform (.registerAlias synonym canonical)).answer = .ok () →
      let r₁ := (r.perform (.registerAlias synonym canonical)).state
      (∀ later, (∀ c ∈ later, c.target.normalize ≠ synonym.normalize) →
        (r₁.run later).create synonym = r.create canonical) ∧
      ∀ second, (r₁.perform (.registerAlias second synonym)).answer = .ok () →
        let r₂ := (r₁.perform (.registerAlias second synonym)).state
        ∀ later, (∀ c ∈ later, c.target.normalize ≠ second.normalize) →
          (r₂.run later).create second = r.create canonical) ∧
    (∀ synonym canonical, synonym.normalize = canonical.normalize →
      (r.perform (.registerAlias synonym canonical)).state = r) ∧
    (∀ c e, (r.perform c).answer = .error e → (r.perform c).state = r) ∧
    ∀ name, r.has name = true → ∀ later, (r.run later).has name = true := by
  intro r history
  have hhistory : r = empty.run history := by
    rw [run_append, ← h.eq_run]
  have hr : r.Proper := hhistory ▸ proper_run proper_empty history
  refine ⟨fun name f hf => ?_, fun name hnone => ?_, fun synonym canonical halias => ?_,
    fun _ _ => perform_self hr, fun _ _ => perform_of_error hr, fun name => has_run hr⟩
  · rw [hhistory]
    exact create_of_find? ((find?_run_iff history name f).2 hf)
  · refine create_of_find?_eq_none (Option.eq_none_iff_forall_ne_some.2 fun f hf => hnone f ?_)
    rw [hhistory] at hf
    exact (find?_run_iff history name f).1 hf
  · refine ⟨fun later => create_run_of_alias hr halias, fun second hsecond later hlater => ?_⟩
    rw [create_run_of_alias (proper_perform hr _) hsecond hlater]
    exact create_run_of_alias hr halias (List.forall_mem_nil _)

/-- A factory of the exact engine for programs with native bounds. -/
def exactFactory : Factory Exact :=
  .ok (Engines.boundedAdapter ⟨Engine.inequality, Engine.library, Engine.bounded, Scalar.dot⟩)

/-- Calls that take a name over in another spelling, and one that is refused. -/
def takeover : List (Registration Exact) :=
  [.register (.text "EXACT ") (some (.error "gone")), .register .missing none]

/-- An alias keeps its backend when its canonical name is taken over. -/
theorem create_run_takeover :
    let r : Registry (Factory Exact) := empty.run [.register (.text "Exact") (some exactFactory)]
    let mine : Label := .text " Mine"
    let c : Registration Exact := .registerAlias mine (.text "exact")
    (r.perform c).answer = .ok () ∧ (∀ d ∈ takeover, d.target.normalize ≠ mine.normalize) ∧
      (((r.perform c).state.run takeover).create mine).map Adapter.name = .ok "pulp" ∧
      (((r.perform c).state.run takeover).create (.text "exact")).map Adapter.name
        = .error (.raised "gone") := by
  intro r mine c
  have hok : (r.perform c).answer = .ok () := by decide +kernel
  have hlater : ∀ d ∈ takeover, d.target.normalize ≠ mine.normalize := by decide +kernel
  obtain ⟨-, -, halias, -⟩ :=
    create_run .empty [.register (.text "Exact") (some exactFactory)]
  have hkept : ((r.perform c).state.run takeover).create mine = r.create (.text "exact") :=
    (halias mine (.text "exact") hok).1 takeover hlater
  refine ⟨hok, hlater, ?_, by decide +kernel⟩
  rw [hkept]
  decide +kernel

end Registry

end LinearDispatch
