-- SUMMARY: The order in which a backend is chosen: the caller's name, the model's, the global one if it is registered, the fallback; only the last two look at the setting.
import LinearDispatch.Engine
import LinearDispatch.Number.Exact
import LinearDispatch.Proofs.Registry.Lookup
import LinearDispatch.Selection

/-!
# The policy of selection

A name that the caller or the model states is final: it is looked up in the
registry, and the global setting is left alone, whatever the surroundings hold.
Only without such a name is the setting asked, which resolves it. Its name has
to be registered, or else the fallback is taken. A registry that was started
with the built-in backends always has the fallback.
-/
namespace LinearDispatch

/-- What a caller or a model may state: nothing, or a text. -/
def Literal.optional {α : Type} : Option String → Literal α
  | none   => .null
  | some s => .text s

/-- The choice states this name: one that is not blank. -/
def States (choice : Option String) (name : String) : Prop :=
  choice = some name ∧ Text.strip name ≠ ""

namespace GlobalSetting

variable {α : Type} {setting : GlobalSetting} {around : Surroundings}

end GlobalSetting

namespace Registry

variable {α : Type} {r : Registry (Factory α)} {setting : GlobalSetting} {around : Surroundings}
  {name : String}

/-! ## Choices -/

theorem stated?_of_states {choice : Option String} (h : States choice name) :
    stated? (α := α) (.optional choice) = .ok (some name) := by
  obtain ⟨rfl, hne⟩ := h
  simp [Literal.optional, stated?, hne]

/-- A registered name is not blank. -/
theorem states_of_has (h : r.has (.text name) = true) : States (some name) name := by
  obtain ⟨key, hkey, hne, -⟩ := has_iff.1 h
  refine ⟨rfl, fun hblank => hne ?_⟩
  have hlower : Text.lower "" = "" := rfl
  rw [Label.normalize, Label.text?, Option.map_some, hblank, hlower] at hkey
  exact (Option.some.inj hkey).symm

theorem chosen?_of_stated? {explicit preferred : Literal α}
    (h : stated? explicit = .ok (some name)) : chosen? explicit preferred = .ok (some name) := by
  rw [chosen?, h]

/-- Resolving is what the factory gives that was selected. -/
theorem resolve_of_select {explicit preferred : Literal α} {after : GlobalSetting} {label : Label}
    {events : List (Event α)} (h : r.select setting around explicit preferred =
      { state := after, answer := r.find label, events }) :
    r.resolve setting around explicit preferred =
      { state := after, answer := r.create label, events } := by
  rw [resolve, h, create]
  generalize r.find label = found
  cases found with
  | error e => rfl
  | ok factory => cases factory <;> simp [Outcome.andThen, Outcome.fail, Outcome.pure]

/-- A name that is chosen is looked up, and nothing else happens. -/
theorem resolve_of_chosen {explicit preferred : Literal α}
    (h : chosen? explicit preferred = .ok (some name)) :
    r.resolve setting around explicit preferred =
      { state := setting, answer := r.create (.text name) } := by
  refine resolve_of_select ?_
  rw [select, h]

/-- No factory of the registry raises. -/
def Ready (r : Registry (Factory α)) : Prop :=
  ∀ name f, r.find? name = some f → ∃ adapter, f = .ok adapter

/-- The answer is an instance of the backend that is registered under the name, or says that none
is. -/
structure Answers (r : Registry (Factory α)) (name : String)
    (answer : Except (Error α) (Adapter α)) : Prop where
  registered : r.has (.text name) = true →
    ∃ adapter, r.find? (.text name) = some (.ok adapter) ∧ answer = .ok adapter
  unregistered : r.has (.text name) = false →
    answer = .error (.unknownBackend (.text name) r.names)

/-- Registering factories that do not raise leaves no factory that raises. -/
theorem Ready.run (h : r.Ready) (hr : r.Proper) {calls : List (Registration α)}
    (hcalls : ∀ name f, .register name (some f) ∈ calls → ∃ adapter, f = .ok adapter) :
    (r.run calls).Ready := by
  induction calls generalizing r with
  | nil => exact h
  | cons c calls ih =>
    refine ih (fun name f hf => ?_) (proper_perform hr c) fun name f hmem =>
      hcalls name f (List.mem_cons_of_mem _ hmem)
    by_cases hwrites : r.Writes c name
    · obtain ⟨g, hg, hfind⟩ := find?_perform_of_writes hr hwrites
      obtain rfl : g = f := Option.some.inj (hfind.symm.trans hf)
      cases c with
      | register target factory =>
        obtain rfl : factory = some g := hg
        exact hcalls target g (List.mem_cons_self ..)
      | registerAlias synonym canonical => exact h _ _ hg
    · rw [find?_perform_of_not_writes hr hwrites] at hf
      exact h name f hf

end Registry

end LinearDispatch
