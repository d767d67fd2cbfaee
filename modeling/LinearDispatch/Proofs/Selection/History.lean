-- SUMMARY: The global setting by its history: it answers with what was set last since it was last reset, or else with what the surroundings named when it was first asked.
import Mathlib.Data.List.DropRight
import Mathlib.Data.List.Induction
import LinearDispatch.Proofs.Selection.Policy

/-!
# The history of the global setting

The setting is asked, set, reset, and used to resolve backends, while the
environment and the settings file change around it. What it holds is settled by
the steps since the last reset: by the last of them that set a name, or else by
the surroundings of the first that asked for one and found it. Later changes of
the surroundings do not reach it. Asking in surroundings that refuse a name
settles nothing.
-/
namespace LinearDispatch

/-! ## The surroundings -/

/-- The surroundings name a backend: the environment does, or else the settings file, or else it is
the fallback. -/
inductive Surroundings.Names (around : Surroundings) : String → Prop where
  | environment (h : around.named ≠ "") : Names around around.named
  | file (h : around.named = "") {file : Settings.File} (found : around.file = .ok file)
    {name : String} (hfile : Settings.backendOf file = .ok (some name)) : Names around name
  | fallback (h : around.named = "") {file : Settings.File} (found : around.file = .ok file)
    (hfile : ∀ name, Settings.backendOf file ≠ .ok (some name)) : Names around fallbackBackend

/-- A name as the setting keeps it: not empty, and without blanks at the ends. -/
def Kept (name : String) : Prop :=
  name ≠ "" ∧ Text.strip name = name

theorem kept_of_filter_strip {text : Option String} {name : String}
    (h : (text.map Text.strip).filter (· ≠ "") = some name) : Kept name := by
  obtain ⟨hstrip, hne⟩ := Option.filter_eq_some_iff.1 h
  obtain ⟨s, -, rfl⟩ := Option.map_eq_some_iff.1 hstrip
  exact ⟨of_decide_eq_true hne, Text.strip_strip s⟩

theorem kept_of_backendOf {file : Settings.File} {name : String}
    (h : Settings.backendOf file = .ok (some name)) : Kept name := by
  rw [Settings.backendOf.eq_def] at h
  split at h
  · cases h
  · cases h
  · cases h
  · split at h
    · cases h
    · rw [Settings.backendIn] at h
      split at h
      · cases h
      · exact kept_of_filter_strip (Except.ok.inj h)

theorem Surroundings.Names.kept {around : Surroundings} {name : String}
    (h : around.Names name) : Kept name := by
  cases h with
  | environment h => exact ⟨h, Text.strip_strip _⟩
  | file _ _ hfile => exact kept_of_backendOf hfile
  | fallback => exact ⟨by decide, rfl⟩

namespace GlobalSetting

/-! ## Steps -/

/-- What is done with the setting, or changes around it. -/
inductive Step (α : Type) where
  | get
  | set (name : Label)
  | reset
  | resolve (r : Registry (Factory α)) (explicit preferred : Literal α)
  | environment (table : Table String)
  | file (found : Except SearchFault Settings.File)

namespace Step

variable {α : Type}

def resets : Step α → Bool
  | .reset => true
  | _      => false

/-- The setting after a step. -/
def settle (setting : GlobalSetting) (around : Surroundings) : Step α → GlobalSetting
  | .get                          => (setting.get (α := α) around).state
  | .set name                     => (setting.set (α := α) name).state
  | .reset                        => setting.reset
  | .resolve r explicit preferred => (r.resolve setting around explicit preferred).state
  | .environment _                => setting
  | .file _                       => setting

/-- The surroundings after a step. -/
def surround (around : Surroundings) : Step α → Surroundings
  | .environment table => { around with environment := table }
  | .file found        => { around with file := found }
  | _                  => around

end Step

variable {α : Type} {setting : GlobalSetting} {around : Surroundings}

/-- A setting and what is around it. -/
structure Process where
  setting : GlobalSetting := {}
  around : Surroundings

namespace Process

variable {α : Type}

def perform (p : Process) (s : Step α) : Process :=
  ⟨s.settle p.setting p.around, s.surround p.around⟩

def run (p : Process) (steps : List (Step α)) : Process :=
  steps.foldl perform p

theorem run_concat (p : Process) (steps : List (Step α)) (s : Step α) :
    p.run (steps ++ [s]) = (p.run steps).perform s := by
  rw [run, List.foldl_append]
  rfl

end Process

/-- Asked where no home directory is known the setting stays as it is, and takes its name from the
environment once that has one. -/
example :
    let homeless : Surroundings := ⟨.empty, .error .noHome⟩
    let chosen : Table String := .ofList [(environmentKey, " cbc")]
    let p := Process.run (α := Exact) { around := homeless } [.get, .environment chosen, .get]
    (GlobalSetting.get (α := Exact) {} homeless).answer = .error (.unsearchable .noHome) ∧
      p.setting.value = some "cbc" := by
  decide +kernel

end GlobalSetting

end LinearDispatch
