-- SUMMARY: Which backend a model is handed to: the caller's choice, the model's, the global setting with its sources, the fallback.
import LinearDispatch.Adapter.Solve
import LinearDispatch.Registry
import LinearDispatch.Settings

/-!
# Selection

A backend is chosen by the caller, or else by the model, or else by the global
setting. The setting is looked up when it is first needed, in the environment,
in the settings file, and finally in the fallback, and is kept from then on; it
may also be set by hand. A caller's or a model's choice must be a text, and must
be registered; one that is null or blank is no choice. A global name that is not
registered gives way to the fallback.
-/
namespace LinearDispatch

/-- What the global setting is looked up in. -/
structure Surroundings where
  environment : Table String
  /-- What is found under the path of the settings, unless nobody can tell. -/
  file : Except SearchFault Settings.File

/-- The global setting: the name that was looked up or set, if any. -/
structure GlobalSetting where
  value : Option String := none
deriving DecidableEq, Repr

namespace Surroundings

variable {α : Type}

/-- The backend named by the environment, without blanks at the ends. -/
def named (around : Surroundings) : String :=
  Text.strip ((around.environment.get? environmentKey).getD "")

/-- The name of the global backend, and what looking it up reports. A file that cannot be used is
passed over; one that cannot even be looked for ends the search. -/
def backendName (around : Surroundings) : Except (Error α) String × List (Event α) :=
  let name := around.named
  if name ≠ "" then (.ok name, [.namedByEnvironment name])
  else
    match around.file with
    | .error fault => (.error (.unsearchable fault), [])
    | .ok file     =>
      match Settings.backendOf file with
      | .error fault      => (.ok fallbackBackend, [.unusableSettings fault])
      | .ok none          => (.ok fallbackBackend, [])
      | .ok (some chosen) => (.ok chosen, [.namedByFile chosen])

end Surroundings

namespace GlobalSetting

variable {α : Type}

def isResolved (s : GlobalSetting) : Bool :=
  s.value.isSome

/-- The global name, looked up if it is not known yet. A search that fails leaves it unknown. -/
def get (s : GlobalSetting) (around : Surroundings) : Outcome α GlobalSetting String :=
  match s.value with
  | some name => .pure s name
  | none      =>
    match around.backendName with
    | (.error e, events) => { state := s, answer := .error e, events }
    | (.ok name, events) => { state := ⟨some name⟩, answer := .ok name, events }

/-- Set the global name; a blank one is refused. -/
def set (s : GlobalSetting) (name : Label) : Outcome α GlobalSetting Unit :=
  match name.text?.map Text.strip with
  | none    => .fail s (.emptyName .globalSolver)
  | some "" => .fail s (.emptyName .globalSolver)
  | some n  => .pure ⟨some n⟩ ()

/-- Forget the global name. -/
def reset (_ : GlobalSetting) : GlobalSetting :=
  ⟨none⟩

end GlobalSetting

namespace Registry

variable {α φ : Type}

/-- The name that a choice states, if it is not blank. -/
def stated? : Literal α → Except (Error α) (Option String)
  | .null   => .ok none
  | .text s => .ok (if Text.strip s = "" then none else some s)
  | v       => .error (.notText v)

/-- The name that the caller states, or else the model. -/
def chosen? (explicit preferred : Literal α) : Except (Error α) (Option String) :=
  match stated? explicit with
  | .ok none => stated? preferred
  | found    => found

/-- The factory for the global name, or for the fallback if that name is not registered. -/
def selectGlobal (r : Registry φ) (name : String) : Except (Error α) φ × List (Event α) :=
  if r.has (.text name) then (r.find (.text name), [])
  else (r.find (.text fallbackBackend), [.unregisteredGlobal name])

/-- The factory for a model: by the caller's choice, the model's, or the global setting. -/
def select (r : Registry φ) (setting : GlobalSetting) (around : Surroundings)
    (explicit preferred : Literal α) : Outcome α GlobalSetting φ :=
  match chosen? explicit preferred with
  | .error e        => .fail setting e
  | .ok (some name) => { state := setting, answer := r.find (.text name) }
  | .ok none        =>
    (setting.get around).andThen fun setting name =>
      let (answer, events) := r.selectGlobal name
      { state := setting, answer, events }

/-- The adapter for a model. -/
def resolve (r : Registry (Factory α)) (setting : GlobalSetting) (around : Surroundings)
    (explicit preferred : Literal α) : Outcome α GlobalSetting (Adapter α) :=
  (r.select setting around explicit preferred).andThen fun setting factory =>
    match factory with
    | .error text  => .fail setting (.raised text)
    | .ok adapter  => .pure setting adapter

end Registry

/-- Resolve a backend for the model and solve the model with it. The setting is left as resolving
left it, and so is the model if no backend was found. -/
def dispatch {α : Type} [Scalar α] (r : Registry (Factory α)) (around : Surroundings)
    (explicit : Literal α) (setting : GlobalSetting) (m : Model α) :
    Outcome α (GlobalSetting × Model α) (Solution α) :=
  let resolved := r.resolve setting around explicit m.preferred
  match resolved.answer with
  | .error e    => { state := (resolved.state, m), answer := .error e, events := resolved.events }
  | .ok adapter =>
    let solved := adapter.solve m
    { state := (resolved.state, solved.state)
      answer := solved.answer
      events := resolved.events ++ solved.events
      calls := solved.calls }

end LinearDispatch
