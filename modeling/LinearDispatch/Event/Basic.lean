-- SUMMARY: What operations report while they run: events, their levels and the parts of the library they come from.
import LinearDispatch.Model.Check

/-!
# Events

An operation reports what it does on the way. Every report has a level, and a
log shows the reports from some level upwards.
-/
namespace LinearDispatch

/-! ## Levels -/

inductive Level where
  | debug
  | info
  | warning
  | error
deriving DecidableEq, Repr

namespace Level

def rank : Level → Nat
  | .debug   => 0
  | .info    => 1
  | .warning => 2
  | .error   => 3

def label : Level → String
  | .debug   => "DEBUG"
  | .info    => "INFO"
  | .warning => "WARNING"
  | .error   => "ERROR"

end Level

/-- The part of the library that reports. -/
inductive Channel where
  | model
  | solver
  | boundedSolver
  | registry
  | selection
  | program
deriving DecidableEq, Repr

def Channel.label : Channel → String
  | .model         => "lpbridge.modeling"
  | .solver        => "lpbridge.solvers"
  | .boundedSolver => "lpbridge.pulp_solver"
  | .registry      => "lpbridge.registry"
  | .selection     => "lpbridge.config"
  | .program       => "lpbridge.main"

/-! ## Where settings come from -/

/-- The variable of the environment that names the backend. -/
def environmentKey : String := "LPBRIDGE_SOLVER"

/-- Where the settings file is. -/
def settingsPath : String := "~/.lpbridge/config.properties"

/-- The backend used when the global name is not registered. -/
def fallbackBackend : String := "scipy"

/-- Why a settings file cannot be used. -/
inductive SettingsFault where
  /-- The system refuses to read the file, in its own words. -/
  | unreadable (text : String)
  | notUtf8
  | duplicateSection (line : Nat) (name : String)
  | duplicateOption (line : Nat) (name inSection : String)
  | unparsable (lines : List (Nat × String))
deriving DecidableEq, Repr

/-! ## Events -/

inductive Event (α : Type) where
  | changedAfterBuild (model : String)
  | building (model : String) (variableCount constraintCount : Nat)
  | variableAdded (name : String) (lower upper : Literal α)
  | constraintAdded (name : String) (relation : Relation) (rhs : α) (names : List String)
  | lowered (model : String) (form : Outline)
  | solving (backend : String) (form : Outline)
  | engineFailed (backend model text : String)
  | unsolved (backend model : String) (status : Status)
  | optimum (backend : String) (objective : α)
  | contradiction (c : Contradiction α)
  | engineFinished (status solution : Int)
  | factoryReplaced (key : String)
  | namedByEnvironment (name : String)
  | namedByFile (name : String)
  | unusableSettings (fault : SettingsFault)
  | unregisteredGlobal (name : String)
  | described (text : String)
  | dispatched (model adapter : String)
  | refused (text : String)
  | violated (v : Violation α)
  | disagreement (objectives : List (String × α))
deriving DecidableEq

namespace Event

variable {α : Type}

def level : Event α → Level
  | .changedAfterBuild _  => .warning
  | .engineFailed ..      => .warning
  | .unsolved ..          => .info
  | .unusableSettings _   => .warning
  | .unregisteredGlobal _ => .warning
  | .dispatched ..        => .info
  | .refused _            => .error
  | .violated _           => .warning
  | .disagreement _       => .warning
  | _                     => .debug

def channel : Event α → Channel
  | .changedAfterBuild _  => .model
  | .building ..          => .model
  | .variableAdded ..     => .model
  | .constraintAdded ..   => .model
  | .lowered ..           => .model
  | .solving ..           => .solver
  | .engineFailed ..      => .solver
  | .unsolved ..          => .solver
  | .optimum ..           => .solver
  | .contradiction _      => .boundedSolver
  | .engineFinished ..    => .boundedSolver
  | .factoryReplaced _    => .registry
  | .namedByEnvironment _ => .selection
  | .namedByFile _        => .selection
  | .unusableSettings _   => .selection
  | .unregisteredGlobal _ => .selection
  | .described _          => .program
  | .dispatched ..        => .program
  | .refused _            => .program
  | .violated _           => .program
  | .disagreement _       => .program

end Event

end LinearDispatch
