-- SUMMARY: The words of events, and events as the lines of a log.
import LinearDispatch.Event.Basic

/-!
# The wording of events

One message per event, and the line that a log shows for it: level, channel and
message.
-/
namespace LinearDispatch

/-- A code of the engine's verdict in words; an unknown code is shown as it is. -/
def verdictLabel (status : Int) : String :=
  if status = 0 then "Not Solved"
  else if status = 1 then "Optimal"
  else if status = -1 then "Infeasible"
  else if status = -2 then "Unbounded"
  else if status = -3 then "Undefined"
  else toString status

/-- A code of what the engine found in words; an unknown code is shown as it is. -/
def findingLabel (solution : Int) : String :=
  if solution = 0 then "No Solution Found"
  else if solution = 1 then "Optimal Solution Found"
  else if solution = 2 then "Solution Found"
  else if solution = -1 then "No Solution Exists"
  else if solution = -2 then "Solution is Unbounded"
  else toString solution

def Contradiction.message : Contradiction Float → String
  | .crossedBounds names               =>
    "Variables with lower > upper bound: " ++ Text.quoteList names
  | .constantRow index relation rhs =>
    "Constant constraint " ++ toString index ++ " (" ++ relation.symbol ++ " "
      ++ Binary64.shortest rhs ++ ") can never hold"

def SettingsFault.message : SettingsFault → String
  | .unreadable text                   => text
  | .notUtf8                           => "invalid UTF-8"
  | .duplicateSection line name        =>
    "While reading from '" ++ settingsPath ++ "' [line " ++ toString line ++ "]: section "
      ++ Text.quote name ++ " already exists"
  | .duplicateOption line name inSection =>
    "While reading from '" ++ settingsPath ++ "' [line " ++ toString line ++ "]: option "
      ++ Text.quote name ++ " in section " ++ Text.quote inSection ++ " already exists"
  | .unparsable lines                  =>
    "Source contains parsing errors: '" ++ settingsPath ++ "'"
      ++ String.join (lines.map fun (n, line) =>
          "\n\t[line " ++ toString n ++ "]: " ++ Text.quote line)

def Event.message : Event Float → String
  | .changedAfterBuild model               =>
    "LpModel '" ++ model ++ "' was changed after build(); 'built' status reset. "
      ++ "Call build() again before solving."
  | .building model variableCount constraintCount =>
    "Building model '" ++ model ++ "' with " ++ toString variableCount ++ " variables and "
      ++ toString constraintCount ++ " constraints"
  | .variableAdded name lower upper        =>
    "Added variable: " ++ name ++ " [" ++ lower.display ++ ", " ++ upper.display ++ "]"
  | .constraintAdded name relation rhs names =>
    "Added constraint: " ++ name ++ " (" ++ relation.label ++ ") rhs=" ++ Binary64.shortest rhs
      ++ ", vars=" ++ Text.quoteList names
  | .lowered model form                    => "Lowered model '" ++ model ++ "': " ++ form.text
  | .solving backend form                  => backend ++ ": solving " ++ form.text
  | .engineFailed backend model text       =>
    backend ++ ": backend failed on model '" ++ model ++ "': " ++ text
  | .unsolved backend model status         =>
    backend ++ ": no solution for model '" ++ model ++ "' (status=" ++ status.label ++ ")"
  | .optimum backend objective             =>
    backend ++ ": optimal objective " ++ Binary64.brief objective
  | .contradiction c                       => c.message
  | .engineFinished status solution        =>
    "CBC finished with status " ++ verdictLabel status ++ ", solution " ++ findingLabel solution
  | .factoryReplaced key                   => "Replacing solver factory for '" ++ key ++ "'"
  | .namedByEnvironment name               =>
    "Global solver '" ++ name ++ "' taken from $" ++ environmentKey
  | .namedByFile name                      =>
    "Global solver '" ++ name ++ "' taken from " ++ settingsPath
  | .unusableSettings fault                =>
    "Ignoring unreadable solver config " ++ settingsPath ++ ": " ++ fault.message
  | .unregisteredGlobal name               =>
    "Global solver '" ++ name ++ "' is not registered; using '" ++ fallbackBackend ++ "'"
  | .described text                        => text
  | .dispatched model adapter              => "Solving '" ++ model ++ "' with " ++ adapter
  | .refused text                          => text
  | .violated v                            => v.message
  | .disagreement objectives               =>
    "Backends disagree on the objective: \x7b"
      ++ ", ".intercalate (objectives.map fun (name, x) =>
          Text.quote name ++ ": " ++ Binary64.shortest x)
      ++ "\x7d"

/-- An event as one line of a log. -/
def Event.record (e : Event Float) : String :=
  e.level.label ++ " " ++ e.channel.label ++ " " ++ e.message

/-- The records of the events at or above a level. -/
def Event.recordsFrom (threshold : Level) (events : List (Event Float)) : List String :=
  (events.filter fun e => threshold.rank ≤ e.level.rank).map Event.record

end LinearDispatch
