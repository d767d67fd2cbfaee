-- SUMMARY: What the program does for a command line: listing, comparing or solving the demonstration model, and its exit code.
import LinearDispatch.CommandLine.Arguments
import LinearDispatch.Comparison
import LinearDispatch.Event.Wording

/-!
# The program

The program lists the registered backends, or states a small model and solves
it: with the backend that is resolved for it, or with every built-in backend to
compare them. It exits with 0 if a solution was found, or if the backends
agree, with 1 if not, and with 2 for a command line that it cannot read.
-/
namespace LinearDispatch.CommandLine

/-- What a run leaves for its caller. -/
structure Report where
  exit : Nat
  stdout : String := ""
  usageError : Option String := none
  events : List (Event Float) := []

/-- The help text at 80 columns. -/
def helpText : String :=
  "usage: lpbridge [-h] [-s SOLVER] [--list-solvers] [--compare] [-v]\n\n"
    ++ "Solve an example linear program with a pluggable backend\n\n"
    ++ "options:\n"
    ++ "  -h, --help            show this help message and exit\n"
    ++ "  -s SOLVER, --solver SOLVER\n"
    ++ "                        Backend name; overrides $LPBRIDGE_SOLVER and\n"
    ++ "                        ~/.lpbridge/config.properties (default: None)\n"
    ++ "  --list-solvers        Print the registered backend names and exit (default:\n"
    ++ "                        False)\n"
    ++ "  --compare             Solve with every built-in backend and check that\n"
    ++ "                        objectives agree (default: False)\n"
    ++ "  -v, --verbose         Enable verbose (debug) logging (default: False)\n"

/-! ## The demonstration model -/

/-- A whole number as a coefficient or bound. -/
def whole (n : Nat) : Literal Float :=
  .real (Binary64.nearest .positive n 1)

/-- Maximise `3 x + 5 y` under `2 x + y ≤ 6` and `x + y ≤ 4`, for `x, y ≥ 0`. -/
def demoModel : Outcome Float (Model Float) Unit :=
  let start : Model Float := { name := "demo" }
  (start.addVariable "x" (.real Variable.defaultLower) (.real Variable.defaultUpper)).andThen
  fun m _ =>
  (m.addVariable "y" (.real Variable.defaultLower) (.real Variable.defaultUpper)).andThen
  fun m _ =>
  (m.setObjective (.ofList [("x", whole 3), ("y", whole 5)]) (.bool true)).andThen
  fun m _ =>
  (m.addConstraint "c1" (.ofList [("x", whole 2), ("y", whole 1)]) (.text "<=") (whole 6)).andThen
  fun m _ =>
  (m.addConstraint "c2" (.ofList [("x", whole 1), ("y", whole 1)]) (.text "<=") (whole 4)).andThen
  fun m _ => m.build

/-! ## The run -/

/-- Compare the built-in backends on the model. -/
def compare (r : Registry (Factory Float)) (m : Model Float) : Except (Error Float) Report :=
  let o := Comparison.run r m
  o.answer.map fun c =>
    { exit := if c.agree then 0 else 1, stdout := c.text, events := o.events }

/-- Solve the model with an adapter, and check what it found. -/
def solve (adapter : Adapter Float) (m : Model Float) : Except (Error Float) Report :=
  let o := adapter.solve m
  match o.answer with
  | .error e => .error e
  | .ok s    =>
    let report : Report :=
      { exit := 1
        stdout := s.summary ++ "\n"
        events := .dispatched m.name adapter.text :: o.events }
    if s.feasible then
      (o.state.check s Scalar.millionth).map fun problems =>
        { report with exit := 0, events := report.events ++ problems.map .violated }
    else .ok report

/-- The choice as a value: what is left of an emptied one is a sequence. -/
def SolverChoice.literal : SolverChoice → Literal Float
  | .unstated => .null
  | .named s  => .text s
  | .emptied  => .sequence

/-- Solve the model with the backend that is resolved for it. A backend that is not registered is
reported and ends the run. -/
def resolveAndSolve (r : Registry (Factory Float)) (around : Surroundings)
    (solver : SolverChoice) (m : Model Float) : Except (Error Float) Report :=
  let o := r.resolve {} around solver.literal m.preferred
  match o.answer with
  | .error (.unknownBackend name known) =>
    .ok { exit := 1
          events := o.events ++ [.refused (Error.message (.unknownBackend name known))] }
  | .error e    => .error e
  | .ok adapter =>
    (solve adapter m).map fun report => { report with events := o.events ++ report.events }

/-- Do what the arguments ask for. -/
def run (r : Registry (Factory Float)) (around : Surroundings) (arguments : Arguments) :
    Except (Error Float) Report :=
  if arguments.listSolvers then
    .ok { exit := 0, stdout := String.join (r.names.map (· ++ "\n")) }
  else
    let demo := demoModel
    let m := demo.state
    let opening := demo.events ++ [.described m.description]
    let rest :=
      if arguments.compare then compare r m else resolveAndSolve r around arguments.solver m
    rest.map fun report => { report with events := opening ++ report.events }

/-- Read the command line and do what it asks for. -/
def execute (r : Registry (Factory Float)) (around : Surroundings) (argv : List String) :
    Except (Error Float) Report :=
  match parse argv with
  | .error e       => .ok { exit := 2, usageError := some e.message }
  | .ok .help      => .ok { exit := 0, stdout := helpText }
  | .ok (.run arguments) => run r around arguments

end LinearDispatch.CommandLine
