-- SUMMARY: The program: it reads its surroundings, runs the command line, and prints what the run reports.
import LinearDispatch.CommandLine.Run
import LinearDispatch.Engine
import LinearDispatch.Number.Fused

/-!
# Main

Input and output only; what is done is decided in `LinearDispatch.CommandLine`.
-/
namespace LinearDispatch

/-- The home directory, without slashes at its end. Only the environment is asked for it. -/
def homeDirectory (home : Option String) : Except SearchFault String :=
  match home with
  | none      => .error .noHome
  | some path =>
    if path.startsWith "~" then .error .noHome
    else .ok (String.ofList (path.toList.reverse.dropWhile (· = '/')).reverse)

/-- A refusal of the system in its own words. -/
def refusal (path : String) (code : UInt32) (details : String) : String :=
  "[Errno " ++ toString code ++ "] " ++ details ++ ": " ++ Text.quote path

/-- What is found under a path. Links that go round lead nowhere, as a missing directory does; a
name that is too long, or a directory that may not be searched, leaves open what is there. -/
def readFile (path : String) : IO (Except SearchFault Settings.File) := do
  try
    return .ok (.content (← IO.FS.readBinFile path))
  catch
    | .noFileOrDirectory ..            => return .ok .absent
    | .inappropriateType _ code _      => return .ok (if code = 21 then .directory else .absent)
    | .invalidArgument _ code details  =>
      return if code = 40 then .ok .absent else .error (.refused (refusal path code details))
    | .permissionDenied _ code details =>
      let text := refusal path code details
      -- Below a file that may not be read there is nothing, which the system does tell.
      match ← (IO.FS.readBinFile (path ++ "/.")).toBaseIO with
      | .error (.permissionDenied ..) => return .error (.refused text)
      | _                             => return .ok (.unreadable text)
    | other                            => return .ok (.unreadable (toString other))

/-- The environment and the settings file of the user. -/
def readSurroundings : IO Surroundings := do
  let chosen ← IO.getEnv environmentKey
  let environment := match chosen with
    | some value => Table.ofList [(environmentKey, value)]
    | none       => Table.empty
  match homeDirectory (← IO.getEnv "HOME") with
  | .error fault => return { environment, file := .error fault }
  | .ok home     =>
    return { environment, file := ← readFile (home ++ "/.lpbridge/config.properties") }

/-- Whether the command line asks for every event. -/
def isVerbose (argv : List String) : Bool :=
  match CommandLine.parse argv with
  | .ok (.run arguments) => arguments.verbose
  | _                    => false

/-- The backends over the exact engines. -/
def startingRegistry : Registry (Factory Float) :=
  (Engines.mk Engine.inequality Engine.library Engine.bounded Binary64.fusedProduct).registry

end LinearDispatch

open LinearDispatch in
def main (argv : List String) : IO UInt32 := do
  match CommandLine.execute startingRegistry (← readSurroundings) argv with
  | .error e   =>
    IO.eprintln e.message
    return 1
  | .ok report =>
    for line in Event.recordsFrom (if isVerbose argv then .debug else .info) report.events do
      IO.eprintln line
    IO.print report.stdout
    match report.usageError with
    | some text => IO.eprintln ("lpbridge: error: " ++ text)
    | none      => pure ()
    return UInt32.ofNat report.exit
