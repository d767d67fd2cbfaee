-- SUMMARY: The arguments of the command line: options by name, by unambiguous beginning and in clusters, and what is wrong with a line.
import LinearDispatch.Text.Blank
import LinearDispatch.Text.Digit
import LinearDispatch.Text.Quoted

/-!
# Arguments

A long option may be shortened as long as one option alone begins so, and takes
its value behind an equality sign or as the next argument. Short options may be
joined behind one dash; the last of them may have a value, which follows at once
or as the next argument. An equality sign right behind the first short option
is skipped, and any later one is a part of the value. An argument that starts
with a dash is an option unless it is a single dash, a negative number, or
unknown and with a space in it. Behind `--` nothing is an option. A `--` that is
attached to an option as its value is removed, so that the option stands there
without one.

Arguments are sorted first, so that an ambiguous option is found before any
other fault. Then they are taken from left to right; asking for help ends this.
What nobody takes is left over, and refused at the end.
-/
namespace LinearDispatch.CommandLine

inductive Flag where
  | help
  | solver
  | listSolvers
  | compare
  | verbose
deriving DecidableEq, Repr

namespace Flag

/-- The spellings of a flag, short before long. -/
def spellings : Flag → List String
  | .help        => ["-h", "--help"]
  | .solver      => ["-s", "--solver"]
  | .listSolvers => ["--list-solvers"]
  | .compare     => ["--compare"]
  | .verbose     => ["-v", "--verbose"]

def all : List Flag :=
  [.help, .solver, .listSolvers, .compare, .verbose]

/-- Whether the flag has a value. -/
def takesValue : Flag → Bool
  | .solver => true
  | _       => false

/-- All spellings with their flags. -/
def table : List (List Char × Flag) :=
  all.flatMap fun flag => flag.spellings.map fun s => (s.toList, flag)

/-- The flag of a full spelling. -/
def spelled? (cs : List Char) : Option Flag :=
  table.lookup cs

/-- The spellings that begin in this way. -/
def beginning (cs : List Char) : List (List Char × Flag) :=
  table.filter fun (s, _) => cs.isPrefixOf s

end Flag

/-- What is wrong with a command line. -/
inductive UsageError where
  | ambiguous (argument : String) (candidates : List String)
  | expectedValue (flag : Flag)
  | unexpectedValue (flag : Flag) (value : String)
  | unrecognized (arguments : List String)
deriving DecidableEq, Repr

def UsageError.message : UsageError → String
  | .ambiguous argument candidates =>
    "ambiguous option: " ++ argument ++ " could match " ++ ", ".intercalate candidates
  | .expectedValue flag            =>
    "argument " ++ "/".intercalate flag.spellings ++ ": expected one argument"
  | .unexpectedValue flag value    =>
    "argument " ++ "/".intercalate flag.spellings ++ ": ignored explicit argument "
      ++ Text.quote value
  | .unrecognized arguments        =>
    "unrecognized arguments: " ++ " ".intercalate arguments

/-! ## Sorting arguments -/

/-- An argument by its form. -/
inductive Token where
  | plain (s : String)
  | terminator
  | unknown (s : String)
  /-- A flag by a long or a short spelling, and what is attached to it. -/
  | option (long : Bool) (flag : Flag) (attached : Option (List Char))

/-- A dash and digits, possibly with a decimal point that digits follow. -/
def isNegativeNumber (cs : List Char) : Bool :=
  match cs with
  | '-' :: body =>
    let body := if body.getLast? = some '\n' then body.dropLast else body
    match body.dropWhile Text.isDigit with
    | []          => !body.isEmpty
    | '.' :: part => !part.isEmpty && part.all Text.isDigit
    | _           => false
  | _ => false

/-- The part in front of the first equality sign, and what is assigned behind it. -/
def splitAssignment (cs : List Char) : List Char × Option (List Char) :=
  match cs.dropWhile (· ≠ '=') with
  | []         => (cs, none)
  | _ :: value => (cs.takeWhile (· ≠ '='), some value)

/-- The options that an argument of more than one character may abbreviate, with what is attached
to them: by the beginning of a long spelling, or by a short spelling in front. -/
def candidates (cs : List Char) : List (List Char × Token) :=
  match cs with
  | '-' :: '-' :: _ =>
    let (name, attached) := splitAssignment cs
    (Flag.beginning name).map fun (s, flag) => (s, .option true flag attached)
  | d :: c :: value =>
    Flag.table.filterMap fun (s, flag) =>
      if s = [d, c] then some (s, .option false flag (some value))
      else if cs.isPrefixOf s then some (s, .option true flag none)
      else none
  | _ => []

/-- Whether a spelling is a long one. -/
def isLong : List Char → Bool
  | '-' :: '-' :: _ => true
  | _               => false

/-- The form of an argument in front of any `--`. -/
def classify (s : String) : Except UsageError Token :=
  let cs := s.toList
  match cs with
  | '-' :: _ :: _ =>
    let (name, attached) := splitAssignment cs
    match Flag.spelled? cs, Flag.spelled? name with
    | some flag, _         => .ok (.option (isLong cs) flag none)
    | none,      some flag => .ok (.option (isLong name) flag attached)
    | none,      none      =>
      match candidates cs with
      | [(_, token)] => .ok token
      | []           =>
        .ok (if isNegativeNumber cs || cs.contains ' ' then .plain s else .unknown s)
      | several      => .error (.ambiguous s (several.map fun (name, _) => String.ofList name))
  | _ => .ok (.plain s)

/-- The forms of all arguments. -/
def tokens : List String → Except UsageError (List Token)
  | [] => .ok []
  | s :: rest =>
    if s = "--" then .ok (.terminator :: rest.map .plain)
    else
      match classify s with
      | .error e => .error e
      | .ok t    => (tokens rest).map (t :: ·)

/-! ## Taking options -/

/-- How a cluster of flags ends: with the last flag's value, or with a flag that has nothing
attached. -/
inductive ClusterEnd where
  | value (s : String)
  | bare (flag : Flag)

/-- Flags joined in one argument: those in front, and how the cluster ends. -/
structure Cluster where
  flags : List Flag
  ending : ClusterEnd

/-- Read what is attached to a flag that has no value as more flags behind the same dash. A flag
with a value takes all that follows it; what starts with no flag is refused as a value. -/
def readCluster (flag : Flag) : List Char → Except UsageError Cluster
  | []        => .error (.unexpectedValue flag "")
  | c :: rest =>
    match Flag.spelled? ['-', c] with
    | none      => .error (.unexpectedValue flag (String.ofList (c :: rest)))
    | some next =>
      if rest.isEmpty then .ok ⟨[flag], .bare next⟩
      else if next.takesValue then .ok ⟨[flag], .value (String.ofList rest)⟩
      else (readCluster next rest).map fun cluster => { cluster with flags := flag :: cluster.flags }

/-- Read an option with what is attached to it, be it behind an equality sign or not. -/
def readOption (long : Bool) (flag : Flag) (attached : Option (List Char)) :
    Except UsageError Cluster :=
  match attached with
  | none       => .ok ⟨[], .bare flag⟩
  | some value =>
    if flag.takesValue then .ok ⟨[], .value (String.ofList value)⟩
    else if long then .error (.unexpectedValue flag (String.ofList value))
    else readCluster flag value

/-- What a command line says of the backend. -/
inductive SolverChoice where
  | unstated
  | named (s : String)
  /-- The option is there, but its value was removed. -/
  | emptied
deriving DecidableEq, Repr

/-- The choice by the value that is attached to the option. This follows the standard option parser
as the releases from 3.9 to the first of 3.11 have it, which take every `--` out of an option's
values. Later releases, 3.11.10 and 3.12.3 among them, keep one that is attached: there the choice
is named by it, and no value is ever removed. -/
def SolverChoice.attached (s : String) : SolverChoice :=
  if s = "--" then .emptied else .named s

/-- What a command line asks for. -/
structure Arguments where
  solver : SolverChoice := .unstated
  listSolvers : Bool := false
  compare : Bool := false
  verbose : Bool := false
deriving DecidableEq, Repr

/-- A command line that asks for help asks for nothing else. -/
inductive Request where
  | help
  | run (arguments : Arguments)
deriving DecidableEq, Repr

/-- Take flags without values; the first that asks for help ends the taking. -/
def takeFlags : List Flag → Arguments → Option Arguments
  | [],                   a => some a
  | .help :: _,           _ => none
  | .solver :: rest,      a => takeFlags rest a
  | .listSolvers :: rest, a => takeFlags rest { a with listSolvers := true }
  | .compare :: rest,     a => takeFlags rest { a with compare := true }
  | .verbose :: rest,     a => takeFlags rest { a with verbose := true }

/-- Take the arguments from left to right; `left` are those that nobody took. -/
def take : List Token → Arguments → (left : List String) → Except UsageError Request
  | [], a, []   => .ok (.run a)
  | [], _, left => .error (.unrecognized left)
  | .plain s :: rest, a, left   => take rest a (left ++ [s])
  | .terminator :: rest, a, left => take rest a (left ++ ["--"])
  | .unknown s :: rest, a, left => take rest a (left ++ [s])
  | .option long flag attached :: rest, a, left =>
    match readOption long flag attached with
    | .error e => .error e
    | .ok cluster =>
      match cluster.ending with
      | .value s =>
        match takeFlags cluster.flags a with
        | none   => .ok .help
        | some a => take rest { a with solver := .attached s } left
      | .bare last =>
        if last.takesValue then
          match rest with
          | .plain s :: rest =>
            match takeFlags cluster.flags a with
            | none   => .ok .help
            | some a => take rest { a with solver := .named s } left
          | _ => .error (.expectedValue last)
        else
          match takeFlags (cluster.flags ++ [last]) a with
          | none   => .ok .help
          | some a => take rest a left

/-- Read a command line. -/
def parse (argv : List String) : Except UsageError Request :=
  match tokens argv with
  | .error e => .error e
  | .ok ts   => take ts {} []

end LinearDispatch.CommandLine
