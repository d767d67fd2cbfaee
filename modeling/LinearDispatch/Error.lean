-- SUMMARY: The errors that an operation can end in, by cause, with their messages and their kinds.
import LinearDispatch.Label
import LinearDispatch.Program.Bounded

/-!
# Errors

What is wrong with a request is an error: a name given twice, a name that
nobody declared, a value that is no number, a backend that is not registered.
That an engine failed is none; it ends in a solution without values.
-/
namespace LinearDispatch

/-- Why a solver refuses a model. -/
inductive ModelFault where
  | missing (adapter : String)
  | objectiveUnknown (name model : String)
  | constraintUnknown (constraint name : String)
  | stated (text : String)
deriving DecidableEq, Repr

def ModelFault.message : ModelFault → String
  | .missing adapter                   => adapter ++ ".solve() requires a model, got None"
  | .objectiveUnknown name model       =>
    "Objective references unknown variable " ++ Text.quote name ++ " in model '" ++ model ++ "'"
  | .constraintUnknown constraint name =>
    "Constraint " ++ Text.quote constraint ++ " references unknown variable " ++ Text.quote name
  | .stated text                       => text

/-- Why an iteration limit is refused. -/
inductive LimitFault (α : Type) where
  | notPositive (v : Literal α)
  | notComparable (v : Literal α)
  | notNumber
  | infinite
deriving DecidableEq

def LimitFault.message : LimitFault Float → String
  | .notPositive v   => "max_iterations must be positive, got " ++ v.display
  | .notComparable v =>
    "'<=' not supported between instances of '" ++ v.kindLabel ++ "' and 'int'"
  | .notNumber       => "cannot convert float NaN to integer"
  | .infinite        => "cannot convert float infinity to integer"

/-- What an empty name was meant to name. -/
inductive NameRole where
  | solver
  | synonym
  | globalSolver
deriving DecidableEq, Repr

def NameRole.phrase : NameRole → String
  | .solver       => "Solver name"
  | .synonym      => "Solver alias"
  | .globalSolver => "Global solver name"

/-- Why nobody can tell whether there is a settings file. -/
inductive SearchFault where
  | noHome
  /-- The system refuses to look at the path, in its own words. -/
  | refused (text : String)
deriving DecidableEq, Repr

def SearchFault.message : SearchFault → String
  | .noHome       => "Could not determine home directory."
  | .refused text => text

inductive Error (α : Type) where
  | duplicateName (kind name : String)
  | notFound (kind name : String)
  | invalidModel (fault : ModelFault)
  /-- `known` are the registered names in order. -/
  | unknownBackend (name : Label) (known : List String)
  | general (text : String)
  | badRelation (v : Literal α)
  | badDirection (v : Literal α)
  | notNumber (e : ConversionError)
  | noValue (name : String)
  | badShape (fault : ShapeFault)
  | badLimit (fault : LimitFault α)
  | negativeTolerance
  | emptyName (role : NameRole)
  /-- A backend was asked for by something that is no text. -/
  | notText (v : Literal α)
  | notCallable (name : Label)
  /-- A modelling library refused a number, in its own words. -/
  | badProgram (text : String)
  | unsearchable (fault : SearchFault)
  | raised (text : String)
deriving DecidableEq

/-- The kinds of error that a caller can tell apart. -/
inductive ErrorKind where
  | general
  | duplicateName
  | notFound
  | invalidModel
  | unknownBackend
  | badValue
  | badType
  | notText
  | overflow
  | missingKey
  | brokenShape
  | badProgram
  | refusedBySystem
  | raised
deriving DecidableEq, Repr

/-- The families that a kind of error may belong to. -/
inductive ErrorFamily where
  | library
  | value
  | key
deriving DecidableEq, Repr

/-- The families of a kind, the library's own first. -/
def ErrorKind.families : ErrorKind → List ErrorFamily
  | .general        => [.library]
  | .duplicateName  => [.library, .value]
  | .notFound       => [.library, .key]
  | .invalidModel   => [.library, .value]
  | .unknownBackend => [.library, .key]
  | .badValue       => [.value]
  | .missingKey     => [.key]
  | _               => []

namespace Error

variable {α : Type}

/-- No backend is registered under the name; `registered` are the names that are. -/
def unknown (name : Label) (registered : List String) : Error α :=
  .unknownBackend name (sortNames registered)

def kind : Error α → ErrorKind
  | .duplicateName ..    => .duplicateName
  | .notFound ..         => .notFound
  | .invalidModel _      => .invalidModel
  | .unknownBackend ..   => .unknownBackend
  | .general _           => .general
  | .badRelation _       => .badValue
  | .badDirection _      => .badValue
  | .notNumber e         =>
    match e with
    | .tooLarge     => .overflow
    | .notScalar _  => .badType
    | .unreadable _ => .badValue
  | .noValue _           => .missingKey
  | .badShape _          => .brokenShape
  | .badLimit fault      =>
    match fault with
    | .notPositive _   => .badValue
    | .notComparable _ => .badType
    | .notNumber       => .badValue
    | .infinite        => .overflow
  | .negativeTolerance   => .badValue
  | .emptyName _         => .badValue
  | .notText _           => .notText
  | .notCallable _       => .badValue
  | .badProgram _        => .badProgram
  | .unsearchable fault  =>
    match fault with
    | .noHome    => .raised
    | .refused _ => .refusedBySystem
  | .raised _            => .raised

def message : Error Float → String
  | .duplicateName kind name   =>
    Text.capitalize kind ++ " name already exists: " ++ Text.quote name
  | .notFound kind name        => "Unknown " ++ kind ++ ": " ++ Text.quote name
  | .invalidModel fault        => fault.message
  | .unknownBackend name known =>
    (if name.isBlank then "Solver name must not be empty" else "Unknown solver: " ++ name.quoted)
      ++ " (known: " ++ ", ".intercalate known ++ ")"
  | .general text              => text
  | .badRelation v             =>
    "Constraint relation must be one of <=, >=, ==; got " ++ v.quoted
  | .badDirection v            =>
    "Optimization direction must be maximize or minimize; got " ++ v.quoted
  | .notNumber e               => e.message
  | .noValue name              => Text.quote name
  | .badShape fault            => fault.message
  | .badLimit fault            => fault.message
  | .negativeTolerance         => "tolerances must be non-negative"
  | .emptyName role            => role.phrase ++ " must not be empty"
  | .notText v                 => "'" ++ v.kindLabel ++ "' object has no attribute 'strip'"
  | .notCallable name          => "Solver factory for " ++ name.quoted ++ " must be callable"
  | .badProgram text           => text
  | .unsearchable fault        => fault.message
  | .raised text               => text

end Error

end LinearDispatch
