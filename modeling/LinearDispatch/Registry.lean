-- SUMMARY: The registry of backends: names in normal form, each with the factory registered last, and the built-in backends.
import LinearDispatch.Adapter.Basic

/-!
# Registry

A registry maps the normal forms of backend names to factories. An alias takes
over the factory that its canonical name has at that moment; what is registered
under the canonical name later does not change the alias. The registry does not
look into its factories.
-/
namespace LinearDispatch

/-- Factories by the normal forms of their names. -/
structure Registry (φ : Type) where
  entries : Table φ

namespace Registry

variable {α φ : Type}

def empty : Registry φ :=
  ⟨.empty⟩

/-- The registered names, in no order that matters. -/
def keys (r : Registry φ) : List String :=
  r.entries.keys

/-- The registered names in order. -/
def names (r : Registry φ) : List String :=
  sortNames r.keys

/-- The factory under a name, if the name is registered. -/
def find? (r : Registry φ) (name : Label) : Option φ :=
  name.key?.bind r.entries.get?

def has (r : Registry φ) (name : Label) : Bool :=
  (r.find? name).isSome

/-- Membership asks for a text; nothing else is a member. -/
def containsText (r : Registry φ) (name : Label) : Bool :=
  match name with
  | .text _ => r.has name
  | _       => false

/-- The factory under a name; an unknown name is refused with the names that are known. -/
def find (r : Registry φ) (name : Label) : Except (Error α) φ :=
  match r.find? name with
  | some factory => .ok factory
  | none         => .error (.unknown name r.keys)

/-- Register a factory under a name, in place of any earlier one. `none` stands for what is no
factory. -/
def register (r : Registry φ) (name : Label) (factory : Option φ) :
    Outcome α (Registry φ) Unit :=
  match name.key? with
  | none     => .fail r (.emptyName .solver)
  | some key =>
    match factory with
    | none   => .fail r (.notCallable name)
    | some f =>
      { state := ⟨r.entries.insert key f⟩
        answer := .ok ()
        events := if r.entries.contains key then [.factoryReplaced key] else [] }

/-- Let an alias stand for the factory that the canonical name has now. -/
def registerAlias (r : Registry φ) (synonym canonical : Label) : Outcome α (Registry φ) Unit :=
  match synonym.key? with
  | none     => .fail r (.emptyName .synonym)
  | some key =>
    match canonical.normalize.bind r.entries.get? with
    | none   => .fail r (.unknown canonical r.keys)
    | some f => .pure ⟨r.entries.insert key f⟩ ()

/-- The registry in one line. -/
def text (r : Registry φ) : String :=
  "SolverRegistry(" ++ Text.quoteList r.names ++ ")"

end Registry

/-! ## The built-in backends -/

/-- What calling a factory gives: an adapter, or what it raises. -/
abbrev Factory (α : Type) := Except String (Adapter α)

/-- What stands behind the built-in backends: the two engines, the library before one of them, and
the product of vectors. -/
structure Engines (α : Type) where
  inequality : InequalityEngine α
  library : Library α
  bounded : BoundedEngine α
  inner : InnerProduct α

namespace Engines

variable {α : Type}

/-- The adapter for programs of inequalities with its defaults. -/
def inequalityAdapter (e : Engines α) : Adapter α :=
  ⟨Adapter.inequalityName, .inequality e.inequality Adapter.defaultMethod, 10000, e.inner⟩

/-- The adapter for programs with native bounds with its defaults. -/
def boundedAdapter (e : Engines α) : Adapter α :=
  ⟨Adapter.boundedName, .bounded e.library e.bounded .null, 10000, e.inner⟩

end Engines

/-- The names of the built-in backends. -/
def builtinNames : List String :=
  [Adapter.inequalityName, Adapter.boundedName]

/-- The other names under which the built-in backends are known. -/
def builtinAliases : List (String × String) :=
  [("linprog", Adapter.inequalityName), ("highs", Adapter.inequalityName),
   ("standard", Adapter.inequalityName), ("cbc", Adapter.boundedName),
   ("coin", Adapter.boundedName)]

/-- A registry of the built-in backends and their aliases, over any factories for them. -/
def Registry.builtin {φ : Type} (inequality bounded : φ) : Registry φ :=
  let named : Registry φ :=
    ⟨.ofList [(Adapter.inequalityName, inequality), (Adapter.boundedName, bounded)]⟩
  builtinAliases.foldl
    (fun r (synonym, canonical) =>
      (r.registerAlias (α := Empty) (.text synonym) (.text canonical)).state)
    named

/-- The registry that a program starts with. -/
def Engines.registry {α : Type} (e : Engines α) : Registry (Factory α) :=
  .builtin (.ok e.inequalityAdapter) (.ok e.boundedAdapter)

/-- Instantiate the backend registered under a name. -/
def Registry.create {α : Type} (r : Registry (Factory α)) (name : Label) :
    Except (Error α) (Adapter α) :=
  match r.find name with
  | .error e           => .error e
  | .ok (.error text)  => .error (.raised text)
  | .ok (.ok adapter)  => .ok adapter

end LinearDispatch
