import MapSheets.Entries
import MapSheets.Json.Value
import MapSheets.Text.Blank
import MapSheets.Work

/-
The registry of providers. Types of providers are registered with a builder,
which makes a provider of that type from its configuration; providers that
were made stand under a name, and a builder may ask for those. A type may
come with a cleanup, kept as long as the type is registered.

The registry knows nothing about what a provider or a cleanup is.
-/

namespace MapSheets

/-- The fields of a provider's configuration. -/
abbrev ProviderConfig := List (String × Json)

/-- Makes a provider from its configuration; other providers may be asked for
by name. -/
abbrev Builder (π : Type) := ProviderConfig → (String → Outcome π) → Printing π

/-- Types of providers, and the providers that stand under a name. -/
structure Registry (π κ : Type) where
  types : List (String × Builder π) := []
  cleanups : List (String × κ) := []
  byName : List (String × π) := []

namespace Registry

variable {π κ : Type}

-- =================================================================== types

/-- Registers a type; a type cannot be registered twice. -/
def register (r : Registry π κ) (type : String) (build : Builder π) (cleanup : Option κ) :
    Outcome (Registry π κ) :=
  if (r.types.lookup type).isSome then .error (.typeTaken type)
  else .ok { r with
    types := Entries.set type build r.types
    cleanups := match cleanup with
      | none => r.cleanups
      | some c => Entries.set type c r.cleanups }

/-- Takes a type out of the registry, and hands over its cleanup to be run. -/
def unregister (r : Registry π κ) (type : String) : Outcome (Registry π κ × Option κ) :=
  if (r.types.lookup type).isSome then
    .ok ({ r with types := Entries.drop type r.types, cleanups := Entries.drop type r.cleanups },
      r.cleanups.lookup type)
  else .error (.typeUnknown type)

/-- The registered types in order. -/
def registered (r : Registry π κ) : List String := Entries.sortedNames r.types

-- =============================================================== providers

/-- Puts a provider under a name; an earlier one of that name is lost. -/
def addNamed (r : Registry π κ) (name : String) (provider : π) : Registry π κ :=
  { r with byName := Entries.set name provider r.byName }

/-- The provider of a name. -/
def named (r : Registry π κ) (name : String) : Outcome π :=
  match r.byName.lookup name with
  | some p => .ok p
  | none => .error (.providerUnknown name)

/-- The names in order. -/
def names (r : Registry π κ) : List String := Entries.sortedNames r.byName

/-- Builds a provider of a type. -/
def providerFor (r : Registry π κ) (type : String) (config : ProviderConfig) : Printing π :=
  match r.types.lookup type with
  | some build => build config r.named
  | none => .fail (.typeUnknown type)

-- ================================================================= loading

/-- A field of a configuration as text without blanks around it. -/
def fieldText (config : ProviderConfig) (name : String) : String :=
  Text.trim ((config.lookup name).getD (.str "")).plain

/-- Builds the provider of one configuration, and tells its name. -/
def loadOne (r : Registry π κ) (config : Json) : Printing (String × π) :=
  match config with
  | .obj fields => do
    let name := fieldText fields "name"
    let type := fieldText fields "type"
    if name = "" then Work.fail (.providerUnnamed config.display)
    if type = "" then Work.fail (.providerUntyped name)
    Work.note ("  Loading grid provider " ++ name ++ " (" ++ type ++ ")")
    let provider ← r.providerFor type fields
    return (name, provider)
  | v => .fail (.partAbsent ("'" ++ v.kindName ++ "' object has no attribute 'get'"))

/-- Loads configurations in order; later ones may refer to earlier ones. The
first that fails ends the loading, and what was loaded before it stays. -/
def load (r : Registry π κ) : List Json → Registry π κ × Printing (List (String × π))
  | [] => (r, .done [])
  | config :: rest =>
    let one := r.loadOne config
    match one.outcome with
    | .error f => (r, ⟨one.notes, .error f⟩)
    | .ok (name, provider) =>
      let (r, more) := load (r.addNamed name provider) rest
      (r, ⟨one.notes ++ more.notes, more.outcome.map fun loaded =>
        if (loaded.lookup name).isSome then loaded else (name, provider) :: loaded⟩)

/-- Drops all names, and hands over every cleanup to be run. -/
def cleanup (r : Registry π κ) : Registry π κ × List κ :=
  ({ r with byName := [] }, r.cleanups.map (·.2))

end Registry

end MapSheets
