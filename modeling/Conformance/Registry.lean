import Conformance.Json.Printer
import Conformance.Text.Blank
import Conformance.Text.Inflection
/-!
Registries of constraints. A definition says what the value of a constraint means and to which
kinds of instance the constraint applies. A registry keeps definitions under names in one naming
convention and may know some of them under aliases; a lookup first brings the requested name into
the convention, so all spellings of a name find the same definition.
-/

namespace Conformance

/-- What the value of a constraint means. -/
inductive Meaning where
  | remark
  | ofKinds
  | among
  | constant
  | multipleOf
  | maximum
  | minimum
  | exclusiveMaximum
  | exclusiveMinimum
  | maxLength
  | minLength
  | pattern
  | format
  | items
  | maxSize
  | minSize
  | uniqueItems
  | contains
  | required
  | entries
  | patternEntries
  | additionalEntries
  | dependencies
  | entryNames
  | allOf
  | anyOf
  | oneOf
  | negation
  | conditional
  /-- The value has to be `true`; instances have to be even numbers. -/
  | even
  /-- The value names a sibling; every instance is refused with a report of what was in sight. -/
  | probe
  /-- The value is a sub-schema, to which the instance is handed on. -/
  | apply
  deriving DecidableEq, Repr

/-- A constraint: its name, its description, its meaning and the kinds that it applies to. -/
structure Definition where
  name : String
  description : String
  meaning : Meaning
  require : Option KindSet
  exclude : Option KindSet
  deriving DecidableEq, Repr

namespace Definition

/-- A constraint on instances of all kinds. -/
def general (name description : String) (meaning : Meaning) : Definition :=
  ⟨name, description, meaning, none, none⟩

/-- A constraint on instances of certain kinds. -/
def on (kinds : KindSet) (name description : String) (meaning : Meaning) : Definition :=
  ⟨name, description, meaning, some kinds, none⟩

/-- The required kinds, or all of them, without the excluded ones. -/
def applicableKinds (definition : Definition) : KindSet :=
  (definition.require.getD .any).diff (definition.exclude.getD .none)

/-- The description, in which the constraint's value takes the place of its mark. -/
def describe (definition : Definition) (value : Value) : String :=
  value.text.intercalate (definition.description.splitOn "\x7bvalue\x7d")

end Definition

/-- Why a registry refuses a name. -/
inductive RegistryError where
  | nameCollision (name : String)
  | invalidName (name : String)
  | unknownConstraint (name : String)
  deriving DecidableEq, Repr

def RegistryError.message : RegistryError → String
  | .nameCollision name =>
    "constraint registration failed: the name '" ++ name ++ "' is reserved or already registered"
  | .invalidName name =>
    "constraint registration failed: the name '" ++ name ++
      "' is invalid (empty or whitespace-only names are not allowed)"
  | .unknownConstraint name => "no constraint named '" ++ name ++ "'"

/-- The names that no constraint may take. -/
def reservedNames : List String := ["system", "env"]

/-- Refuses names without a character that is not blank. -/
def checkName (name : String) : Except RegistryError Unit :=
  if Text.isBlankText name then .error (.invalidName name) else .ok ()

/-- Definitions under names in one convention, and aliases for some of these names. -/
structure Registry where
  inflection : Inflection
  definitions : Table Definition
  aliases : Table String
  deriving DecidableEq, Repr

namespace Registry

def empty (inflection : Inflection) : Registry := ⟨inflection, [], []⟩

/-- A name in the registry's convention. -/
def inflect (registry : Registry) (name : String) : String := registry.inflection.apply name

/-- The name under which a constraint is defined, for any spelling of its name or of an alias. -/
def resolve (registry : Registry) (name : String) : Option String :=
  let image := registry.inflect name
  if Table.has registry.definitions image then some image
  else Table.lookup registry.aliases image

/-- The definition that a name denotes. -/
def get (registry : Registry) (name : String) : Option Definition :=
  (registry.resolve name).bind (Table.lookup registry.definitions)

def contains (registry : Registry) (name : String) : Bool := (registry.resolve name).isSome

def names (registry : Registry) : List String := Table.names registry.definitions

def size (registry : Registry) : Nat := registry.definitions.length

/-- Puts in a definition under its own name, in place of any previous one. -/
def define (registry : Registry) (definition : Definition) : Registry :=
  let name := registry.inflect definition.name
  { registry with
    definitions := Table.put registry.definitions name { definition with name := name } }

/-- Puts in a definition unless its name is blank, reserved, or taken and not to be replaced. -/
def register (registry : Registry) (definition : Definition) (overwrite : Bool) :
    Except RegistryError Registry :=
  match checkName definition.name with
  | .error error => .error error
  | .ok () =>
    let name := registry.inflect definition.name
    if name.isEmpty then .error (.invalidName definition.name)
    else if name ∈ reservedNames ∨ (overwrite = false ∧ Table.has registry.definitions name) then
      .error (.nameCollision name)
    else .ok (registry.define definition)

/-- Makes an alias of a constraint, unless the alias is reserved or a constraint's own name. -/
def addAlias (registry : Registry) (synonym target : String) : Except RegistryError Registry :=
  match registry.resolve target with
  | none => .error (.unknownConstraint target)
  | some target =>
    let synonym := registry.inflect synonym
    if Table.has registry.definitions synonym ∨ synonym ∈ reservedNames then
      .error (.nameCollision synonym)
    else .ok { registry with aliases := Table.put registry.aliases synonym target }

/-- Removes the constraint that a name denotes, with its aliases. -/
def remove (registry : Registry) (name : String) : Option Definition × Registry :=
  match registry.resolve name with
  | none => (none, registry)
  | some name =>
    (Table.lookup registry.definitions name,
      { registry with
        definitions := Table.remove registry.definitions name
        aliases := registry.aliases.filter (fun entry => !decide (entry.2 = name)) })

/-- Carries one definition over to another registry: under its new name if it is renamed, else
under its own if that is included. The name it would have had without renaming becomes an alias. -/
def project (registry : Registry) (included : Option (List String))
    (renames : List (String × String)) (projected : Registry)
    (entry : String × Definition) : Registry :=
  let renamed := renames.find? (fun rename => registry.inflect rename.2 == entry.1)
  let natural := projected.inflect entry.1
  let name := match renamed with
    | some rename => projected.inflect rename.1
    | none => natural
  let keep := renamed.isSome ||
    (match included with
      | none => true
      | some names => names.any (fun other => projected.inflect other == name))
  if keep then
    { projected with
      definitions := Table.put projected.definitions name { entry.2 with name := name }
      aliases :=
        if natural = name then projected.aliases
        else Table.put projected.aliases natural name }
  else projected

/-- A registry in another convention with some of the constraints of this one. `renames` pairs new
names with the names of constraints here. -/
def cloneWith (registry : Registry) (included : Option (List String))
    (renames : List (String × String)) (inflection : Option Inflection) : Registry :=
  registry.definitions.foldl (project registry included renames)
    (empty (inflection.getD registry.inflection))

end Registry

end Conformance
