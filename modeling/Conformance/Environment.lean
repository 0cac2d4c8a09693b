import Conformance.Compilation
import Conformance.Registry.Builtin
/-!
Environments: settings, and a cache of the schemas compiled against them. A stored schema takes the
place of the one under its name, and the schemas built from that one are compiled again. A change
of settings makes all cached schemas out of date; they are compiled again, and those that no longer
compile are dropped. The order in which cached schemas are visited is left open: it is a parameter
of every operation that visits them.
-/

namespace Conformance

/-- An order in which names are visited. -/
structure Walk where
  visit : List String → List String
  perm : ∀ names, (visit names).Perm names

/-- Visits names as they are listed. -/
def Walk.listed : Walk := ⟨id, fun _ => .refl _⟩

/-- Settings with a revision number, and the schemas compiled against them. -/
structure Environment where
  identity : Nat
  name : String
  settings : Settings
  revision : Nat
  cache : Cache

/-- What a schema is made from. -/
inductive Material where
  | document (document : Value)
  | schema (schema : Schema)

/-- Why an environment makes no schema. -/
inductive BuildError where
  | name (error : RegistryError)
  | compile (error : CompileError)

namespace Environment

/-- An environment without schemas. -/
def ofTables (identity : Nat) (name : String) (constraints : Registry) (types : TypeTable)
    (config : Config) : Environment :=
  ⟨identity, name, ⟨constraints, types, FormatTable.builtin, config⟩, 0, []⟩

/-- The strict environment of the base registry. -/
def native (identity : Nat) : Environment :=
  ofTables identity "native" Registry.base TypeTable.native { strict := true }

/-- The environment of JSON Schema. -/
def jsonSchema (identity : Nat) : Environment :=
  ofTables identity "jsonSchema" Registry.jsonSchema TypeTable.jsonSchema {}

/-- What compilation reads of an environment. -/
def site (environment : Environment) : Site :=
  ⟨environment.identity, environment.name, environment.settings, environment.revision⟩

/-- The schema cached under a name. -/
def get (environment : Environment) (name : String) : Option Schema :=
  Table.lookup environment.cache name

/-- The names of the cached schemas, in order. -/
def names (environment : Environment) : List String :=
  (Table.names environment.cache).mergeSort (· ≤ ·)

/-- Removes the schema cached under a name. -/
def remove (environment : Environment) (name : String) : Option Schema × Environment :=
  (environment.get name, { environment with cache := Table.remove environment.cache name })

/-- The kinds that a type name denotes. -/
def kindsOfName (environment : Environment) (name : String) : Except CompileError KindSet :=
  match Table.lookup environment.settings.types name with
  | some kinds => .ok kinds
  | none => .error (.unknownType name)

end Environment

namespace Site

/-- Compiles a cached schema again. It is replaced by the outcome, or dropped without one. Says
whether it compiled. -/
def renew (site : Site) (key : String) (schema : Schema) (cache : Cache) : Bool × Cache :=
  match (site.compile schema.source).outcome cache with
  | (.ok fresh, cache) => (true, Table.put cache key fresh)
  | (.error _, cache) => (false, Table.remove cache key)

/-- The cached schemas that refer to a name, in the order of a walk. -/
def dependents (walk : Walk) (cache : Cache) (name : String) : List (String × Schema) :=
  let found := cache.filter fun entry => decide (name ∈ entry.2.references)
  (walk.visit (Table.names found)).filterMap fun key =>
    (Table.lookup found key).map fun schema => (key, schema)

/-- Compiles those of the listed schemas again that were not visited before. Gives the cache, the
names visited by then and the names added. -/
def renewEach (site : Site) (cache : Cache) (visited added : List String) :
    List (String × Schema) → Cache × List String × List String
  | [] => (cache, visited, added)
  | (key, schema) :: rest =>
    if key ∈ visited then site.renewEach cache visited added rest
    else site.renewEach (site.renew key schema cache).2 (key :: visited) (key :: added) rest

/-- Compiles the dependents of all pending names again, and the dependents of these in turn, in at
most `bound` rounds. The last name added is the first to be taken. -/
def refreshWithin (site : Site) (walk : Walk) :
    Nat → Cache → (pending visited : List String) → Cache
  | 0, cache, _, _ => cache
  | _, cache, [], _ => cache
  | bound + 1, cache, name :: pending, visited =>
    let (cache, visited, pending) :=
      site.renewEach cache visited pending (dependents walk cache name)
    site.refreshWithin walk bound cache pending visited

/-- Compiles all schemas again that were built from the one of a name. Every name is pending once at
most, and only `name` and the names of cached schemas ever are. -/
def refresh (site : Site) (walk : Walk) (name : String) (cache : Cache) : Cache :=
  site.refreshWithin walk (cache.length + 1) cache [name] [name]

/-- Compiles those of the named schemas again that are out of date, and counts them. -/
def renewStale (site : Site) (cache : Cache) (count : Nat) : List String → Nat × Cache
  | [] => (count, cache)
  | key :: keys =>
    match Table.lookup cache key with
    | none => site.renewStale cache count keys
    | some schema =>
      if schema.header.environmentRevision = site.revision then site.renewStale cache count keys
      else
        match site.renew key schema cache with
        | (true, cache) => site.renewStale cache (count + 1) keys
        | (false, cache) => site.renewStale cache count keys

end Site

namespace Environment

/-- Puts a schema into the cache and compiles the schemas again that were built from the one it
replaces. -/
def store (environment : Environment) (walk : Walk) (schema : Schema) : Environment :=
  { environment with
    cache := environment.site.refresh walk schema.name
      (Table.put environment.cache schema.name schema) }

/-- Compiles a document and stores its schema. -/
def compile (environment : Environment) (walk : Walk) (source : Source) :
    Except BuildError Schema × Environment :=
  match (environment.site.compile source).outcome environment.cache with
  | (.ok schema, cache) => (.ok schema, { environment with cache := cache }.store walk schema)
  | (.error error, cache) => (.error (.compile error), { environment with cache := cache })

/-- Whether a cached schema is what a document compiles to: it has an equal document and the same
strictness, is up to date, and is named as wanted. -/
def isCurrent (environment : Environment) (cached : Schema) (document : Value)
    (strict named : Bool) : Bool :=
  cached.document == document && cached.strict == strict &&
    cached.header.environmentRevision == environment.revision && cached.named == named

/-- Whether a schema belongs to an environment as it is now, under the wanted name. -/
def isOwn (environment : Environment) (schema : Schema) (name : Option String) (strict : Bool) :
    Bool :=
  schema.header.environment == environment.identity &&
    schema.header.environmentRevision == environment.revision && schema.strict == strict &&
    (match name with
      | some name => name == schema.name
      | none => true)

/-- The schema of a document or of a compiled schema, under a name or else under the digest of the
document. A cached schema serves if it is current; any other gives way to a new revision. -/
def build (environment : Environment) (walk : Walk) (material : Material) (name : Option String)
    (strict : Option Bool) : Except BuildError Schema × Environment :=
  match name.elim (.ok ()) checkName with
  | .error error => (.error (.name error), environment)
  | .ok () =>
    let strict := strict.getD environment.settings.config.strict
    match material with
    | .schema schema =>
      if environment.isOwn schema name strict then
        match environment.get schema.name with
        | some cached =>
          if environment.isCurrent cached schema.document strict schema.named then
            (.ok cached, environment)
          else (.ok schema, environment)
        | none => (.ok schema, environment)
      else
        environment.compile walk
          ⟨schema.document, name.orElse fun _ => schema.givenName, strict, schema.revision⟩
    | .document document =>
      match environment.get (name.getD (document.digest environment.name)) with
      | some cached =>
        if environment.isCurrent cached document strict name.isSome then
          (.ok cached, environment)
        else environment.compile walk ⟨document, name, strict, cached.revision + 1⟩
      | none => environment.compile walk ⟨document, name, strict, 0⟩

/-- Drops the schema that a revision supersedes, where it has no name of its own. -/
def dropSuperseded (environment : Environment) (schema : Schema) : Environment :=
  if !schema.named && schema.header.environment == environment.identity then
    { environment with cache := Table.remove environment.cache schema.name }
  else environment

/-- The next revision of a schema, from another document. -/
def revise (environment : Environment) (walk : Walk) (schema : Schema) (document : Value) :
    Except CompileError Schema × Environment :=
  let source : Source := ⟨document, schema.givenName, schema.strict, schema.revision + 1⟩
  match (environment.site.compile source).outcome environment.cache with
  | (.ok revised, cache) =>
    (.ok revised, ({ environment with cache := cache }.dropSuperseded schema).store walk revised)
  | (.error error, cache) => (.error error, { environment with cache := cache })

/-- Compiles all cached schemas again that are out of date, and counts them. -/
def recompile (environment : Environment) (walk : Walk) : Nat × Environment :=
  let (count, cache) :=
    environment.site.renewStale environment.cache 0 (walk.visit (Table.names environment.cache))
  (count, { environment with cache := cache })

/-- Changes the settings, which makes a new revision of the environment. A refused change leaves
everything as it is. -/
def change (environment : Environment) (walk : Walk) (change : Change) :
    Except RegistryError Unit × Environment :=
  match environment.settings.change change with
  | .error error => (.error error, environment)
  | .ok settings =>
    (.ok (), ({ environment with
      settings := settings, revision := environment.revision + 1 }.recompile walk).2)

end Environment

namespace Schema

/-- The document of a schema without some keys and with some entries put in. -/
def edited (schema : Schema) (dropped : List String) (added : List (String × Value)) : Value :=
  match schema.document with
  | .object entries =>
    .object (added.foldl (fun entries entry => Table.put entries entry.1 entry.2)
      (dropped.foldl Table.remove entries))
  | document => document

end Schema

end Conformance
