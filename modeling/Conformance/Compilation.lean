import Conformance.Compilation.Rule
import Conformance.Digest
/-!
Compilation of documents. The type of a document is bound first, since the kinds that it admits
decide which of the other constraints apply; these are bound in the order of their keys. A document
that stands inside another, or is named by it and out of date, is compiled one level deeper, and
the number of levels is limited.
-/

namespace Conformance

/-- What compilation reads of an environment. -/
structure Site where
  identity : Nat
  environment : String
  settings : Settings
  revision : Nat

/-- A document to compile, with what its schema is to know of itself. -/
structure Source where
  document : Value
  /-- The name of the schema; without one it gets the digest of the document. -/
  name : Option String
  strict : Bool
  revision : Nat

/-- What a schema was compiled from. -/
def Schema.source (schema : Schema) : Source :=
  ⟨schema.document, schema.givenName, schema.strict, schema.revision⟩

namespace Context

/-- The name under which the registry knows the type of a document. -/
def typeName? (context : Context) : Option String := context.settings.constraints.resolve "type"

/-- Binds the type of a document: the kinds that it admits, and its rule if it has one. -/
def bindType (context : Context) : Binding (Option KindSet × List Bound) :=
  match context.typeName?, context.sibling? "type" with
  | some name, some value => do
    let context := { context with constraint := name }
    let kinds ← context.kinds value
    match context.settings.constraints.get name with
    | some definition => do
      let rule ← context.rule definition.meaning value
      pure (some kinds, (rule.map (Bound.mk name true none)).toList)
    | none => pure (some kinds, [])
  | _, _ => pure (none, [])

/-- The guard of a constraint: none is needed when the type admits applicable kinds only. -/
def restriction (context : Context) (applicable : KindSet) : Option Guard :=
  match context.declared with
  | some declared => if declared.isSubset applicable then none else some ⟨applicable, false⟩
  | none => some ⟨applicable, context.strict⟩

/-- Whether the type of the document admits no applicable kind. -/
def isExcluded (context : Context) (applicable : KindSet) : Bool :=
  match context.declared with
  | some declared => !declared.intersects applicable
  | none => false

/-- Binds a constraint other than the type, if it applies and has a rule. -/
def bindConstraint (context : Context) (definition : Definition) (name : String) (value : Value) :
    Binding (List Bound) :=
  if context.isExcluded definition.applicableKinds then
    if context.strict then
      .failed (.notApplicable name (context.declared.getD .none))
    else pure []
  else do
    let rule ← { context with constraint := name }.rule definition.meaning value
    pure (rule.map (Bound.mk name false (context.restriction definition.applicableKinds))).toList

/-- Binds the constraints under the keys of a document. Keys that denote no constraint are errors
in a strict document and skipped in any other; no two keys may denote the same constraint. -/
def bindEntries (context : Context) (seen : List String) :
    List (String × Value) → Binding (List Bound)
  | [] => pure []
  | (key, value) :: entries =>
    match context.settings.constraints.resolve key with
    | none =>
      if context.strict then .failed (.unknownConstraint key) else context.bindEntries seen entries
    | some name =>
      if name ∈ seen then .failed (.malformedDocument (.repeated name))
      else do
        let first ←
          if some name = context.typeName? then pure []
          else match context.settings.constraints.get name with
            | some definition => context.bindConstraint definition name value
            | none => pure []
        let others ← context.bindEntries (name :: seen) entries
        pure (first ++ others)

/-- Binds all constraints of a document, its type in front. -/
def bindAll (context : Context) : Binding (Option KindSet × List Bound) := do
  let (declared, first) ← context.bindType
  let others ← { context with declared := declared }.bindEntries [] context.entries
  pure (declared, first ++ others)

end Context

namespace Site

/-- Finds the schema of a name in the cache. One that is out of date is compiled again and replaced
there. -/
def resolve (site : Site) (compile : Source → Compiling Schema) (name : String) :
    Compiling Schema := do
  match Table.lookup (← get) name with
  | none => throw (.unknownSchema name)
  | some cached =>
    if cached.header.environmentRevision = site.revision then pure cached
    else
      let fresh ← compile cached.source
      modify (Table.put · name fresh)
      pure fresh

/-- The context of a document, before its type is known. -/
def context (site : Site) (source : Source) (entries : List (String × Value)) : Context :=
  { settings := site.settings
    entries := entries
    constraint := "type"
    strict := source.strict
    declared := none }

/-- The schema of a document whose constraints are bound. -/
def schema (site : Site) (source : Source) (declared : Option KindSet) (constraints : List Bound)
    (references : NameSet) : Schema :=
  let digest := Value.digest site.environment source.document
  .mk
    { name := source.name.getD digest
      named := source.name.isSome
      document := source.document
      digest := digest
      environment := site.identity
      environmentRevision := site.revision
      strict := source.strict
      declared := declared
      revision := source.revision
      registry := site.settings.constraints
      references := references }
    constraints

/-- Compiles a document whose sub-schemas are compiled by `compile`. -/
def compileWith (site : Site) (compile : Source → Compiling Schema) (source : Source) :
    Compiling Schema :=
  match source.document with
  | .object entries => do
    let ((declared, constraints), references) ←
      (site.context source entries).bindAll.run
        (fun document => compile ⟨document, none, source.strict, 0⟩) (site.resolve compile) []
    pure (site.schema source declared constraints references)
  | other => throw (.malformedDocument (.notMapping other.kind))

/-- Compiles a document within a number of levels. -/
def compileWithin (site : Site) : Nat → Source → Compiling Schema
  | 0, _ => throw (.recursionLimit site.settings.config.maxDepth)
  | levels + 1, source => site.compileWith (site.compileWithin levels) source

/-- Compiles a document. -/
def compile (site : Site) (source : Source) : Compiling Schema :=
  site.compileWithin (site.settings.config.maxDepth + 1) source

end Site

end Conformance
