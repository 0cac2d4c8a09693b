import Conformance.Proofs.Compilation.Answers
import Conformance.Proofs.Compilation.Spelling
import Conformance.Proofs.Registry.Reachability
import Conformance.Registry.Calls
/-!
Lookups in registries that operations lead to. Every alias leads to a definition, whatever the names
(`Registry.ReachableWith.isLinked`); if they are ASCII, every name that is found leads to itself and to the
definition of its name. A call that is refused, or that finds nothing to remove, leaves a registry as it is
(`Registry.ReachableWith.lookups_coherent`).
-/

namespace Conformance

namespace Registry

/-- The name that a definition gets in a clone, by its name in the original, if it is carried over. -/
def carriedName? (registry : Registry) (included : Option (List String)) (renames : List (String × String))
    (inflection : Inflection) (name : String) : Option String :=
  match renames.find? (fun rename => registry.inflect rename.2 == name), included with
  | some rename, _ => some (inflection.apply rename.1)
  | none, none => some (inflection.apply name)
  | none, some names =>
    if names.any (fun other => inflection.apply other == inflection.apply name) then
      some (inflection.apply name)
    else none

theorem project_eq (registry : Registry) (included : Option (List String)) (renames : List (String × String))
    (projected : Registry) (entry : String × Definition) :
    registry.project included renames projected entry =
      match registry.carriedName? included renames projected.inflection entry.1 with
      | some name => { projected with
          definitions := Table.put projected.definitions name { entry.2 with name := name }
          aliases :=
            if projected.inflect entry.1 = name then projected.aliases
            else Table.put projected.aliases (projected.inflect entry.1) name }
      | none => projected := by
  unfold project carriedName?
  cases renames.find? (fun rename => registry.inflect rename.2 == entry.1) with
  | some rename => rfl
  | none =>
      cases included with
      | none => rfl
      | some names =>
          dsimp only [Option.isSome_none, Bool.false_or, inflect]
          cases names.any _ with
          | true => rfl
          | false => rfl

/-- Whether every alias leads to a name under which a definition stands. -/
def IsLinked (registry : Registry) : Prop := ∀ entry ∈ registry.aliases, entry.2 ∈ registry.names

namespace IsLinked

variable {registry : Registry} {name : String}

theorem empty (inflection : Inflection) : (empty inflection).IsLinked := List.forall_mem_nil _

variable (linked : registry.IsLinked)

include linked

theorem put (name : String) (definition : Definition) :
    IsLinked { registry with definitions := Table.put registry.definitions name definition } :=
  fun entry member => (Table.mem_names_put definition).mpr (.inl (linked entry member))

theorem putAlias (synonym : String) (known : name ∈ registry.names) :
    IsLinked { registry with aliases := Table.put registry.aliases synonym name } :=
  Table.forall_mem_put linked known

theorem register {registry' : Registry} {definition : Definition} {overwrite : Bool}
    (registered : registry.register definition overwrite = .ok registry') : registry'.IsLinked := by
  obtain ⟨_, _, rfl⟩ := eq_of_register registered
  exact linked.put _ _

theorem addAlias {registry' : Registry} {synonym target : String}
    (added : registry.addAlias synonym target = .ok registry') : registry'.IsLinked := by
  obtain ⟨name, resolved, _, _, rfl⟩ := eq_of_addAlias added
  exact linked.putAlias _ (mem_names_of_resolve linked resolved)

theorem remove (name : String) : (registry.remove name).2.IsLinked := by
  cases resolved : registry.resolve name with
  | none =>
      rw [remove_of_unknown resolved]
      exact linked
  | some target =>
      rw [eq_of_remove resolved]
      intro entry member
      obtain ⟨before, apart⟩ := List.mem_filter.mp member
      change entry.2 ∈ Table.names (Table.remove registry.definitions target)
      rw [Table.names_remove]
      exact List.mem_filter.mpr ⟨linked entry before, apart⟩

omit linked in
theorem project {projected : Registry} (linked : projected.IsLinked) (included : Option (List String))
    (renames : List (String × String)) (entry : String × Definition) :
    (registry.project included renames projected entry).IsLinked := by
  rw [project_eq]
  split
  · dsimp only
    split
    · exact linked.put _ _
    · exact (linked.put _ _).putAlias _ ((Table.mem_names_put _).mpr (.inr rfl))
  · exact linked

omit linked in
theorem cloneWith (registry : Registry) (included : Option (List String))
    (renames : List (String × String)) (inflection : Option Inflection) :
    (registry.cloneWith included renames inflection).IsLinked :=
  List.foldlRecOn registry.definitions _ (.empty _) fun _ linked entry _ =>
    linked.project included renames entry

end IsLinked

/-- The induction is on the operations. -/
theorem ReachableWith.isLinked {allowed : String → Prop} {registry : Registry}
    (reached : registry.ReachableWith allowed) : registry.IsLinked := by
  induction reached with
  | empty inflection => exact .empty inflection
  | base => exact isCanonical_base.targets
  | register _ _ registered linked => exact linked.register registered
  | addAlias _ _ added linked => exact linked.addAlias added
  | remove _ name linked => exact linked.remove name
  | cloneWith _ included _ inflection _ => exact .cloneWith _ included _ inflection

/-- The operations keep the names in the tables ASCII, and so each its own image. -/
theorem ReachableWith.isCanonical {registry : Registry} (reached : registry.ReachableWith Text.IsAscii) :
    registry.IsCanonical where
  targets := reached.isLinked
  resolve name member := by
    obtain ⟨entry, listed, rfl⟩ := List.mem_map.mp member
    have isImage : registry.inflect entry.1 = entry.1 := (reached.isCoherent.defined entry listed).2.2
    unfold resolve
    rw [isImage]
    exact if_pos ((Table.has_iff_mem_names _ _).mpr member)

/-- What is found under a name has the name that is its own. -/
theorem IsCoherent.exists_get {registry : Registry} (coherent : registry.IsCoherent)
    (canonical : registry.IsCanonical) {key name : String} (resolved : registry.resolve key = some name) :
    ∃ definition, registry.get key = some definition ∧ registry.get name = some definition ∧
      definition.name = name := by
  have member := mem_names_of_resolve canonical.targets resolved
  obtain ⟨definition, found⟩ := Option.isSome_iff_exists.mp ((Table.has_iff_mem_names _ _).mpr member)
  have named : definition.name = name := (coherent.defined _ (Table.mem_of_lookup found)).1
  have denoted {spelling : String} (denotes : registry.resolve spelling = some name) :
      registry.get spelling = some definition := by
    unfold get
    rw [denotes]
    exact found
  exact ⟨definition, denoted resolved, denoted (canonical.resolve_name resolved), named⟩

end Registry

namespace Context

open Registry

variable {context : Context}

/-- Binds the type of a document, which has a definition and a value. -/
def bindTypeOf (context : Context) (definition : Definition) (name : String) (value : Value) :
    Binding (Option KindSet × List Bound) := do
  let context := { context with constraint := name }
  let kinds ← context.kinds value
  let rule ← context.rule definition.meaning value
  pure (some kinds, (rule.map (Bound.mk name true none)).toList)

/-- A key that denotes the type of a document leads to a value of the type. -/
theorem exists_bindTypeOf {key name : String} {value : Value}
    (resolved : context.settings.constraints.resolve key = some name)
    (isType : context.typeName? = some name) (member : (key, value) ∈ context.entries)
    {definition : Definition} (defined : context.settings.constraints.get name = some definition) :
    ∃ value, context.sibling? "type" = some value ∧
      context.bindType = context.bindTypeOf definition name value := by
  have spelled : context.settings.constraints.spells "type" key = true := by
    have target : context.settings.constraints.resolve "type" = some name := isType
    unfold spells
    rw [target]
    exact beq_iff_eq.mpr resolved
  have some : (context.sibling? "type").isSome = true := by
    unfold sibling?
    rw [find?_eq, Option.isSome_map, List.find?_isSome]
    exact ⟨(key, value), member, spelled⟩
  obtain ⟨value, found⟩ := Option.isSome_iff_exists.mp some
  refine ⟨value, found, ?_⟩
  unfold bindType
  rw [isType, found]
  dsimp only
  rw [defined]
  rfl

theorem bindEntries_of_defined {key name : String}
    (resolved : context.settings.constraints.resolve key = some name)
    (noType : context.typeName? ≠ some name) {definition : Definition}
    (defined : context.settings.constraints.get name = some definition) (seen : List String) (value : Value)
    (entries : List (String × Value)) :
    context.bindEntries seen ((key, value) :: entries) =
      if name ∈ seen then .failed (.malformedDocument (.repeated name))
      else do
        let first ← context.bindConstraint definition name value
        let others ← context.bindEntries (name :: seen) entries
        return first ++ others := by
  rw [bindEntries, resolved]
  dsimp only
  rw [if_neg noType.symm, defined]

end Context

namespace Registry

/-- A removal without a result has found no name. -/
theorem remove_of_none {registry : Registry}
    (targets : ∀ entry ∈ registry.aliases, entry.2 ∈ registry.names) {name : String}
    (missed : (registry.remove name).1 = none) : (registry.remove name).2 = registry := by
  cases resolved : registry.resolve name with
  | none => rw [remove_of_unknown resolved]
  | some target =>
      have known := (Table.has_iff_mem_names _ _).mpr (mem_names_of_resolve targets resolved)
      obtain ⟨definition, found⟩ := Option.isSome_iff_exists.mp known
      unfold remove at missed
      rw [resolved] at missed
      cases found.symm.trans missed

/-- Definitions stand under their own names, which are their own images, and aliases lead to such names. What
is found under a name, directly or through an alias, is a definition of the name that it leads to, which
leads to itself; so compilation binds what a key denotes, and passes over no key that denotes a constraint.
A call that is refused, and a removal that finds nothing, leave the registry as it was. -/
theorem ReachableWith.lookups_coherent {registry : Registry} (reached : registry.ReachableWith Text.IsAscii) :
    registry.names.Nodup ∧
      (∀ entry ∈ registry.definitions, entry.2.name = entry.1 ∧ registry.inflect entry.1 = entry.1) ∧
      (∀ entry ∈ registry.aliases, entry.2 ∈ registry.names) ∧
      (∀ key name, registry.resolve key = some name →
        registry.resolve name = some name ∧
        ∃ definition, registry.get key = some definition ∧ registry.get name = some definition ∧
          definition.name = name ∧
          ∀ context : Context, context.settings.constraints = registry →
            (context.typeName? = some name → ∀ value, (key, value) ∈ context.entries →
              ∃ value, context.sibling? "type" = some value ∧
                context.bindType = context.bindTypeOf definition name value) ∧
            (context.typeName? ≠ some name → ∀ seen value entries,
              context.bindEntries seen ((key, value) :: entries) =
                if name ∈ seen then .failed (.malformedDocument (.repeated name))
                else do
                  let first ← context.bindConstraint definition name value
                  let others ← context.bindEntries (name :: seen) entries
                  pure (first ++ others))) ∧
      (∀ definition overwrite error after,
        (Registering.register definition overwrite).outcome registry = (.error error, after) →
          after = registry) ∧
      (∀ synonym target error after,
        (Registering.addAlias synonym target).outcome registry = (.error error, after) →
          after = registry) ∧
      (∀ name after, (Registering.remove name).outcome registry = (.ok none, after) → after = registry) := by
  have coherent := reached.isCoherent
  have canonical := reached.isCanonical
  refine ⟨coherent.distinct,
    fun entry member => ⟨(coherent.defined entry member).1, (coherent.defined entry member).2.2⟩,
    canonical.targets, fun key name resolved => ?_, fun definition overwrite error after refused => ?_,
    fun synonym target error after refused => ?_, fun name after missed => ?_⟩
  · obtain ⟨definition, found, defined, named⟩ := coherent.exists_get canonical resolved
    refine ⟨canonical.resolve_name resolved, definition, found, defined, named, ?_⟩
    rintro context rfl
    exact ⟨fun isType value member => context.exists_bindTypeOf resolved isType member defined,
      fun noType seen value entries =>
        context.bindEntries_of_defined resolved noType defined seen value entries⟩
  · rw [Registering.outcome_register] at refused
    split at refused <;> cases refused
    rfl
  · rw [Registering.outcome_addAlias] at refused
    split at refused <;> cases refused
    rfl
  · rw [Registering.outcome_remove] at missed
    obtain ⟨none, rfl⟩ := Prod.mk.inj missed
    exact remove_of_none canonical.targets (Except.ok.inj none)

/-- A constraint with an alias, carried over to the other convention under a new name. -/
theorem lookups_coherent_renamed :
    ∃ registry : Registry, registry.ReachableWith Text.IsAscii ∧
      registry.aliases = [("maxSize", "maxItems")] ∧
      registry.resolve "max-size" = some "maxItems" ∧ registry.resolve "maxItems" = some "maxItems" ∧
      ∃ definition, registry.get "max-size" = some definition ∧ definition.name = "maxItems" := by
  let size := Definition.general "Max-Size" "at most \x7bvalue\x7d" .maxSize
  have defined : (empty .underscore).register size false =
      .ok ⟨.underscore, [("max_size", { size with name := "max_size" })], []⟩ := by decide +kernel
  have aliased :
      addAlias ⟨.underscore, [("max_size", { size with name := "max_size" })], []⟩ "upperSize" "maxSize" =
        .ok ⟨.underscore, [("max_size", { size with name := "max_size" })],
          [("upper_size", "max_size")]⟩ := by
    decide +kernel
  have cloned : cloneWith
      ⟨.underscore, [("max_size", { size with name := "max_size" })], [("upper_size", "max_size")]⟩
      none [("max-items", "maxSize")] (some .lowerCamel) =
        ⟨.lowerCamel, [("maxItems", { size with name := "maxItems" })], [("maxSize", "maxItems")]⟩ := by
    decide +kernel
  have ascii : Text.IsAscii "Max-Size" ∧ Text.IsAscii "upperSize" ∧
      ∀ rename ∈ [("max-items", "maxSize")], Text.IsAscii rename.1 := by decide
  have first := ReachableWith.addAlias (.register (.empty .underscore) ascii.1 defined) ascii.2.1 aliased
  have reached := first.cloneWith none ascii.2.2 (some .lowerCamel)
  rw [cloned] at reached
  have resolved : resolve ⟨.lowerCamel, [("maxItems", { size with name := "maxItems" })],
      [("maxSize", "maxItems")]⟩ "max-size" = some "maxItems" := by decide +kernel
  obtain ⟨_, _, _, lookups, _⟩ := reached.lookups_coherent
  obtain ⟨itself, definition, found, _, named, _⟩ := lookups _ _ resolved
  exact ⟨_, reached, rfl, resolved, itself, definition, found, named⟩

end Registry

end Conformance
