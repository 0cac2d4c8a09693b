import Conformance.Proofs.Registry.Reachability
import Conformance.Proofs.Registry.Twins
import Conformance.Environment
/-!
Clones of registries. A clone that changes nothing has the definitions of the original, and none of its
aliases. It finds the same, and documents compile alike over it, if and only if all aliases of the original
are shadowed by definitions (`Registry.ReachableWith.cloneWith_unchanged`).
-/

namespace Conformance

namespace Registry

/-- Whether no name is found through an alias, since a definition comes first under each. -/
def IsShadowed (registry : Registry) : Prop :=
  ∀ entry ∈ registry.aliases, Table.has registry.definitions entry.1 = true

instance (registry : Registry) : Decidable registry.IsShadowed :=
  List.decidableBAll (fun entry : String × String => Table.has registry.definitions entry.1 = true)
    registry.aliases

/-- A registry without its aliases. -/
def unaliased (registry : Registry) : Registry := { registry with aliases := [] }

variable {registry : Registry}

/-- Without changes, definitions are carried over as they are, one after the other. -/
theorem foldl_project (registry : Registry) (entries front : Table Definition)
    (distinct : (Table.names (front ++ entries)).Nodup)
    (settled : ∀ entry ∈ entries, entry.2.name = entry.1 ∧ registry.inflect entry.1 = entry.1) :
    entries.foldl (registry.project none []) ⟨registry.inflection, front, []⟩ =
      ⟨registry.inflection, front ++ entries, []⟩ := by
  induction entries generalizing front with
  | nil => rw [List.append_nil, List.foldl_nil]
  | cons entry entries ih =>
      obtain ⟨key, definition⟩ := entry
      obtain ⟨⟨named, isImage⟩, others⟩ := List.forall_mem_cons.mp settled
      have new : key ∉ Table.names front := by
        intro member
        rw [Table.names, List.map_append] at distinct
        exact (List.nodup_append.mp distinct).2.2 key member key List.mem_cons_self rfl
      have step : registry.project none [] ⟨registry.inflection, front, []⟩ (key, definition) =
          ⟨registry.inflection, front ++ [(key, definition)], []⟩ := by
        have same : (⟨registry.inflection, front, []⟩ : Registry).inflect key = key := isImage
        have held : { definition with name := key } = definition := by
          cases definition
          cases named
          rfl
        unfold project
        dsimp only [List.find?_nil]
        rw [same, held, Table.put_of_not_mem new, if_pos rfl]
        rfl
      rw [List.foldl_cons, step, ih _ (by rwa [List.append_assoc]) others, List.append_assoc]
      rfl

theorem IsCoherent.cloneWith_eq (coherent : registry.IsCoherent) :
    registry.cloneWith none [] none = registry.unaliased :=
  registry.foldl_project registry.definitions [] coherent.distinct fun entry member =>
    ⟨(coherent.defined entry member).1, (coherent.defined entry member).2.2⟩

theorem resolve_unaliased (registry : Registry) (name : String) :
    registry.unaliased.resolve name =
      if Table.has registry.definitions (registry.inflect name) then registry.resolve name else none := by
  change (if Table.has registry.definitions (registry.inflect name) then some (registry.inflect name)
    else none) = _
  split
  · rename_i known
    exact (if_pos known).symm
  · rfl

theorem get_unaliased {name : String} (found : (registry.unaliased.resolve name).isSome = true) :
    registry.unaliased.get name = registry.get name := by
  have same : registry.unaliased.resolve name = registry.resolve name := by
    rw [resolve_unaliased] at found ⊢
    split
    · rfl
    · rename_i unknown
      rw [if_neg unknown] at found
      cases found
  unfold get
  rw [same]
  rfl

theorem resolve_eq_of_isShadowed (shadowed : registry.IsShadowed) (name : String) :
    registry.unaliased.resolve name = registry.resolve name := by
  rw [resolve_unaliased]
  split
  · rfl
  · rename_i unknown
    unfold resolve
    rw [if_neg unknown]
    cases found : Table.lookup registry.aliases (registry.inflect name) with
    | none => rfl
    | some target => exact absurd (shadowed _ (Table.mem_of_lookup found)) unknown

theorem findsLike_of_isShadowed (shadowed : registry.IsShadowed) :
    registry.unaliased.FindsLike registry where
  resolve := resolve_eq_of_isShadowed shadowed
  get name := by
    unfold get
    rw [resolve_eq_of_isShadowed shadowed]
    rfl

/-- An alias that is not shadowed is found in the original only. -/
theorem IsCoherent.exists_lost (coherent : registry.IsCoherent) (exposed : ¬ registry.IsShadowed) :
    ∃ synonym target, registry.resolve synonym = some target ∧
      registry.unaliased.resolve synonym = none := by
  simp only [IsShadowed, not_forall, exists_prop] at exposed
  obtain ⟨⟨synonym, target⟩, member, unknown⟩ := exposed
  have isImage : registry.inflect synonym = synonym := (coherent.aliased _ member).2
  have aliased : Table.has registry.aliases synonym = true :=
    (Table.has_iff_mem_names _ _).mpr (List.mem_map_of_mem member)
  obtain ⟨held, found⟩ := Option.isSome_iff_exists.mp aliased
  refine ⟨synonym, held, ?_, ?_⟩
  · unfold resolve
    rw [isImage, if_neg unknown, found]
  · rw [resolve_unaliased, isImage, if_neg unknown]

end Registry

/-- Whether a script ends without questions, and not for a key that denotes no constraint. -/
def Binding.EndsKnown {α : Type} : Binding α → Prop
  | .done _ => True
  | .failed error => ∀ key, error ≠ .unknownConstraint key
  | _ => False

theorem Binding.EndsKnown.bind {α β : Type} {script : Binding α} (known : script.EndsKnown)
    {next : α → Binding β} (rest : ∀ result, (next result).EndsKnown) : (script >>= next).EndsKnown := by
  cases script with
  | done result => exact rest result
  | failed error => exact known
  | inner document next => exact known.elim
  | named name next => exact known.elim

namespace Context

variable {context : Context} {key name : String}

theorem endsKnown_rule (context : Context) (meaning : Meaning) : (context.rule meaning .null).EndsKnown := by
  cases meaning with
  | remark | constant | even => exact trivial
  | _ => exact fun _ same => CompileError.noConfusion same

theorem eq_null_of_sibling? (single : context.entries = [(key, .null)]) {value : Value}
    (found : context.sibling? name = some value) : value = .null := by
  unfold sibling? Registry.find? at found
  rw [single] at found
  split at found
  · obtain ⟨entry, listed, rfl⟩ := Option.map_eq_some_iff.mp found
    rw [List.mem_singleton.mp (List.mem_of_find?_eq_some listed)]
  · cases List.mem_singleton.mp (Table.mem_of_lookup found)
    rfl

theorem endsKnown_bindType (single : context.entries = [(key, .null)]) : context.bindType.EndsKnown := by
  unfold bindType
  split
  · rename_i name value _ found
    rw [eq_null_of_sibling? single found]
    exact fun _ same => CompileError.noConfusion same
  · trivial

theorem endsKnown_bindEntry (resolved : context.settings.constraints.resolve key = some name) :
    (context.bindEntry (key, .null)).EndsKnown := by
  unfold bindEntry
  rw [resolved]
  dsimp only
  split
  · trivial
  · split
    · unfold bindConstraint
      split
      · split
        · exact fun _ same => CompileError.noConfusion same
        · trivial
      · exact (endsKnown_rule _ _).bind fun _ => trivial
    · trivial

/-- A document of one key that denotes a constraint does not fail for the key. -/
theorem endsKnown_bindAll (single : context.entries = [(key, .null)])
    (resolved : context.settings.constraints.resolve key = some name) : context.bindAll.EndsKnown := by
  unfold bindAll
  refine (endsKnown_bindType single).bind fun bound => ?_
  rw [single]
  change Binding.EndsKnown (bindEntries { context with declared := bound.1 } [] [(key, .null)] >>= _)
  rw [@bindEntries_of_resolved { context with declared := bound.1 } (key, .null) name resolved]
  refine Binding.EndsKnown.bind ?_ fun _ => trivial
  rw [if_neg List.not_mem_nil]
  have entry := @endsKnown_bindEntry { context with declared := bound.1 } key name resolved
  exact entry.bind fun _ => trivial

/-- A strict document of one key that denotes no constraint fails for the key. -/
theorem bindAll_of_unknown (single : context.entries = [(key, .null)]) (strict : context.strict = true)
    (unknown : context.settings.constraints.resolve key = none) :
    context.bindAll = .failed (.unknownConstraint key) := by
  have untyped : context.bindType = .done (none, []) := by
    unfold bindType
    cases named : context.typeName? with
    | none => rfl
    | some name =>
        have missing : context.sibling? "type" = none := by
          unfold typeName? at named
          unfold sibling? Registry.find?
          rw [named, single]
          simp [unknown]
        rw [missing]
        rfl
  unfold bindAll
  rw [untyped, single]
  change bindEntries { context with declared := none } [] [(key, .null)] >>= _ = _
  rw [@bindEntries_of_unknown { context with declared := none } (key, .null) unknown, strict]
  rfl

end Context

/-- A strict document of one key with a null. -/
def Source.ofKey (key : String) : Source := ⟨.object [(key, .null)], none, true, 0⟩

namespace Site

open Compiling

variable {site : Site} {key : String} {cache : Cache}

theorem outcome_ofKey (site : Site) (key : String) (cache : Cache) :
    (site.compile (Source.ofKey key)).outcome cache =
      (do
        let ((declared, constraints), references) ←
          (site.context (Source.ofKey key) [(key, .null)]).bindAll.run
            (fun document => site.compileWithin site.settings.config.maxDepth ⟨document, none, true, 0⟩)
            (site.resolve (site.compileWithin site.settings.config.maxDepth)) []
        pure (site.schema (Source.ofKey key) declared constraints references) :
          Compiling Schema).outcome cache := rfl

theorem compile_of_known {name : String} (resolved : site.settings.constraints.resolve key = some name) :
    ((site.compile (Source.ofKey key)).outcome cache).1 ≠ .error (.unknownConstraint key) := by
  have known : (site.context (Source.ofKey key) [(key, .null)]).bindAll.EndsKnown :=
    Context.endsKnown_bindAll rfl resolved
  rw [outcome_ofKey, outcome_bind]
  generalize (site.context (Source.ofKey key) [(key, .null)]).bindAll = script at known ⊢
  cases script with
  | done result => exact fun same => nomatch same
  | failed error =>
      intro same
      cases same
      exact known key rfl
  | inner document next => exact known.elim
  | named name next => exact known.elim

theorem compile_of_unknown (unknown : site.settings.constraints.resolve key = none) :
    ((site.compile (Source.ofKey key)).outcome cache).1 = .error (.unknownConstraint key) := by
  have failed : (site.context (Source.ofKey key) [(key, .null)]).bindAll = .failed (.unknownConstraint key) :=
    Context.bindAll_of_unknown rfl rfl unknown
  rw [outcome_ofKey, outcome_bind, failed]
  rfl

/-- Documents tell two registries apart if one of them does not know a key of the other. -/
theorem not_endsAlike_of_lost {registry : Registry} {results : Schema → Schema → Prop}
    {caches : Cache → Cache → Prop} {name : String}
    (resolved : site.settings.constraints.resolve key = some name) (lost : registry.resolve key = none) :
    ¬ EndsAlike results caches ((site.compile (.ofKey key)).outcome cache)
      (((site.through registry).compile (.ofKey key)).outcome cache) := by
  intro ends
  have known := @compile_of_known site key cache name resolved
  have unknown := @compile_of_unknown (site.through registry) key cache lost
  generalize (site.compile (.ofKey key)).outcome cache = outcome at ends known
  generalize ((site.through registry).compile (.ofKey key)).outcome cache = outcome' at ends unknown
  cases ends with
  | ok held kept => cases unknown
  | error error kept => exact known unknown

end Site

namespace Registry

open Compiling

variable {registry : Registry}

/-- A clone without changes has the definitions of the original and none of its aliases. A name is found in
it if it is found in the original without an alias, and then leads to the same name and definition. It finds
the same under all names if and only if all aliases are shadowed. The same is needed for all documents to
compile alike over both, to schemas that do the same with every instance. -/
theorem ReachableWith.cloneWith_unchanged (reached : registry.ReachableWith Text.IsAscii) :
    registry.cloneWith none [] none = { registry with aliases := [] } ∧
      (∀ name, (registry.cloneWith none [] none).resolve name =
        if Table.has registry.definitions (registry.inflect name) then registry.resolve name else none) ∧
      (∀ name, ((registry.cloneWith none [] none).resolve name).isSome = true →
        (registry.cloneWith none [] none).get name = registry.get name) ∧
      ((∀ name, (registry.cloneWith none [] none).resolve name = registry.resolve name ∧
        (registry.cloneWith none [] none).get name = registry.get name) ↔ registry.IsShadowed) ∧
      ((∀ site : Site, site.settings.constraints = registry → ∀ source cache cache',
        Cache.Twins cache cache' → EndsAlike
          (fun schema schema' : Schema => schema.constraintNames = schema'.constraintNames ∧
            ∀ subject isPartial,
              schema.validate subject isPartial = schema'.validate subject isPartial ∧
              schema.convert subject isPartial = schema'.convert subject isPartial) Cache.Twins
          ((site.compile source).outcome cache)
          (((site.through (registry.cloneWith none [] none)).compile source).outcome cache')) ↔
        registry.IsShadowed) := by
  have coherent := reached.isCoherent
  rw [coherent.cloneWith_eq]
  refine ⟨rfl, registry.resolve_unaliased, fun name => get_unaliased, ⟨fun alike => ?_, fun shadowed => ?_⟩,
    fun alike => ?_, fun shadowed => ?_⟩
  · by_contra exposed
    obtain ⟨synonym, target, found, lost⟩ := coherent.exists_lost exposed
    have same := (alike synonym).1
    rw [found, lost] at same
    cases same
  · have finds := findsLike_of_isShadowed shadowed
    exact fun name => ⟨finds.resolve name, finds.get name⟩
  · by_contra exposed
    obtain ⟨synonym, target, found, lost⟩ := coherent.exists_lost exposed
    have ends := alike ⟨0, "", ⟨registry, [], FormatTable.builtin, {}⟩, 0⟩ rfl (.ofKey synonym) [] [] .nil
    exact Site.not_endsAlike_of_lost found lost ends
  · rintro site rfl source cache cache' twins
    refine (Site.compile_through (findsLike_of_isShadowed shadowed) source twins).mono fun _ _ both => ?_
    exact ⟨both.constraintNames, fun subject isPartial => ⟨both.validate subject isPartial,
      both.convert subject isPartial⟩⟩

/-- A constraint with an alias, and then a constraint under the name of the alias. -/
theorem cloneWith_unchanged_shadowed :
    ∃ registry : Registry, registry.ReachableWith Text.IsAscii ∧ registry.aliases = [("peak", "maximum")] ∧
      ∀ name, (registry.cloneWith none [] none).resolve name = registry.resolve name ∧
        (registry.cloneWith none [] none).get name = registry.get name := by
  let maximum := Definition.general "maximum" "a maximum" .maximum
  let peak := Definition.general "peak" "a peak" .remark
  have defined : (empty .lowerCamel).register maximum false =
      .ok ⟨.lowerCamel, [("maximum", maximum)], []⟩ := by decide +kernel
  have aliased : addAlias ⟨.lowerCamel, [("maximum", maximum)], []⟩ "Peak" "maximum" =
      .ok ⟨.lowerCamel, [("maximum", maximum)], [("peak", "maximum")]⟩ := by decide +kernel
  have shadowed : register ⟨.lowerCamel, [("maximum", maximum)], [("peak", "maximum")]⟩ peak false =
      .ok ⟨.lowerCamel, [("maximum", maximum), ("peak", peak)], [("peak", "maximum")]⟩ := by decide +kernel
  have ascii : Text.IsAscii "maximum" ∧ Text.IsAscii "Peak" ∧ Text.IsAscii "peak" := by decide
  have first := ReachableWith.register (.empty .lowerCamel) ascii.1 defined
  have reached := ReachableWith.register (.addAlias first ascii.2.1 aliased) ascii.2.2 shadowed
  obtain ⟨_, _, _, lookups, _⟩ := reached.cloneWith_unchanged
  exact ⟨_, reached, rfl, lookups.mpr (by decide +kernel)⟩

/-- A document that lists one entry and refuses all others. -/
def listing : Value :=
  .object [("properties", .object [("n", .object [])]), ("additionalProperties", .bool false)]

/-- The constraints of JSON Schema know some of each other by their names in the base registry. -/
theorem cloneWith_forgets :
    jsonSchema.ReachableWith Text.IsAscii ∧ jsonSchema.resolve "entries" = some "properties" ∧
      (jsonSchema.cloneWith none [] none).resolve "entries" = none ∧
      (((Environment.jsonSchema 0).site.compile ⟨listing, none, false, 0⟩).outcome []).1.toOption.map
        (fun schema => (schema.validate (.object [("n", .ofNat 1)]) false).success) = some true ∧
      ((((Environment.jsonSchema 0).site.through (jsonSchema.cloneWith none [] none)).compile
        ⟨listing, none, false, 0⟩).outcome []).1.toOption.map
        (fun schema => (schema.validate (.object [("n", .ofNat 1)]) false).success) = some false := by
  rw [ReachableWith.jsonSchema.isCoherent.cloneWith_eq]
  exact ⟨.jsonSchema, by decide +kernel⟩

end Registry

end Conformance
