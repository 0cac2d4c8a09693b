import Conformance.Proofs.Text.Inflection
import Conformance.Registry.Builtin
/-!
Registries that operations lead to. As long as new names are ASCII, the names in both tables of a registry
are images in its convention, and every definition stands under its own name
(`Registry.ReachableWith.isCoherent`).
-/

namespace Conformance

namespace Registry

/-- Whether operations lead to a registry from an empty one or from the base registry, when all names that
they bring in are allowed. -/
inductive ReachableWith (allowed : String → Prop) : Registry → Prop where
  | empty (inflection : Inflection) : ReachableWith allowed (empty inflection)
  | base : ReachableWith allowed base
  | register {registry registry' : Registry} {definition : Definition} {overwrite : Bool}
      (reached : ReachableWith allowed registry) (named : allowed definition.name)
      (registered : registry.register definition overwrite = .ok registry') :
      ReachableWith allowed registry'
  | addAlias {registry registry' : Registry} {synonym target : String}
      (reached : ReachableWith allowed registry) (named : allowed synonym)
      (added : registry.addAlias synonym target = .ok registry') : ReachableWith allowed registry'
  | remove {registry : Registry} (reached : ReachableWith allowed registry) (name : String) :
      ReachableWith allowed (registry.remove name).2
  | cloneWith {registry : Registry} (reached : ReachableWith allowed registry)
      (included : Option (List String)) {renames : List (String × String)}
      (named : ∀ rename ∈ renames, allowed rename.1) (inflection : Option Inflection) :
      ReachableWith allowed (registry.cloneWith included renames inflection)

theorem ReachableWith.jsonSchema : ReachableWith Text.IsAscii jsonSchema :=
  .cloneWith .base _ (by decide) _

section

variable {registry registry' : Registry}

/-- A constraint that is accepted has a name that is neither empty nor reserved, and a new one unless it may
replace another. -/
theorem eq_of_register {definition : Definition} {overwrite : Bool}
    (registered : registry.register definition overwrite = .ok registry') :
    (registry.inflect definition.name ≠ "" ∧ registry.inflect definition.name ∉ reservedNames) ∧
      (overwrite = false → registry.inflect definition.name ∉ registry.names) ∧
      registry' = registry.define definition := by
  unfold register at registered
  split at registered
  · cases registered
  · dsimp only at registered
    split at registered
    · cases registered
    · rename_i some
      split at registered
      · cases registered
      · rename_i free
        obtain ⟨unreserved, untaken⟩ := not_or.mp free
        cases registered
        refine ⟨⟨fun none => some (String.isEmpty_iff.mpr none), unreserved⟩, fun keeps member => ?_, rfl⟩
        exact untaken ⟨keeps, (Table.has_iff_mem_names _ _).mpr member⟩

/-- An alias that is accepted is the name of no constraint and not reserved. It may be empty. -/
theorem eq_of_addAlias {synonym target : String} (added : registry.addAlias synonym target = .ok registry') :
    ∃ name, registry.resolve target = some name ∧ registry.inflect synonym ∉ registry.names ∧
      registry.inflect synonym ∉ reservedNames ∧
      registry' =
        { registry with aliases := Table.put registry.aliases (registry.inflect synonym) name } := by
  unfold addAlias at added
  split at added
  · cases added
  · rename_i name resolved
    dsimp only at added
    split at added
    · cases added
    · rename_i free
      obtain ⟨undefined, unreserved⟩ := not_or.mp free
      cases added
      exact ⟨name, resolved, undefined ∘ (Table.has_iff_mem_names _ _).mpr, unreserved, rfl⟩

theorem remove_of_unknown {name : String} (unknown : registry.resolve name = none) :
    registry.remove name = (none, registry) := by
  unfold remove
  rw [unknown]

theorem eq_of_remove {name target : String} (resolved : registry.resolve name = some target) :
    (registry.remove name).2 = { registry with
      definitions := Table.remove registry.definitions target
      aliases := registry.aliases.filter fun entry => !decide (entry.2 = target) } := by
  unfold remove
  rw [resolved]

end

/-- Whether a name can stand in a table of a registry: it is an ASCII name that is its own image. -/
def IsImage (registry : Registry) (name : String) : Prop :=
  Text.IsAscii name ∧ registry.inflect name = name

theorem isImage_inflect (registry : Registry) {name : String} (ascii : Text.IsAscii name) :
    registry.IsImage (registry.inflect name) :=
  ⟨registry.inflection.isAscii_apply ascii, registry.inflection.apply_apply ascii⟩

/-- Whether the names in the tables of a registry are images, and definitions stand under their names. -/
structure IsCoherent (registry : Registry) : Prop where
  distinct : registry.names.Nodup
  defined : ∀ entry ∈ registry.definitions, entry.2.name = entry.1 ∧ registry.IsImage entry.1
  aliased : ∀ entry ∈ registry.aliases, registry.IsImage entry.1

namespace IsCoherent

theorem empty (inflection : Inflection) : (empty inflection).IsCoherent :=
  ⟨List.nodup_nil, List.forall_mem_nil _, List.forall_mem_nil _⟩

variable {registry : Registry} (coherent : registry.IsCoherent)

include coherent

theorem put {name : String} (isImage : registry.IsImage name) (definition : Definition) :
    IsCoherent { registry with
      definitions := Table.put registry.definitions name { definition with name := name } } :=
  ⟨Table.nodup_names_put _ _ coherent.distinct, Table.forall_mem_put coherent.defined ⟨rfl, isImage⟩,
    coherent.aliased⟩

theorem putAlias {synonym : String} (isImage : registry.IsImage synonym) (target : String) :
    IsCoherent { registry with aliases := Table.put registry.aliases synonym target } :=
  ⟨coherent.distinct, coherent.defined, Table.forall_mem_put coherent.aliased isImage⟩

theorem define {definition : Definition} (ascii : Text.IsAscii definition.name) :
    (registry.define definition).IsCoherent :=
  coherent.put (registry.isImage_inflect ascii) definition

theorem register {registry' : Registry} {definition : Definition} {overwrite : Bool}
    (ascii : Text.IsAscii definition.name)
    (registered : registry.register definition overwrite = .ok registry') : registry'.IsCoherent := by
  obtain ⟨_, _, rfl⟩ := eq_of_register registered
  exact coherent.define ascii

theorem addAlias {registry' : Registry} {synonym target : String} (ascii : Text.IsAscii synonym)
    (added : registry.addAlias synonym target = .ok registry') : registry'.IsCoherent := by
  obtain ⟨name, _, _, _, rfl⟩ := eq_of_addAlias added
  exact coherent.putAlias (registry.isImage_inflect ascii) name

theorem remove (name : String) : (registry.remove name).2.IsCoherent := by
  cases resolved : registry.resolve name with
  | none =>
      rw [remove_of_unknown resolved]
      exact coherent
  | some target =>
      rw [eq_of_remove resolved]
      exact ⟨Table.nodup_names_remove _ coherent.distinct,
        fun entry member => coherent.defined entry (List.mem_filter.mp member).1,
        fun entry member => coherent.aliased entry (List.mem_filter.mp member).1⟩

omit coherent in
theorem project {projected : Registry} (coherent : projected.IsCoherent) (included : Option (List String))
    {renames : List (String × String)} (ascii : ∀ rename ∈ renames, Text.IsAscii rename.1)
    {entry : String × Definition} (named : Text.IsAscii entry.1) :
    (registry.project included renames projected entry).IsCoherent := by
  have natural := projected.isImage_inflect named
  have kept {name : String} (isImage : projected.IsImage name) : IsCoherent { projected with
      definitions := Table.put projected.definitions name { entry.2 with name := name }
      aliases := if projected.inflect entry.1 = name then projected.aliases
        else Table.put projected.aliases (projected.inflect entry.1) name } := by
    split
    · exact coherent.put isImage entry.2
    · exact (coherent.put isImage entry.2).putAlias natural name
  unfold Registry.project
  cases found : renames.find? (fun rename => registry.inflect rename.2 == entry.1) with
  | none =>
      cases included with
      | none => exact kept natural
      | some names =>
          dsimp only
          split
          · exact kept natural
          · exact coherent
  | some rename =>
      exact kept (projected.isImage_inflect (ascii rename (List.mem_of_find?_eq_some found)))

theorem cloneWith (included : Option (List String)) {renames : List (String × String)}
    (ascii : ∀ rename ∈ renames, Text.IsAscii rename.1) (inflection : Option Inflection) :
    (registry.cloneWith included renames inflection).IsCoherent := by
  unfold Registry.cloneWith
  refine List.foldlRecOn registry.definitions _ (IsCoherent.empty _) fun projected kept entry member => ?_
  exact kept.project included ascii (coherent.defined entry member).2.1

end IsCoherent

/-- The induction is on the operations. -/
theorem ReachableWith.isCoherent {registry : Registry} (reached : registry.ReachableWith Text.IsAscii) :
    registry.IsCoherent := by
  induction reached with
  | empty inflection => exact .empty inflection
  | base =>
      have ascii : ∀ definition ∈ baseDefinitions, Text.IsAscii definition.name := by decide +kernel
      exact List.foldlRecOn baseDefinitions _ (.empty _) fun registry kept definition member =>
        kept.define (ascii definition member)
  | register _ ascii registered kept => exact kept.register ascii registered
  | addAlias _ ascii added kept => exact kept.addAlias ascii added
  | remove _ name kept => exact kept.remove name
  | cloneWith _ included ascii inflection kept => exact kept.cloneWith included ascii inflection

end Registry

end Conformance
