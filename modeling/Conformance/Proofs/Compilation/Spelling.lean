import Conformance.Proofs.Compilation.Positions
import Conformance.Registry.Builtin
/-!
Spellings of names. In the built-in registries every key that denotes a constraint leads to a name that
leads to itself, and the value under a key is laid out as that under the name.
-/

namespace Conformance

namespace Registry

/-- Whether aliases lead to names in the table, and these lead to themselves. -/
structure IsCanonical (registry : Registry) : Prop where
  targets : ∀ entry ∈ registry.aliases, entry.2 ∈ registry.names
  resolve : ∀ name ∈ registry.names, registry.resolve name = some name

theorem isCanonical_iff (registry : Registry) : registry.IsCanonical ↔
    (∀ entry ∈ registry.aliases, entry.2 ∈ registry.names) ∧
      ∀ name ∈ registry.names, registry.resolve name = some name :=
  ⟨fun canonical => ⟨canonical.targets, canonical.resolve⟩, fun ⟨targets, resolve⟩ => ⟨targets, resolve⟩⟩

instance (registry : Registry) : Decidable registry.IsCanonical :=
  decidable_of_iff' _ (isCanonical_iff registry)

theorem isCanonical_base : base.IsCanonical := by
  rw [base_eq]
  decide +kernel

theorem isCanonical_jsonSchema : jsonSchema.IsCanonical := by
  rw [jsonSchema_eq]
  decide +kernel

/-- How the value under a key is laid out, for its own constraint or for a sibling that reads it. -/
def layoutAt (registry : Registry) (key : String) : Layout :=
  if readBySiblings.any (registry.spells · key) then .whole
  else match (registry.resolve key).bind registry.get with
    | some definition => definition.meaning.layout
    | none => .data

variable {registry : Registry} {key name : String}

theorem IsCanonical.resolve_name (canonical : registry.IsCanonical)
    (resolved : registry.resolve key = some name) : registry.resolve name = some name :=
  canonical.resolve name (mem_names_of_resolve canonical.targets resolved)

theorem IsCanonical.spells_of_resolved (canonical : registry.IsCanonical)
    (resolved : registry.resolve key = some name) (other : String) :
    registry.spells other key = registry.spells other name := by
  have named := canonical.resolve_name resolved
  unfold spells
  cases target : registry.resolve other with
  | some target =>
      dsimp only
      rw [resolved, named]
  | none =>
      have apart {spelling : String} (denotes : registry.resolve spelling = some name) :
          (spelling == other) = false := by
        refine beq_eq_false_iff_ne.mpr fun same => ?_
        rw [same, target] at denotes
        cases denotes
      dsimp only
      rw [apart resolved, apart named]

theorem IsCanonical.layoutAt_of_resolved (canonical : registry.IsCanonical)
    (resolved : registry.resolve key = some name) : registry.layoutAt key = registry.layoutAt name := by
  have spells : (registry.spells · key) = (registry.spells · name) :=
    funext (canonical.spells_of_resolved resolved)
  unfold layoutAt
  rw [spells, resolved, canonical.resolve_name resolved]

theorem IsCanonical.lookup_of_get (canonical : registry.IsCanonical)
    (resolved : registry.resolve key = some name) {definition : Definition}
    (defined : registry.get name = some definition) :
    Table.lookup registry.definitions name = some definition := by
  unfold get at defined
  rwa [canonical.resolve_name resolved, Option.bind_some] at defined

end Registry

end Conformance
