import Conformance.Proofs.Compilation.Positions
import Conformance.Proofs.Parallel
import Conformance.Registry.Builtin
import Mathlib.Data.List.Nodup
/-!
Counterparts of documents. The registry of JSON Schema has the constraints of the base registry but
one, each under a public name, and still knows them by their names in the base. A counterpart of a
document over the base registry spells any of its keys either way, at every depth, and has type
names of another table that denote the same kinds. What the two registries find under the name of a
sibling are counterparts again (`Counterpart.find?`).
-/

namespace Conformance

namespace Registry

/-- The name of a constraint in JSON Schema, by its name in the base registry. -/
@[irreducible]
def publicName (name : String) : String := (jsonSchema.resolve name).getD name

/-- The constraints that JSON Schema has of the base registry, by their names there. -/
def sharedNames : List String := base.names.filter fun name => !decide (name = "name")

/-- How the value of a constraint is laid out, also where a sibling reads it. -/
def layoutOf (name : String) : Layout :=
  if name ∈ readBySiblings then .whole
  else ((base.get name).map fun definition => definition.meaning.layout).getD .data

/-- What the two registries know of a constraint that they share. -/
structure Shares (name : String) (definition : Definition) : Prop where
  resolve_base : base.resolve name = some name
  get_base : base.get name = some definition
  resolve_kept : jsonSchema.resolve name = some (publicName name)
  resolve_public : jsonSchema.resolve (publicName name) = some (publicName name)
  get_public : jsonSchema.get (publicName name) = some { definition with name := publicName name }
  notProbe : definition.meaning ≠ .probe
  remark : name ∈ readBySiblings → definition.meaning = .remark

/-- The tables of both registries, read once: public names are distinct, and a public name leads to
the definition that its name in the base leads to. -/
theorem sharedNames_correspond : (sharedNames.map publicName).Nodup ∧ ∀ name ∈ sharedNames,
    base.resolve name = some name ∧ jsonSchema.resolve name = some (publicName name) ∧
    jsonSchema.resolve (publicName name) = some (publicName name) ∧
    (base.get name).isSome ∧
    jsonSchema.get (publicName name) =
      (base.get name).map (fun definition => { definition with name := publicName name }) ∧
    (base.get name).map Definition.meaning ≠ some .probe ∧
    (name ∈ readBySiblings → (base.get name).map Definition.meaning = some .remark) := by
  unfold publicName
  rw [jsonSchema_eq, base_eq]
  decide +kernel

variable {name other : String}

theorem shared_of_sibling {layout : Layout} (listed : (name, layout) ∈ siblingLayouts) :
    name ∈ sharedNames ∧ layoutOf name = layout := by
  have each : ∀ sibling ∈ siblingLayouts,
      sibling.1 ∈ sharedNames ∧ layoutOf sibling.1 = sibling.2 := by decide +kernel
  exact each (name, layout) listed

theorem exists_shares (shared : name ∈ sharedNames) : ∃ definition, Shares name definition := by
  obtain ⟨resolve_base, resolve_kept, resolve_public, isSome, get_public, notProbe, remark⟩ :=
    sharedNames_correspond.2 name shared
  obtain ⟨definition, get_base⟩ := Option.isSome_iff_exists.mp isSome
  rw [get_base] at get_public notProbe remark
  refine ⟨definition, resolve_base, get_base, resolve_kept, resolve_public, get_public, ?_, ?_⟩
  · exact fun probe => notProbe (congrArg some probe)
  · exact fun sibling => Option.some.inj (remark sibling)

theorem publicName_inj (shared : name ∈ sharedNames) (shared' : other ∈ sharedNames) :
    publicName name = publicName other ↔ name = other :=
  ⟨fun same => List.inj_on_of_nodup_map sharedNames_correspond.1 shared shared' same, congrArg _⟩

/-- Two registries find related values, if the keys that spell the one name are those that spell the
other. -/
theorem find?_rel {registry registry' : Registry} {name name' target target' : String}
    {related : Value → Value → Prop} {entries entries' : List (String × Value)}
    (resolved : registry.resolve name = some target)
    (resolved' : registry'.resolve name' = some target')
    (each : List.Forall₂ (fun entry entry' =>
      (registry.resolve entry.1 = some target ↔ registry'.resolve entry'.1 = some target') ∧
        (registry.resolve entry.1 = some target → related entry.2 entry'.2)) entries entries') :
    Option.Rel related (registry.find? entries name) (registry'.find? entries' name') := by
  have found := rel_find?_of_parallel each fun entry entry' both =>
    show (registry.resolve entry.1 == some target) = (registry'.resolve entry'.1 == some target') by
      rw [Bool.eq_iff_iff, beq_iff_eq, beq_iff_eq, both.1]
  unfold find?
  rw [resolved, resolved']
  refine rel_map (rel_imp found fun entry isFound entry' _ both => ?_) fun _ _ held => held
  have spelled := List.find?_some isFound
  exact both.2 (eq_of_beq spelled)

end Registry

/-- Whether nothing in a value is a document or names a type or a schema. -/
def Layout.isInert (value : Value) : Layout → Bool
  | .data => true
  | .kinds => value.kind != .string && value.kind != .array
  | .whole => value.kind != .object && value.kind != .string
  | .items => value.kind != .object && value.kind != .string && value.kind != .array
  | .list => value.kind != .array
  | .table | .demands => value.kind != .object

/-- Type names that denote the same kinds in two tables. What is no name stays as it is. -/
inductive TypeCounterpart (types types' : TypeTable) : Value → Value → Prop
  | name {name name' : String} (same : Table.lookup types name = Table.lookup types' name') :
      TypeCounterpart types types' (.string name) (.string name')
  | other {value : Value} (noName : value.kind ≠ .string) : TypeCounterpart types types' value value

mutual

/-- Counterparts, by what stands at their position. The types of the first are named in one table,
those of the second in another; neither names a schema. -/
inductive Counterpart (types types' : TypeTable) : Layout → Value → Value → Prop
  | inert {layout : Layout} {value : Value} (inert : layout.isInert value = true) :
      Counterpart types types' layout value value
  | typeName {name name' : String} (same : Table.lookup types name = Table.lookup types' name') :
      Counterpart types types' .kinds (.string name) (.string name')
  | typeNames {items items' : List Value}
      (each : List.Forall₂ (TypeCounterpart types types') items items') :
      Counterpart types types' .kinds (.array items) (.array items')
  | mapping {entries entries' : List (String × Value)}
      (each : List.Forall₂ (EntryCounterpart types types') entries entries') :
      Counterpart types types' .whole (.object entries) (.object entries')
  | forItems {entries entries' : List (String × Value)}
      (each : List.Forall₂ (EntryCounterpart types types') entries entries') :
      Counterpart types types' .items (.object entries) (.object entries')
  | byPosition {items items' : List Value}
      (each : List.Forall₂ (Counterpart types types' .whole) items items') :
      Counterpart types types' .items (.array items) (.array items')
  | list {items items' : List Value}
      (each : List.Forall₂ (Counterpart types types' .whole) items items') :
      Counterpart types types' .list (.array items) (.array items')
  | table {entries entries' : List (String × Value)}
      (each : List.Forall₂ (FieldCounterpart types types') entries entries') :
      Counterpart types types' .table (.object entries) (.object entries')
  | demands {entries entries' : List (String × Value)}
      (each : List.Forall₂ (DemandCounterpart types types') entries entries') :
      Counterpart types types' .demands (.object entries) (.object entries')

/-- Entries of a document, of which the second may have its public name. -/
inductive EntryCounterpart (types types' : TypeTable) : String × Value → String × Value → Prop
  | mk {name key : String} {value value' : Value} (shared : name ∈ Registry.sharedNames)
      (spelled : key = name ∨ key = Registry.publicName name)
      (values : Counterpart types types' (Registry.layoutOf name) value value') :
      EntryCounterpart types types' (name, value) (key, value')

/-- Sub-schemas under one name. -/
inductive FieldCounterpart (types types' : TypeTable) : String × Value → String × Value → Prop
  | mk (name : String) {value value' : Value}
      (values : Counterpart types types' .whole value value') :
      FieldCounterpart types types' (name, value) (name, value')

/-- What the presence of one entry asks for. -/
inductive DemandCounterpart (types types' : TypeTable) : String × Value → String × Value → Prop
  | schema (key : String) {entries entries' : List (String × Value)}
      (each : List.Forall₂ (EntryCounterpart types types') entries entries') :
      DemandCounterpart types types' (key, .object entries) (key, .object entries')
  | other (key : String) {value : Value} (noMapping : value.kind ≠ .object) :
      DemandCounterpart types types' (key, value) (key, value)

end

section

variable {types types' : TypeTable} {layout : Layout} {value value' : Value}
  {entries entries' : List (String × Value)} {entry entry' : String × Value}

theorem Counterpart.eq_of_data (values : Counterpart types types' .data value value') :
    value = value' := by
  cases values
  rfl

theorem Counterpart.whole_cases (values : Counterpart types types' .whole value value') :
    (∃ entries entries', value = .object entries ∧ value' = .object entries' ∧
      List.Forall₂ (EntryCounterpart types types') entries entries') ∨
    value.kind ≠ .object ∧ value = value' := by
  cases values with
  | mapping each => exact .inl ⟨_, _, rfl, rfl, each⟩
  | inert inert => exact .inr ⟨bne_iff_ne.mp (Bool.and_eq_true_iff.mp inert).1, rfl⟩

theorem FieldCounterpart.names_eq
    (each : List.Forall₂ (FieldCounterpart types types') entries entries') :
    Table.names entries = Table.names entries' := by
  induction each with
  | nil => rfl
  | cons first rest ih =>
      cases first with
      | mk name values => exact congrArg (name :: ·) ih

/-- A value is laid out as its constraint reads it, unless only siblings read it. -/
theorem Registry.Shares.reads {name : String} {definition : Definition}
    (shares : Registry.Shares name definition)
    (values : Counterpart types types' (Registry.layoutOf name) value value') :
    definition.meaning = .remark ∨
      Counterpart types types' definition.meaning.layout value value' := by
  unfold Registry.layoutOf at values
  by_cases sibling : name ∈ Registry.readBySiblings
  · exact .inl (shares.remark sibling)
  · rw [if_neg sibling, shares.get_base] at values
    exact .inr values

/-- What a registry finds under a spelling of the name, the other finds under its spelling. -/
theorem EntryCounterpart.resolve (entries : EntryCounterpart types types' entry entry') :
    Registry.base.resolve entry.1 = some entry.1 ∧
      Registry.jsonSchema.resolve entry'.1 = some (Registry.publicName entry.1) := by
  obtain ⟨shared, spelled, values⟩ := entries
  obtain ⟨definition, shares⟩ := Registry.exists_shares shared
  refine ⟨shares.resolve_base, ?_⟩
  dsimp only
  cases spelled with
  | inl kept => rw [kept, shares.resolve_kept]
  | inr renamed => rw [renamed, shares.resolve_public]

/-- What the two registries find under the name of a sibling, whichever way it is spelled. -/
theorem Counterpart.find? (each : List.Forall₂ (EntryCounterpart types types') entries entries')
    {name : String} (listed : (name, layout) ∈ Registry.siblingLayouts) :
    Option.Rel (Counterpart types types' layout) (Registry.base.find? entries name)
      (Registry.jsonSchema.find? entries' name) := by
  obtain ⟨shared, laidOut⟩ := Registry.shared_of_sibling listed
  obtain ⟨definition, shares⟩ := Registry.exists_shares shared
  refine Registry.find?_rel shares.resolve_base shares.resolve_kept ?_
  refine each.imp fun entry entry' both => ?_
  obtain ⟨resolved, resolved'⟩ := both.resolve
  obtain ⟨member, spelled, values⟩ := both
  rw [resolved, resolved', Option.some.injEq, Option.some.injEq,
    Registry.publicName_inj member shared]
  exact ⟨Iff.rfl, fun same => laidOut ▸ same ▸ values⟩

end

end Conformance
