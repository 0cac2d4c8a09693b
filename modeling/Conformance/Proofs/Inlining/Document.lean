import Conformance.Proofs.Order.Document
/-!
Documents with documents put in for the names of schemas. A name may stand at any sub-schema position, at
any depth, and a document may take its place there. Whatever a constraint reads of a sibling as something
else than a sub-schema stays as it is, if the registry keeps the two apart (`Inlined.find?`).
-/

namespace Conformance

namespace Registry

/-- The constraints whose entries' names are read by a sibling. -/
def readForNames : List String := ["entries", "pattern_entries"]

/-- What is read in two ways is a sub-schema in both of them or in neither: the values whose entries'
names a sibling reads are no sub-schemas, and what a sibling reads as a sub-schema has no rule of its own,
or one on the same sub-schema. No rule looks at a sibling of any name. -/
structure SeparatesSubschemas (registry : Registry) : Prop where
  tables : ∀ name ∈ readForNames, ∀ key, registry.spells name key = true →
    registry.layoutAt key ≠ .whole ∧ registry.layoutAt key ≠ .items
  branches : ∀ name ∈ readBySiblings, ∀ key definition, registry.spells name key = true →
    (registry.resolve key).bind registry.get = some definition →
    definition.meaning = .remark ∨ definition.meaning.layout = .whole
  notProbe : ∀ name definition, registry.get name = some definition → definition.meaning ≠ .probe

variable {registry : Registry} {key name : String}

theorem LaysOut.separatesSubschemas (lays : registry.LaysOut) (canonical : registry.IsCanonical) :
    registry.SeparatesSubschemas where
  tables := by
    intro name listed key spelled
    have table : (name, Layout.table) ∈ siblingLayouts := by
      rcases List.mem_pair.mp listed with rfl | rfl <;> decide
    rw [lays.layoutAt_of_spells canonical table spelled]
    exact ⟨Layout.noConfusion, Layout.noConfusion⟩
  branches := fun _ listed _ _ spelled found => .inl (lays.remark_of_spells listed spelled found)
  notProbe := fun _ _ defined => lays.notProbe_of_get defined

theorem layoutAt_of_spells (listed : name ∈ readBySiblings) (spelled : registry.spells name key = true) :
    registry.layoutAt key = .whole :=
  if_pos (List.any_eq_true.mpr ⟨name, listed, spelled⟩)

end Registry

mutual

/-- Values of which one has a document where the other has a name, at any number of sub-schema positions,
by what stands at their own position. -/
inductive Inlined (registry : Registry) (name : String) (target : Value) : Layout → Value → Value → Prop
  | same (layout : Layout) (value : Value) : Inlined registry name target layout value value
  | reference : Inlined registry name target .whole (.string name) target
  | mapping {entries entries' : List (String × Value)}
      (each : List.Forall₂ (EntryInlined registry name target registry.layoutAt) entries entries') :
      Inlined registry name target .whole (.object entries) (.object entries')
  | single {value value' : Value} (whole : Inlined registry name target .whole value value')
      (noList : value.kind ≠ .array) : Inlined registry name target .items value value'
  | positional {items items' : List Value}
      (each : List.Forall₂ (Inlined registry name target .whole) items items') :
      Inlined registry name target .items (.array items) (.array items')
  | list {items items' : List Value}
      (each : List.Forall₂ (Inlined registry name target .whole) items items') :
      Inlined registry name target .list (.array items) (.array items')
  | table {entries entries' : List (String × Value)}
      (each : List.Forall₂ (EntryInlined registry name target fun _ => .whole) entries entries') :
      Inlined registry name target .table (.object entries) (.object entries')
  | demands {entries entries' : List (String × Value)}
      (each : List.Forall₂ (EntryInlined registry name target fun _ => .whole) entries entries') :
      Inlined registry name target .demands (.object entries) (.object entries')

/-- Entries under one key, laid out as its key says. -/
inductive EntryInlined (registry : Registry) (name : String) (target : Value) :
    (String → Layout) → String × Value → String × Value → Prop
  | mk {layouts : String → Layout} (key : String) {value value' : Value}
      (values : Inlined registry name target (layouts key) value value') :
      EntryInlined registry name target layouts (key, value) (key, value')

end

variable {registry : Registry} {name : String} {target value value' : Value} {layout : Layout}
  {layouts : String → Layout} {entries entries' : List (String × Value)} {entry entry' : String × Value}

theorem EntryInlined.key_eq (values : EntryInlined registry name target layouts entry entry') :
    entry.1 = entry'.1 := by
  cases values
  rfl

theorem EntryInlined.values (values : EntryInlined registry name target layouts entry entry') :
    Inlined registry name target (layouts entry.1) entry.2 entry'.2 := by
  cases values with
  | mk key values => exact values

theorem entries_inlined_self (layouts : String → Layout) (entries : List (String × Value)) :
    List.Forall₂ (EntryInlined registry name target layouts) entries entries :=
  List.forall₂_same.mpr fun entry _ => .mk entry.1 (.same _ entry.2)

theorem names_of_inlined
    (each : List.Forall₂ (EntryInlined registry name target layouts) entries entries') :
    Table.names entries = Table.names entries' := by
  have names : List.Forall₂ Eq (Table.names entries) (Table.names entries') :=
    List.forall₂_map_left_iff.mpr (List.forall₂_map_right_iff.mpr
      (each.imp fun _ _ values => values.key_eq))
  rwa [List.forall₂_eq_eq_eq] at names

namespace Inlined

theorem eq_of_data (values : Inlined registry name target .data value value') : value = value' := by
  cases values
  rfl

theorem whole_cases (values : Inlined registry name target .whole value value') :
    (value = .string name ∧ value' = target) ∨
    (∃ entries entries', value = .object entries ∧ value' = .object entries' ∧
      List.Forall₂ (EntryInlined registry name target registry.layoutAt) entries entries') ∨
    value.kind ≠ .object ∧ value = value' := by
  cases values with
  | reference => exact .inl ⟨rfl, rfl⟩
  | mapping each => exact .inr (.inl ⟨_, _, rfl, rfl, each⟩)
  | same =>
      by_cases mapping : value.kind = .object
      · obtain ⟨entries, rfl⟩ := Value.exists_object_of_kind mapping
        exact .inr (.inl ⟨entries, entries, rfl, rfl, entries_inlined_self _ entries⟩)
      · exact .inr (.inr ⟨mapping, rfl⟩)

theorem items_cases (values : Inlined registry name target .items value value') :
    (∃ items items', value = .array items ∧ value' = .array items' ∧
      List.Forall₂ (Inlined registry name target .whole) items items') ∨
    value.kind ≠ .array ∧ Inlined registry name target .whole value value' := by
  cases values with
  | single whole noList => exact .inr ⟨noList, whole⟩
  | positional each => exact .inl ⟨_, _, rfl, rfl, each⟩
  | same =>
      by_cases list : value.kind = .array
      · obtain ⟨items, rfl⟩ := Value.exists_array_of_kind list
        exact .inl ⟨items, items, rfl, rfl, List.forall₂_same.mpr fun item _ => .same _ item⟩
      · exact .inr ⟨list, .same _ _⟩

theorem list_cases (values : Inlined registry name target .list value value') :
    (∃ items items', value = .array items ∧ value' = .array items' ∧
      List.Forall₂ (Inlined registry name target .whole) items items') ∨
    value.kind ≠ .array ∧ value = value' := by
  cases values with
  | list each => exact .inl ⟨_, _, rfl, rfl, each⟩
  | same =>
      by_cases list : value.kind = .array
      · obtain ⟨items, rfl⟩ := Value.exists_array_of_kind list
        exact .inl ⟨items, items, rfl, rfl, List.forall₂_same.mpr fun item _ => .same _ item⟩
      · exact .inr ⟨list, rfl⟩

theorem table_cases (values : Inlined registry name target .table value value') :
    (∃ entries entries', value = .object entries ∧ value' = .object entries' ∧
      List.Forall₂ (EntryInlined registry name target fun _ => .whole) entries entries') ∨
    value.kind ≠ .object ∧ value = value' := by
  cases values with
  | table each => exact .inl ⟨_, _, rfl, rfl, each⟩
  | same =>
      by_cases mapping : value.kind = .object
      · obtain ⟨entries, rfl⟩ := Value.exists_object_of_kind mapping
        exact .inl ⟨entries, entries, rfl, rfl, entries_inlined_self _ entries⟩
      · exact .inr ⟨mapping, rfl⟩

/-- The demands of dependencies are laid out as a table of documents is. -/
theorem table_of_demands (values : Inlined registry name target .demands value value') :
    Inlined registry name target .table value value' := by
  cases values with
  | same => exact .same _ _
  | demands each => exact .table each

/-- Where no sub-schema stands, entries keep their names. -/
theorem names_eq (values : Inlined registry name target layout value value')
    (apart : layout ≠ .whole ∧ layout ≠ .items) :
    Table.names value.fields = Table.names value'.fields := by
  cases values with
  | same => rfl
  | reference => exact absurd rfl apart.1
  | mapping each => exact absurd rfl apart.1
  | single whole noList => exact absurd rfl apart.2
  | positional each => exact absurd rfl apart.2
  | list each => rfl
  | table each => exact names_of_inlined each
  | demands each => exact names_of_inlined each

/-- A document stands for a name only, so that what is neither is the same on both sides, or made of such
on both sides. -/
theorem kind_eq (values : Inlined registry name target layout value value')
    (notName : value.kind ≠ .string) : value.kind = value'.kind := by
  cases values with
  | reference => exact absurd rfl notName
  | single whole noList =>
      cases whole with
      | reference => exact absurd rfl notName
      | _ => rfl
  | _ => rfl

/-- What stands under the name of a sibling, at a key that spells the name. -/
theorem find? (each : List.Forall₂ (EntryInlined registry name target registry.layoutAt) entries entries')
    (sibling : String) :
    Option.Rel (fun value value' => ∃ key, registry.spells sibling key = true ∧
        Inlined registry name target (registry.layoutAt key) value value')
      (registry.find? entries sibling) (registry.find? entries' sibling) := by
  have found := rel_find?_of_parallel each fun entry entry' values =>
    congrArg (registry.spells sibling) values.key_eq
  rw [Registry.find?_eq, Registry.find?_eq]
  refine rel_map (rel_imp found fun entry isFound entry' _ values => ?_) fun _ _ held => held
  have spelled := List.find?_some isFound
  exact ⟨entry.1, spelled, values.values⟩

/-- Values that are laid out as their key says are laid out as their constraint reads them, if it has a
rule of its own. -/
theorem at_meaning (separates : registry.SeparatesSubschemas) {key spelled : String}
    {definition : Definition} (resolved : registry.resolve key = some spelled)
    (defined : registry.get spelled = some definition)
    (values : Inlined registry name target (registry.layoutAt key) value value') :
    definition.meaning = .remark ∨ Inlined registry name target definition.meaning.layout value value' := by
  have found : (registry.resolve key).bind registry.get = some definition := by
    rw [resolved, Option.bind_some, defined]
  unfold Registry.layoutAt at values
  split at values
  · rename_i read
    obtain ⟨sibling, listed, spells⟩ := List.any_eq_true.mp read
    refine (separates.branches sibling listed key definition spells found).imp_right fun whole => ?_
    rw [whole]
    exact values
  · rw [found] at values
    exact .inr values

end Inlined

end Conformance
