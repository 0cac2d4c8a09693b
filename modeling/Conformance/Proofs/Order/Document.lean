import Conformance.Proofs.Compilation.Spelling
import Conformance.Proofs.Order.Shuffle
/-!
Documents with their keys in another order. At any depth, the keys of a mapping that is a document, or a
table of documents, may stand in another order; whatever is not laid out as a document stays as it is. If
no two keys denote one constraint, siblings are found whatever the order (`Reordered.find?`).
-/

namespace Conformance

namespace Registry

/-- What the tables of a registry say about layouts: siblings are laid out as they are read, what is read
by siblings has no rule of its own, and no rule looks at a sibling of any name. -/
structure LaysOut (registry : Registry) : Prop where
  siblings : ∀ sibling ∈ siblingLayouts,
    (registry.resolve sibling.1).map registry.layoutAt = some sibling.2
  remarks : ∀ name ∈ readBySiblings,
    ((registry.resolve name).bind registry.get).map Definition.meaning = some .remark
  notProbe : ∀ entry ∈ registry.definitions, entry.2.meaning ≠ .probe

theorem laysOut_iff (registry : Registry) : registry.LaysOut ↔
    (∀ sibling ∈ siblingLayouts,
      (registry.resolve sibling.1).map registry.layoutAt = some sibling.2) ∧
    (∀ name ∈ readBySiblings,
      ((registry.resolve name).bind registry.get).map Definition.meaning = some .remark) ∧
    ∀ entry ∈ registry.definitions, entry.2.meaning ≠ .probe :=
  ⟨fun lays => ⟨lays.siblings, lays.remarks, lays.notProbe⟩,
    fun ⟨siblings, remarks, notProbe⟩ => ⟨siblings, remarks, notProbe⟩⟩

instance (registry : Registry) : Decidable registry.LaysOut :=
  decidable_of_iff' _ (laysOut_iff registry)

theorem laysOut_base : base.LaysOut := by
  rw [base_eq]
  decide +kernel

theorem laysOut_jsonSchema : jsonSchema.LaysOut := by
  rw [jsonSchema_eq]
  decide +kernel

theorem LaysOut.notProbe_of_get {registry : Registry} (lays : registry.LaysOut) {name : String}
    {definition : Definition} (defined : registry.get name = some definition) :
    definition.meaning ≠ .probe := by
  obtain ⟨target, _, found⟩ := Option.bind_eq_some_iff.mp defined
  exact lays.notProbe _ (Table.mem_of_lookup found)

/-- What a sibling reads is laid out as it is read, however its key is spelled. -/
theorem LaysOut.layoutAt_of_spells {registry : Registry} (lays : registry.LaysOut)
    (canonical : registry.IsCanonical) {name key : String} {layout : Layout}
    (listed : (name, layout) ∈ siblingLayouts) (spelled : registry.spells name key = true) :
    registry.layoutAt key = layout := by
  obtain ⟨target, resolved, laidOut⟩ := Option.map_eq_some_iff.mp (lays.siblings _ listed)
  unfold spells at spelled
  rw [resolved] at spelled
  rw [canonical.layoutAt_of_resolved (eq_of_beq spelled), laidOut]

/-- What a sibling reads as a sub-schema has no rule of its own. -/
theorem LaysOut.remark_of_spells {registry : Registry} (lays : registry.LaysOut) {name key : String}
    {definition : Definition} (listed : name ∈ readBySiblings) (spelled : registry.spells name key = true)
    (found : (registry.resolve key).bind registry.get = some definition) : definition.meaning = .remark := by
  obtain ⟨other, looked, meaning⟩ := Option.map_eq_some_iff.mp (lays.remarks name listed)
  obtain ⟨target, resolved, defined⟩ := Option.bind_eq_some_iff.mp looked
  unfold spells at spelled
  rw [resolved] at spelled
  rw [eq_of_beq spelled, Option.bind_some, defined] at found
  cases found
  exact meaning

/-- What stands under a key is laid out as the constraint reads it, if it has a rule of its own. -/
theorem LaysOut.layout_of_found {registry : Registry} (lays : registry.LaysOut) {key : String}
    {definition : Definition} (found : (registry.resolve key).bind registry.get = some definition) :
    definition.meaning = .remark ∨ registry.layoutAt key = definition.meaning.layout := by
  unfold layoutAt
  split
  · rename_i read
    obtain ⟨sibling, listed, spelled⟩ := List.any_eq_true.mp read
    exact .inl (lays.remark_of_spells listed spelled found)
  · rw [found]
    exact .inr rfl

end Registry

mutual

/-- Values that differ in the order of the keys of documents and of tables of documents, by what stands
at their position. -/
inductive Reordered (registry : Registry) : Layout → Value → Value → Prop
  | same (layout : Layout) (value : Value) : Reordered registry layout value value
  | mapping {entries between entries' : List (String × Value)} (order : entries.Perm between)
      (each : List.Forall₂ (EntryReordered registry registry.layoutAt) between entries') :
      Reordered registry .whole (.object entries) (.object entries')
  | single {value value' : Value} (whole : Reordered registry .whole value value')
      (noList : value.kind ≠ .array) : Reordered registry .items value value'
  | positional {items items' : List Value}
      (each : List.Forall₂ (Reordered registry .whole) items items') :
      Reordered registry .items (.array items) (.array items')
  | list {items items' : List Value}
      (each : List.Forall₂ (Reordered registry .whole) items items') :
      Reordered registry .list (.array items) (.array items')
  | table {entries between entries' : List (String × Value)} (order : entries.Perm between)
      (each : List.Forall₂ (EntryReordered registry fun _ => .whole) between entries') :
      Reordered registry .table (.object entries) (.object entries')
  | demands {entries between entries' : List (String × Value)} (order : entries.Perm between)
      (each : List.Forall₂ (EntryReordered registry fun _ => .whole) between entries') :
      Reordered registry .demands (.object entries) (.object entries')

/-- Entries under one key, laid out as its key says. -/
inductive EntryReordered (registry : Registry) :
    (String → Layout) → String × Value → String × Value → Prop
  | mk {layouts : String → Layout} (key : String) {value value' : Value}
      (values : Reordered registry (layouts key) value value') :
      EntryReordered registry layouts (key, value) (key, value')

end

section

variable {registry : Registry} {layouts : String → Layout} {value value' : Value}
  {entries entries' : List (String × Value)} {entry entry' : String × Value}

theorem EntryReordered.key_eq (values : EntryReordered registry layouts entry entry') :
    entry.1 = entry'.1 := by
  cases values
  rfl

theorem EntryReordered.values (values : EntryReordered registry layouts entry entry') :
    Reordered registry (layouts entry.1) entry.2 entry'.2 := by
  cases values with
  | mk key values => exact values

theorem shuffled_self (layouts : String → Layout) (entries : List (String × Value)) :
    Shuffled (EntryReordered registry layouts) entries entries :=
  .of_parallel (List.forall₂_same.mpr fun entry _ => .mk entry.1 (.same _ entry.2))

theorem positions_self (items : List Value) :
    List.Forall₂ (Reordered registry .whole) items items :=
  List.forall₂_same.mpr fun item _ => .same _ item

namespace Reordered

/-- A document with its own keys in another order. -/
theorem of_perm (perm : entries.Perm entries') :
    Reordered registry .whole (.object entries) (.object entries') :=
  .mapping perm (List.forall₂_same.mpr fun entry _ => .mk entry.1 (.same _ entry.2))

theorem eq_of_data (values : Reordered registry .data value value') : value = value' := by
  cases values
  rfl

theorem eq_of_kinds (values : Reordered registry .kinds value value') : value = value' := by
  cases values
  rfl

theorem whole_cases (values : Reordered registry .whole value value') :
    (∃ entries entries', value = .object entries ∧ value' = .object entries' ∧
      Shuffled (EntryReordered registry registry.layoutAt) entries entries') ∨
    value.kind ≠ .object ∧ value = value' := by
  cases values with
  | mapping order each => exact .inl ⟨_, _, rfl, rfl, _, order, each⟩
  | same =>
      by_cases mapping : value.kind = .object
      · obtain ⟨entries, rfl⟩ := Value.exists_object_of_kind mapping
        exact .inl ⟨entries, entries, rfl, rfl, shuffled_self _ entries⟩
      · exact .inr ⟨mapping, rfl⟩

theorem kind_eq (values : Reordered registry .whole value value') : value.kind = value'.kind := by
  cases values <;> rfl

theorem items_cases (values : Reordered registry .items value value') :
    (∃ items items', value = .array items ∧ value' = .array items' ∧
      List.Forall₂ (Reordered registry .whole) items items') ∨
    value.kind ≠ .array ∧ Reordered registry .whole value value' := by
  cases values with
  | single whole noList => exact .inr ⟨noList, whole⟩
  | positional each => exact .inl ⟨_, _, rfl, rfl, each⟩
  | same =>
      by_cases list : value.kind = .array
      · obtain ⟨items, rfl⟩ := Value.exists_array_of_kind list
        exact .inl ⟨items, items, rfl, rfl, positions_self items⟩
      · exact .inr ⟨list, .same _ _⟩

theorem list_cases (values : Reordered registry .list value value') :
    (∃ items items', value = .array items ∧ value' = .array items' ∧
      List.Forall₂ (Reordered registry .whole) items items') ∨
    value.kind ≠ .array ∧ value = value' := by
  cases values with
  | list each => exact .inl ⟨_, _, rfl, rfl, each⟩
  | same =>
      by_cases list : value.kind = .array
      · obtain ⟨items, rfl⟩ := Value.exists_array_of_kind list
        exact .inl ⟨items, items, rfl, rfl, positions_self items⟩
      · exact .inr ⟨list, rfl⟩

theorem table_cases (values : Reordered registry .table value value') :
    (∃ entries entries', value = .object entries ∧ value' = .object entries' ∧
      Shuffled (EntryReordered registry fun _ => .whole) entries entries') ∨
    value.kind ≠ .object ∧ value = value' := by
  cases values with
  | table order each => exact .inl ⟨_, _, rfl, rfl, _, order, each⟩
  | same =>
      by_cases mapping : value.kind = .object
      · obtain ⟨entries, rfl⟩ := Value.exists_object_of_kind mapping
        exact .inl ⟨entries, entries, rfl, rfl, shuffled_self _ entries⟩
      · exact .inr ⟨mapping, rfl⟩

/-- The demands of dependencies are laid out as a table of documents is. -/
theorem table_of_demands (values : Reordered registry .demands value value') :
    Reordered registry .table value value' := by
  cases values with
  | same => exact .same _ _
  | demands order each => exact .table order each

end Reordered

/-- The keys of reordered documents denote the same constraints, in another order. -/
theorem perm_of_reordered (shuffled : Shuffled (EntryReordered registry layouts) entries entries') :
    (Table.names entries).Perm (Table.names entries') := by
  have names : Shuffled Eq (Table.names entries) (Table.names entries') :=
    shuffled.map fun _ _ values => values.key_eq
  obtain ⟨between, perm, parallel⟩ := names
  rw [List.forall₂_eq_eq_eq] at parallel
  exact parallel ▸ perm

/-- If no two keys of a document denote one constraint, what stands under the name of a sibling does not
depend on the order of the keys. -/
theorem Reordered.find? (canonical : registry.IsCanonical) (lays : registry.LaysOut)
    (shuffled : Shuffled (EntryReordered registry registry.layoutAt) entries entries')
    (distinct : (entries.filterMap fun entry => registry.resolve entry.1).Nodup)
    {name : String} {layout : Layout} (listed : (name, layout) ∈ Registry.siblingLayouts) :
    Option.Rel (Reordered registry layout) (registry.find? entries name)
      (registry.find? entries' name) := by
  obtain ⟨target, resolved, laidOut⟩ := Option.map_eq_some_iff.mp (lays.siblings _ listed)
  have spelled {key : String} (found : (registry.resolve key == some target) = true) :
      registry.resolve key = some target := eq_of_beq found
  have found : Option.Rel (EntryReordered registry registry.layoutAt)
      (entries.find? fun entry => registry.resolve entry.1 == some target)
      (entries'.find? fun entry => registry.resolve entry.1 == some target) :=
    shuffled.rel_find? (fun entry entry' values => by rw [values.key_eq])
      fun entry member other member' same same' =>
        eq_of_nodup_filterMap distinct member member' (spelled same) (spelled same')
  unfold Registry.find?
  rw [resolved]
  refine rel_map (rel_imp found fun entry isFound entry' _ values => ?_) fun _ _ held => held
  have passes := List.find?_some isFound
  have laid := canonical.layoutAt_of_resolved (spelled passes)
  have values := values.values
  rwa [laid, laidOut] at values

end

end Conformance
