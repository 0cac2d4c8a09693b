import Conformance.Proofs.Compilation.Answers
/-!
Values by their layout. Two values are laid out alike if they differ in documents at sub-schema positions
only (`Value.LaidOut`). Contexts whose siblings are laid out alike read everything else the same way: what
is no sub-schema is the same in both (`Context.ReadsBeside.check`).
-/

namespace Conformance

/-- A list with further items among those of another. -/
inductive Inserted {α α' : Type} (extra : α' → Prop) (related : α → α' → Prop) : List α → List α' → Prop where
  | nil : Inserted extra related [] []
  | cons {item : α} {item' : α'} {items : List α} {items' : List α'} (held : related item item')
      (rest : Inserted extra related items items') : Inserted extra related (item :: items) (item' :: items')
  | insert {item' : α'} {items : List α} {items' : List α'} (held : extra item')
      (rest : Inserted extra related items items') : Inserted extra related items (item' :: items')

namespace Inserted

variable {α α' : Type} {extra : α' → Prop} {related : α → α' → Prop} {items : List α} {items' : List α'}

theorem of_forall₂ (each : List.Forall₂ related items items') : Inserted extra related items items' := by
  induction each with
  | nil => exact .nil
  | cons held _ ih => exact .cons held ih

theorem mono {extra' : α' → Prop} {related' : α → α' → Prop} (inserted : Inserted extra related items items')
    (skipped : ∀ item', extra item' → extra' item')
    (weaker : ∀ item item', related item item' → related' item item') :
    Inserted extra' related' items items' := by
  induction inserted with
  | nil => exact .nil
  | cons held _ ih => exact .cons (weaker _ _ held) ih
  | insert held _ ih => exact .insert (skipped _ held) ih

/-- A search that passes over what was inserted finds what it finds without. -/
theorem rel_find? (inserted : Inserted extra related items items') {f : α → Bool} {g : α' → Bool}
    (each : ∀ item item', related item item' → f item = g item')
    (passes : ∀ item', extra item' → g item' = false) :
    Option.Rel related (items.find? f) (items'.find? g) := by
  induction inserted with
  | nil => exact .none
  | cons held _ ih =>
      rw [List.find?_cons, List.find?_cons, each _ _ held]
      split
      · exact .some held
      · exact ih
  | insert held _ ih =>
      rw [List.find?_cons, passes _ held]
      exact ih

end Inserted

namespace Value

/-- Whether the same stands at two sub-schema positions, or related documents do. -/
inductive AtPosition (related : Value → Value → Prop) : Value → Value → Prop where
  | same (value : Value) : AtPosition related value value
  | document {entries entries' : List (String × Value)}
      (held : related (.object entries) (.object entries')) :
      AtPosition related (.object entries) (.object entries')

/-- Entries under one key, with the same or related documents. -/
inductive EntryAtPosition (related : Value → Value → Prop) : String × Value → String × Value → Prop where
  | mk (key : String) {value value' : Value} (position : AtPosition related value value') :
      EntryAtPosition related (key, value) (key, value')

/-- Whether two values are the same but for related documents at sub-schema positions, by their layout. -/
inductive LaidOut (related : Value → Value → Prop) : Layout → Value → Value → Prop where
  | data (value : Value) : LaidOut related .data value value
  | kinds (value : Value) : LaidOut related .kinds value value
  | whole {value value' : Value} (position : AtPosition related value value') :
      LaidOut related .whole value value'
  | single {value value' : Value} (noList : value.kind ≠ .array)
      (position : AtPosition related value value') :
      LaidOut related .items value value'
  | positional {items items' : List Value} (each : List.Forall₂ (AtPosition related) items items') :
      LaidOut related .items (.array items) (.array items')
  | list {items items' : List Value} (each : List.Forall₂ (AtPosition related) items items') :
      LaidOut related .list (.array items) (.array items')
  | noList {value : Value} (apart : value.kind ≠ .array) : LaidOut related .list value value
  | table {entries entries' : List (String × Value)}
      (each : List.Forall₂ (EntryAtPosition related) entries entries') :
      LaidOut related .table (.object entries) (.object entries')
  | noTable {value : Value} (apart : value.kind ≠ .object) : LaidOut related .table value value
  | demands {value value' : Value} (demands : LaidOut related .table value value') :
      LaidOut related .demands value value'

/-- Entries under one key, whose values are the same but for related documents at the sub-schema positions
that the key has. -/
inductive EntryLaidOut (layouts : String → Layout) (related : Value → Value → Prop) :
    String × Value → String × Value → Prop where
  | mk (key : String) {value value' : Value} (values : LaidOut related (layouts key) value value') :
      EntryLaidOut layouts related (key, value) (key, value')

variable {related : Value → Value → Prop} {value value' : Value}

theorem EntryAtPosition.atKey {entry entry' : String × Value} (both : EntryAtPosition related entry entry') :
    AtKey (AtPosition related) entry entry' := by
  cases both with
  | mk key position => exact ⟨rfl, position⟩

theorem EntryLaidOut.key_eq {layouts : String → Layout} {entry entry' : String × Value}
    (values : EntryLaidOut layouts related entry entry') : entry.1 = entry'.1 := by
  cases values
  rfl

theorem AtPosition.kind_eq (position : AtPosition related value value') : value.kind = value'.kind := by
  cases position <;> rfl

namespace LaidOut

theorem refl (layout : Layout) (value : Value) : LaidOut related layout value value := by
  have table : LaidOut related .table value value := by
    by_cases mapping : value.kind = .object
    · obtain ⟨entries, rfl⟩ := exists_object_of_kind mapping
      exact .table (List.forall₂_same.mpr fun entry _ => .mk entry.1 (.same entry.2))
    · exact .noTable mapping
  cases layout with
  | data => exact .data value
  | kinds => exact .kinds value
  | whole => exact .whole (.same value)
  | items =>
      by_cases list : value.kind = .array
      · obtain ⟨items, rfl⟩ := exists_array_of_kind list
        exact .positional (List.forall₂_same.mpr fun item _ => .same item)
      · exact .single list (.same value)
  | list =>
      by_cases list : value.kind = .array
      · obtain ⟨items, rfl⟩ := exists_array_of_kind list
        exact .list (List.forall₂_same.mpr fun item _ => .same item)
      · exact .noList list
  | table => exact table
  | demands => exact .demands table

theorem eq_of_data (values : LaidOut related .data value value') : value = value' := by
  cases values
  rfl

theorem eq_of_kinds (values : LaidOut related .kinds value value') : value = value' := by
  cases values
  rfl

theorem position (values : LaidOut related .whole value value') : AtPosition related value value' := by
  cases values with
  | whole position => exact position

end LaidOut

end Value

/-- Whether two registries find the same under every name. -/
structure Registry.FindsLike (registry registry' : Registry) : Prop where
  resolve : ∀ name, registry.resolve name = registry'.resolve name
  get : ∀ name, registry.get name = registry'.get name

/-- Whether two entries have the same key, and values that are the same but for related documents at the
sub-schema positions of the constraint that the key denotes, if it has a rule of its own. -/
structure Registry.ReadsEntry (registry : Registry) (related : Value → Value → Prop)
    (entry entry' : String × Value) : Prop where
  key : entry.1 = entry'.1
  values : ∀ definition, (registry.resolve entry.1).bind registry.get = some definition →
    definition.meaning = .remark ∨ Value.LaidOut related definition.meaning.layout entry.2 entry'.2

theorem Registry.ReadsEntry.refl (registry : Registry) (related : Value → Value → Prop)
    (entry : String × Value) : registry.ReadsEntry related entry entry :=
  ⟨rfl, fun _ _ => .inr (.refl _ _)⟩

/-- Whether two contexts read everything alike, but for related documents at sub-schema positions. -/
structure Context.ReadsBeside (related : Value → Value → Prop) (context context' : Context) : Prop where
  self : ∀ document, related document document
  constraint : context.constraint = context'.constraint
  strict : context.strict = context'.strict
  declared : context.declared = context'.declared
  types : context.settings.types = context'.settings.types
  formats : context.settings.formats = context'.settings.formats
  ignores : ∀ name, context.settings.config.ignoresFormat name = context'.settings.config.ignoresFormat name
  finds : context'.settings.constraints.FindsLike context.settings.constraints
  siblings : ∀ sibling ∈ Registry.siblingLayouts, Option.Rel (Value.LaidOut related sibling.2)
    (context.sibling? sibling.1) (context'.sibling? sibling.1)
  probed : ∀ name definition, context.settings.constraints.get name = some definition →
    definition.meaning = .probe → ∀ sibling, context.sibling? sibling = context'.sibling? sibling

namespace Context

open Binding

variable {related : Value → Value → Prop} {context context' : Context}

namespace ReadsBeside

variable (reads : context.ReadsBeside related context')

include reads

theorem malformed : context.malformed = context'.malformed := by
  unfold Context.malformed
  rw [reads.constraint]

theorem at_constraint (constraint : String) : ReadsBeside related { context with constraint := constraint }
    { context' with constraint := constraint } :=
  { reads with constraint := rfl }

theorem declaring (declared : Option KindSet) : ReadsBeside related { context with declared := declared }
    { context' with declared := declared } :=
  { reads with declared := rfl }

theorem typeName? : context.typeName? = context'.typeName? := (reads.finds.resolve _).symm

theorem restriction (applicable : KindSet) :
    context.restriction applicable = context'.restriction applicable := by
  unfold Context.restriction
  rw [reads.declared, reads.strict]

theorem isExcluded (applicable : KindSet) :
    context.isExcluded applicable = context'.isExcluded applicable := by
  unfold Context.isExcluded
  rw [reads.declared]

theorem number (value : Value) : context.number value = context'.number value := by
  unfold Context.number
  rw [reads.malformed]

theorem count (value : Value) : context.count value = context'.count value := by
  unfold Context.count
  rw [reads.malformed]

theorem kinds (value : Value) : context.kinds value = context'.kinds value := by
  have name (name : String) : context.kindsOfName name = context'.kindsOfName name := by
    unfold kindsOfName
    rw [reads.types]
  have items (kinds : KindSet) (items : List Value) :
      context.kindsOfItems kinds items = context'.kindsOfItems kinds items := by
    induction items generalizing kinds with
    | nil => rfl
    | cons item items ih =>
        cases item with
        | string text =>
            unfold kindsOfItems
            simp only [name, ih]
        | _ =>
            unfold kindsOfItems
            rw [reads.malformed]
  unfold Context.kinds
  simp only [name, items, reads.malformed]

theorem namesOfItems (items : List Value) : context.namesOfItems items = context'.namesOfItems items := by
  induction items with
  | nil => rfl
  | cons item items ih =>
      cases item with
      | string name => exact congrArg (Except.map (name :: ·)) ih
      | _ =>
          unfold Context.namesOfItems
          rw [reads.malformed]

theorem names (value : Value) : context.names value = context'.names value := by
  unfold Context.names
  simp only [reads.namesOfItems, reads.malformed]

theorem entryPatterns (sources : List String) :
    context.entryPatterns sources = context'.entryPatterns sources := by
  induction sources with
  | nil => rfl
  | cons source sources ih =>
      unfold Context.entryPatterns entryPattern
      rw [ih, reads.malformed]

theorem isExclusive {name : String} (listed : (name, Layout.data) ∈ Registry.siblingLayouts) :
    context.isExclusive name = context'.isExclusive name := by
  have rel := reads.siblings _ listed
  unfold Context.isExclusive
  generalize context.sibling? name = found at rel ⊢
  generalize context'.sibling? name = found' at rel ⊢
  cases rel with
  | none => rfl
  | some values => rw [values.eq_of_data]

theorem siblingNames {name : String} (listed : (name, Layout.table) ∈ Registry.siblingLayouts) :
    context.siblingNames name = context'.siblingNames name := by
  have rel := reads.siblings _ listed
  unfold Context.siblingNames
  generalize context.sibling? name = found at rel ⊢
  generalize context'.sibling? name = found' at rel ⊢
  cases rel with
  | none => rfl
  | some values =>
      cases values with
      | table each => exact keys_eq_of_parallel (each.imp fun _ _ => Value.EntryAtPosition.atKey)
      | noTable => rfl

/-- A value stands for the same check. What its constraint lays out as sub-schemas stands for none. -/
theorem check {meaning : Meaning} {value value' : Value}
    (values : Value.LaidOut related meaning.layout value value')
    (probed : meaning = .probe → ∀ sibling, context.sibling? sibling = context'.sibling? sibling) :
    context.check meaning value = context'.check meaning value' := by
  have maximum := reads.isExclusive (show ("exclusive_maximum", Layout.data) ∈ _ by decide)
  have minimum := reads.isExclusive (show ("exclusive_minimum", Layout.data) ∈ _ by decide)
  cases meaning with
  | probe =>
      cases values.eq_of_data
      unfold Context.check
      simp only [probed rfl, reads.constraint, reads.strict, reads.declared, reads.malformed]
  | ofKinds =>
      cases values.eq_of_kinds
      unfold Context.check
      rw [reads.kinds]
  | remark | items | contains | entries | patternEntries | additionalEntries | dependencies | entryNames
  | allOf | anyOf | oneOf | negation | conditional | apply => rfl
  | _ =>
      cases values.eq_of_data
      unfold Context.check
      simp only [maximum, minimum, reads.number, reads.count, reads.names, reads.malformed, reads.strict,
        reads.formats, reads.ignores]

end ReadsBeside

end Context

end Conformance
