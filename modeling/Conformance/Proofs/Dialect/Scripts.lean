import Conformance.Proofs.Compilation.Reading
import Conformance.Proofs.Dialect.Counterpart
import Conformance.Proofs.Dialect.Renaming
/-!
Scripts of counterparts. The scripts that two dialects bind a constraint by ask for counterparts,
one after the other, and as long as the answers mirror each other, both fail or both end with
results that mirror each other. The value of a constraint is read alike in both dialects, and so are
those of its siblings.
-/

namespace Conformance

open Registry (publicName)

/-- Whether a schema treats instances like another, but for the names of constraints. -/
def Schema.Mirrors (schema schema' : Schema) : Prop :=
  schema.behaviour.Mirrors publicName schema'.behaviour

def Subschema.Mirrors (schema schema' : Subschema) : Prop :=
  schema.behaviour.Mirrors publicName schema'.behaviour

def Rule.Mirrors (rule rule' : Rule) : Prop := rule.behaviour.Mirrors publicName rule'.behaviour

def Dependency.Mirrors (dependency dependency' : Dependency) : Prop :=
  dependency.demand.Mirrors publicName dependency'.demand

theorem Compiling.rel_bind {α α' β β' : Type} {related : α → α' → Prop} {related' : β → β' → Prop}
    {first : Compiling α} {first' : Compiling α'} {next : α → Compiling β}
    {next' : α' → Compiling β'} {cache cache' : Cache}
    (rel : Option.Rel related (first.outcome cache).1.toOption (first'.outcome cache').1.toOption)
    (rest : ∀ result result' (after after' : Cache), related result result' →
      Option.Rel related' ((next result).outcome after).1.toOption
        ((next' result').outcome after').1.toOption) :
    Option.Rel related' ((first >>= next).outcome cache).1.toOption
      ((first' >>= next').outcome cache').1.toOption := by
  rw [outcome_bind, outcome_bind]
  generalize first.outcome cache = outcome at rel ⊢
  generalize first'.outcome cache' = outcome' at rel ⊢
  obtain ⟨result, after⟩ := outcome
  obtain ⟨result', after'⟩ := outcome'
  rcases rel_toOption rel with ⟨error, error', rfl, rfl⟩ | ⟨held, held', rfl, rfl, both⟩
  · exact .none
  · exact rest held held' after after' both

namespace Binding

variable {α α' β β' : Type} {asked : Value → Value → Prop} {related : α → α' → Prop}
  {related' : β → β' → Prop} {script : Binding α} {script' : Binding α'}

/-- Scripts that ask for related documents in turn, without naming a schema. With answers that
mirror each other both fail, or both end with related results. -/
inductive Mirrors (asked : Value → Value → Prop) (related : α → α' → Prop) :
    Binding α → Binding α' → Prop where
  | done {result : α} {result' : α'} (results : related result result') :
      Mirrors asked related (.done result) (.done result')
  | failed (error error' : CompileError) : Mirrors asked related (.failed error) (.failed error')
  | inner {document document' : Value} {next : Schema → Binding α} {next' : Schema → Binding α'}
      (documents : asked document document')
      (rest : ∀ schema schema' : Schema, schema.Mirrors schema' →
        Mirrors asked related (next schema) (next' schema')) :
      Mirrors asked related (.inner document next) (.inner document' next')

theorem Mirrors.bind {next : α → Binding β} {next' : α' → Binding β'}
    (mirrors : Mirrors asked related script script')
    (rest : ∀ result result', related result result' →
      Mirrors asked related' (next result) (next' result')) :
    Mirrors asked related' (script >>= next) (script' >>= next') := by
  induction mirrors with
  | done results => exact rest _ _ results
  | failed error error' => exact .failed error error'
  | inner documents _ ih => exact .inner documents ih

theorem mirrors_ofExcept {result : Except CompileError α} {result' : Except CompileError α'}
    (rel : Option.Rel related result.toOption result'.toOption) :
    Mirrors asked related (ofExcept result) (ofExcept result') := by
  rcases rel_toOption rel with ⟨error, error', rfl, rfl⟩ | ⟨held, held', rfl, rfl, both⟩
  · exact .failed error error'
  · exact .done both

/-- Runs of such scripts both fail or both succeed, if that holds of what they ask for. -/
theorem Mirrors.run {inner inner' : Value → Compiling Schema}
    {named named' : String → Compiling Schema} (mirrors : Mirrors asked related script script')
    (answers : ∀ document document' (cache cache' : Cache), asked document document' →
      Option.Rel Schema.Mirrors ((inner document).outcome cache).1.toOption
        ((inner' document').outcome cache').1.toOption)
    (references references' : NameSet) (cache cache' : Cache) :
    Option.Rel (fun result result' => related result.1 result'.1)
      ((script.run inner named references).outcome cache).1.toOption
      ((script'.run inner' named' references').outcome cache').1.toOption := by
  induction mirrors generalizing references references' cache cache' with
  | done results => exact .some results
  | failed error error' => exact .none
  | @inner document document' next next' documents _ ih =>
      rw [Binding.run, Binding.run]
      refine Compiling.rel_bind (answers document document' cache cache' documents) ?_
      exact fun schema schema' after after' both => ih schema schema' both _ _ after after'

end Binding

/-- The settings of two dialects: the base registry in one, its projection in the other, and the
same formats and depth in both. -/
structure Settings.Mirrors (settings settings' : Settings) : Prop where
  base : settings.constraints = Registry.base
  jsonSchema : settings'.constraints = Registry.jsonSchema
  formats : settings.formats = settings'.formats
  ignored : ∀ name, settings.config.ignoresFormat name = settings'.config.ignoresFormat name
  depth : settings.config.maxDepth = settings'.config.maxDepth

namespace Settings.Mirrors

variable {settings settings' : Settings} {name : String} {definition : Definition}

theorem resolve (mirrors : settings.Mirrors settings') {types types' : TypeTable}
    {entry entry' : String × Value} (entries : EntryCounterpart types types' entry entry') :
    settings.constraints.resolve entry.1 = some entry.1 ∧
      settings'.constraints.resolve entry'.1 = some (publicName entry.1) := by
  rw [mirrors.base, mirrors.jsonSchema]
  exact entries.resolve

theorem get (mirrors : settings.Mirrors settings') (shares : Registry.Shares name definition) :
    settings.constraints.get name = some definition ∧
      settings'.constraints.get (publicName name) =
        some { definition with name := publicName name } := by
  rw [mirrors.base, mirrors.jsonSchema]
  exact ⟨shares.get_base, shares.get_public⟩

end Settings.Mirrors

namespace Context

/-- Contexts of counterparts. -/
structure Mirrors (context context' : Context) : Prop where
  settings : context.settings.Mirrors context'.settings
  strict : context.strict = context'.strict
  declared : context.declared = context'.declared
  entries : List.Forall₂ (EntryCounterpart context.settings.types context'.settings.types)
    context.entries context'.entries

/-- Values that are counterparts under the types of two contexts. -/
abbrev Counterparts (context context' : Context) : Layout → Value → Value → Prop :=
  Counterpart context.settings.types context'.settings.types

/-- Scripts that go in step under two contexts: they ask for counterparts in turn. -/
abbrev InStep {α α' : Type} (context context' : Context) (related : α → α' → Prop) :
    Binding α → Binding α' → Prop :=
  Binding.Mirrors (context.Counterparts context' .whole) related

variable {context context' : Context} {value value' : Value}

namespace Mirrors

theorem sibling (mirrors : context.Mirrors context') {name : String} {layout : Layout}
    (listed : (name, layout) ∈ Registry.siblingLayouts) :
    Option.Rel (context.Counterparts context' layout)
      (context.sibling? name) (context'.sibling? name) := by
  unfold sibling?
  rw [mirrors.settings.base, mirrors.settings.jsonSchema]
  exact Counterpart.find? mirrors.entries listed

theorem toOption_kindsOfName {name name' : String}
    (same : Table.lookup context.settings.types name = Table.lookup context'.settings.types name') :
    (context.kindsOfName name).toOption = (context'.kindsOfName name').toOption := by
  unfold kindsOfName
  rw [same]
  split <;> rfl

theorem toOption_kindsOfItems {items items' : List Value}
    (each : List.Forall₂ (TypeCounterpart context.settings.types context'.settings.types) items
      items') (kinds : KindSet) :
    (context.kindsOfItems kinds items).toOption =
      (context'.kindsOfItems kinds items').toOption := by
  induction each generalizing kinds with
  | nil => rfl
  | @cons item item' items items' first rest ih =>
      cases first with
      | other noName =>
          cases item with
          | string name => exact absurd rfl noName
          | _ => rfl
      | @name name name' same =>
          have read := toOption_kindsOfName same
          unfold kindsOfItems
          rcases rel_toOption (rel_of_eq read) with ⟨error, error', failed, failed'⟩ |
            ⟨more, _, found, found', rfl⟩
          · rw [failed, failed']
            rfl
          · rw [found, found']
            exact ih _

theorem toOption_kinds (values : context.Counterparts context' .kinds value value') :
    (context.kinds value).toOption = (context'.kinds value').toOption := by
  cases values with
  | inert inert =>
      cases value with
      | string name => cases inert
      | array items => cases inert
      | _ => rfl
  | typeName same => exact toOption_kindsOfName same
  | typeNames each =>
      cases each with
      | nil => rfl
      | cons first rest => exact toOption_kindsOfItems (.cons first rest) .none

/-- A sibling that is mere data is the same in both documents. -/
theorem sibling_data (mirrors : context.Mirrors context') {name : String}
    (listed : (name, Layout.data) ∈ Registry.siblingLayouts) :
    context.sibling? name = context'.sibling? name := by
  have rel := mirrors.sibling listed
  generalize context.sibling? name = found at rel ⊢
  generalize context'.sibling? name = found' at rel ⊢
  cases rel with
  | none => rfl
  | some values => rw [values.eq_of_data]

theorem isExclusive (mirrors : context.Mirrors context') {name : String}
    (listed : (name, Layout.data) ∈ Registry.siblingLayouts) :
    context.isExclusive name = context'.isExclusive name := by
  unfold Context.isExclusive
  rw [mirrors.sibling_data listed]

theorem siblingNames (mirrors : context.Mirrors context') {name : String}
    (listed : (name, Layout.table) ∈ Registry.siblingLayouts) :
    context.siblingNames name = context'.siblingNames name := by
  have rel := mirrors.sibling listed
  unfold Context.siblingNames
  generalize context.sibling? name = found at rel ⊢
  generalize context'.sibling? name = found' at rel ⊢
  cases rel with
  | none => rfl
  | some values =>
      cases values with
      | inert inert => rfl
      | table each => exact FieldCounterpart.names_eq each

theorem readsAlike (mirrors : context.Mirrors context') : context.ReadsAlike context' where
  strict := mirrors.strict
  formats := mirrors.settings.formats
  ignored := mirrors.settings.ignored
  exclusiveMaximum := mirrors.isExclusive (by decide)
  exclusiveMinimum := mirrors.isExclusive (by decide)

/-- The checks that a constraint's value stands for are the same in both dialects. -/
theorem toOption_check (mirrors : context.Mirrors context') {meaning : Meaning}
    (notProbe : meaning ≠ .probe)
    (values : context.Counterparts context' meaning.layout value value') :
    (context.check meaning value).toOption = (context'.check meaning value').toOption := by
  refine mirrors.readsAlike.toOption_check notProbe (fun isKinds => ?_) fun isData => ?_
  · subst isKinds
    exact toOption_kinds values
  · rw [isData] at values
    exact values.eq_of_data

end Mirrors

end Context

namespace Rule

variable {branches branches' : List Subschema} {schema schema' : Subschema}

theorem behaviours_mirror (mirrors : List.Forall₂ Subschema.Mirrors branches branches') :
    List.Forall₂ (Behaviour.Mirrors publicName) (behavioursOf branches)
      (behavioursOf branches') := by
  rw [behavioursOf_eq_map, behavioursOf_eq_map]
  exact List.forall₂_map_left_iff.mpr (List.forall₂_map_right_iff.mpr mirrors)

theorem behaviour?_mirrors {branch branch' : Option Subschema}
    (mirrors : Option.Rel Subschema.Mirrors branch branch') :
    Option.Rel (Behaviour.Mirrors publicName) (behaviourOf? branch) (behaviourOf? branch') := by
  rw [behaviourOf?_eq_map, behaviourOf?_eq_map]
  exact rel_map mirrors fun _ _ both => both

theorem mirrors_entries {listed listed' : List (String × Subschema)}
    (mirrors : List.Forall₂ (AtKey Subschema.Mirrors) listed listed') :
    (Rule.entries listed).Mirrors (.entries listed') := by
  refine Behaviour.mirrors_entries ?_
  rw [entryBehavioursOf_eq_map, entryBehavioursOf_eq_map]
  exact List.forall₂_map_left_iff.mpr (List.forall₂_map_right_iff.mpr mirrors)

theorem mirrors_patternEntries {listed listed' : List (Pattern × Subschema)}
    (mirrors : List.Forall₂ (AtKey Subschema.Mirrors) listed listed') :
    (Rule.patternEntries listed).Mirrors (.patternEntries listed') := by
  refine Behaviour.mirrors_patternEntries ?_
  rw [patternBehavioursOf_eq_map, patternBehavioursOf_eq_map]
  exact List.forall₂_map_left_iff.mpr (List.forall₂_map_right_iff.mpr mirrors)

end Rule

theorem Rule.mirrors_dependencies {demands demands' : List (String × Dependency)}
    (mirrors : List.Forall₂ (AtKey Dependency.Mirrors) demands demands') :
    (Rule.dependencies demands).Mirrors (.dependencies demands') := by
  refine Behaviour.mirrors_dependencies ?_
  rw [demandsOf_eq_map, demandsOf_eq_map]
  exact List.forall₂_map_left_iff.mpr (List.forall₂_map_right_iff.mpr mirrors)

namespace Context.Mirrors

open Binding

variable {context context' : Context} {value value' : Value}

theorem subschema (values : context.Counterparts context' .whole value value') :
    context.InStep context' Subschema.Mirrors (context.subschema value)
      (context'.subschema value') := by
  cases values with
  | mapping each => exact .inner (.mapping each) fun _ _ schemas => .done schemas
  | inert inert =>
      cases value with
      | object entries => cases inert
      | string name => cases inert
      | bool truth =>
          cases truth with
          | true => exact .done Behaviour.mirrors_pass
          | false => exact .done Behaviour.mirrors_refuse
      | _ => exact .failed _ _

theorem subschemasOfItems {items items' : List Value}
    (each : List.Forall₂ (context.Counterparts context' .whole) items items') :
    context.InStep context' (List.Forall₂ Subschema.Mirrors) (context.subschemasOfItems items)
      (context'.subschemasOfItems items') := by
  induction each with
  | nil => exact .done .nil
  | cons first rest ih =>
      refine (subschema first).bind fun _ _ schema => ih.bind fun _ _ schemas => ?_
      exact .done (.cons schema schemas)

theorem subschemas (values : context.Counterparts context' .list value value') :
    context.InStep context' (List.Forall₂ Subschema.Mirrors) (context.subschemas value)
      (context'.subschemas value') := by
  cases values with
  | inert inert =>
      cases value with
      | array items => cases inert
      | _ => exact .failed _ _
  | list each =>
      cases each with
      | nil => exact .failed _ _
      | cons first rest => exact subschemasOfItems (.cons first rest)

theorem subschemaTable (values : context.Counterparts context' .table value value') :
    context.InStep context' (List.Forall₂ (AtKey Subschema.Mirrors)) (context.subschemaTable value)
      (context'.subschemaTable value') := by
  cases values with
  | inert inert =>
      cases value with
      | object entries => cases inert
      | _ => exact .failed _ _
  | table each =>
      unfold Context.subschemaTable
      dsimp only
      induction each with
      | nil => exact .done .nil
      | cons first rest ih =>
          cases first with
          | mk name values =>
              refine (subschema values).bind fun _ _ schema => ih.bind fun _ _ schemas => ?_
              exact .done (.cons ⟨rfl, schema⟩ schemas)

theorem siblingSubschema? (mirrors : context.Mirrors context') {name : String}
    (listed : (name, Layout.whole) ∈ Registry.siblingLayouts) :
    context.InStep context' (Option.Rel Subschema.Mirrors) (context.siblingSubschema? name)
      (context'.siblingSubschema? name) := by
  have rel := mirrors.sibling listed
  unfold Context.siblingSubschema?
  generalize context.sibling? name = found at rel ⊢
  generalize context'.sibling? name = found' at rel ⊢
  cases rel with
  | none => exact .done .none
  | some values => exact (subschema values).bind fun _ _ schema => .done (.some schema)

theorem items (mirrors : context.Mirrors context')
    (values : context.Counterparts context' .items value value') :
    context.InStep context' Rule.Mirrors (context.items value) (context'.items value') := by
  cases values with
  | byPosition each =>
      refine (subschemasOfItems each).bind fun _ _ positional => ?_
      refine (mirrors.siblingSubschema? (by decide)).bind fun _ _ rest => .done ?_
      exact Behaviour.mirrors_items (Rule.behaviours_mirror positional)
        (rel_getD rest Behaviour.mirrors_pass)
  | forItems each =>
      exact (subschema (.mapping each)).bind fun _ _ rest =>
        .done (Behaviour.mirrors_items .nil rest)
  | inert inert =>
      have whole : Layout.isInert value .whole = true := (Bool.and_eq_true_iff.mp inert).1
      cases value with
      | array items => cases inert
      | _ =>
          exact (subschema (.inert whole)).bind fun _ _ rest =>
            .done (Behaviour.mirrors_items .nil rest)

theorem patternEntries (values : context.Counterparts context' .table value value') :
    context.InStep context' Rule.Mirrors (context.patternEntries value)
      (context'.patternEntries value') := by
  refine (subschemaTable values).bind fun schemas schemas' mirrors => ?_
  have names : Table.names schemas = Table.names schemas' := keys_eq_of_parallel mirrors
  have patterns := rel_of_eq (toOption_entryPatterns context context' (Table.names schemas))
  rw [names] at patterns ⊢
  refine (mirrors_ofExcept patterns).bind fun patterns _ same => ?_
  cases same
  exact .done (Rule.mirrors_patternEntries (forall₂_zip patterns (values_of_parallel mirrors)))

theorem additionalEntries (mirrors : context.Mirrors context')
    (values : context.Counterparts context' .whole value value') :
    context.InStep context' Rule.Mirrors (context.additionalEntries value)
      (context'.additionalEntries value') := by
  refine (subschema values).bind fun _ _ entry => ?_
  rw [mirrors.siblingNames (show ("pattern_entries", Layout.table) ∈ _ by decide),
    mirrors.siblingNames (show ("entries", Layout.table) ∈ _ by decide)]
  have patterns := rel_of_eq
    (toOption_entryPatterns context context' (context'.siblingNames "pattern_entries"))
  refine (mirrors_ofExcept patterns).bind fun patterns _ same => ?_
  cases same
  exact .done (Behaviour.mirrors_additionalEntries entry _ patterns)

theorem dependency {entry entry' : String × Value}
    (demands : DemandCounterpart context.settings.types context'.settings.types entry entry') :
    context.InStep context' Dependency.Mirrors (context.dependency entry.1 entry.2)
      (context'.dependency entry'.1 entry'.2) := by
  cases demands with
  | schema key each =>
      exact (subschema (.mapping each)).bind fun _ _ schema => .done (.whole schema)
  | @other key value noMapping =>
      cases value with
      | object entries => exact absurd rfl noMapping
      | bool truth => exact (subschema (.inert rfl)).bind fun _ _ schema => .done (.whole schema)
      | array items =>
          have names := rel_of_eq (toOption_namesOfItems context context' items)
          refine (mirrors_ofExcept names).bind fun names _ same => ?_
          cases same
          exact .done (.peers names)
      | _ => exact .failed _ _

theorem dependencies (values : context.Counterparts context' .demands value value') :
    context.InStep context' Rule.Mirrors (context.dependencies value)
      (context'.dependencies value') := by
  have demandsOfEntries {entries entries' : List (String × Value)}
      (each : List.Forall₂ (DemandCounterpart context.settings.types context'.settings.types)
        entries entries') :
      context.InStep context' (List.Forall₂ (AtKey Dependency.Mirrors))
        (context.dependenciesOfEntries entries) (context'.dependenciesOfEntries entries') := by
    induction each with
    | nil => exact .done .nil
    | cons first rest ih =>
        refine (dependency first).bind fun _ _ demand => ih.bind fun _ _ demands => ?_
        refine .done (.cons ⟨?_, demand⟩ demands)
        cases first <;> rfl
  cases values with
  | inert inert =>
      cases value with
      | object entries => cases inert
      | _ => exact .failed _ _
  | demands each =>
      exact (demandsOfEntries each).bind fun _ _ demands =>
        .done (Rule.mirrors_dependencies demands)

theorem conditional (mirrors : context.Mirrors context')
    (values : context.Counterparts context' .whole value value') :
    context.InStep context' (Option.Rel Rule.Mirrors) (context.conditional value)
      (context'.conditional value') := by
  refine (subschema values).bind fun _ _ condition => ?_
  refine (mirrors.siblingSubschema? (by decide)).bind fun positive positive' branch => ?_
  refine (mirrors.siblingSubschema? (by decide)).bind fun negative negative' branch' => ?_
  have same : (positive.isNone && negative.isNone) = (positive'.isNone && negative'.isNone) := by
    cases branch <;> cases branch' <;> rfl
  rw [same]
  refine .done ?_
  split
  · exact .none
  · exact .some (Behaviour.mirrors_conditional condition (Rule.behaviour?_mirrors branch)
      (Rule.behaviour?_mirrors branch'))

/-- The rule of a constraint is that of its counterpart. A remark has none, whatever its value. -/
theorem rule (mirrors : context.Mirrors context') {meaning : Meaning} (notProbe : meaning ≠ .probe)
    (values : meaning = .remark ∨
      context.Counterparts context' meaning.layout value value') :
    context.InStep context' (Option.Rel Rule.Mirrors) (context.rule meaning value)
      (context'.rule meaning value') := by
  rcases values with rfl | values
  · exact .done .none
  · cases meaning with
    | remark => exact .done .none
    | probe => exact absurd rfl notProbe
    | items => exact (mirrors.items values).bind fun _ _ rule => .done (.some rule)
    | contains =>
        exact (subschema values).bind fun _ _ item =>
          .done (.some (Behaviour.mirrors_contains item))
    | entries =>
        exact (subschemaTable values).bind fun _ _ listed =>
          .done (.some (Rule.mirrors_entries listed))
    | patternEntries => exact (patternEntries values).bind fun _ _ rule => .done (.some rule)
    | additionalEntries =>
        exact (mirrors.additionalEntries values).bind fun _ _ rule => .done (.some rule)
    | dependencies => exact (dependencies values).bind fun _ _ rule => .done (.some rule)
    | entryNames =>
        exact (subschema values).bind fun _ _ name =>
          .done (.some (Behaviour.mirrors_entryNames name))
    | allOf =>
        exact (subschemas values).bind fun _ _ branches =>
          .done (.some (Behaviour.mirrors_allOf (Rule.behaviours_mirror branches)))
    | anyOf =>
        exact (subschemas values).bind fun _ _ branches =>
          .done (.some (Behaviour.mirrors_anyOf (Rule.behaviours_mirror branches)))
    | oneOf =>
        exact (subschemas values).bind fun _ _ branches =>
          .done (.some (Behaviour.mirrors_oneOf (Rule.behaviours_mirror branches)))
    | negation =>
        exact (subschema values).bind fun _ _ excluded =>
          .done (.some (Behaviour.mirrors_negation excluded))
    | conditional => exact mirrors.conditional values
    | apply =>
        exact (subschema values).bind fun _ _ whole => .done (.some (whole.under (.label "apply")))
    | _ =>
        have checks := rel_of_eq (mirrors.toOption_check notProbe values)
        refine (mirrors_ofExcept checks).bind fun check _ same => ?_
        cases same
        refine .done ?_
        cases check with
        | none => exact .none
        | some check => exact .some (Behaviour.mirrors_ofRule check)

end Context.Mirrors

end Conformance
