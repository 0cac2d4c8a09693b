import Conformance.Proofs.Compilation.Answers
import Conformance.Proofs.Order.Document
import Conformance.Proofs.Order.Report
/-!
Scripts of reordered documents. With the same answers the scripts that bind a constraint in a document
and in the same with its keys in another order come to rules that report alike, or both to none. They do
not ask in the same order, so that their questions cannot be compared one by one, only what they come to.
-/

namespace Conformance

namespace Binding

variable {α α' β β' : Type} {inner : Value → Option Schema} {named : String → Option Schema}
  {related : α → α' → Prop} {related' : β → β' → Prop} {script : Binding α} {script' : Binding α'}

/-- Whether two scripts come to related results with the answers of two tables, or both to none. -/
def Agree (inner : Value → Option Schema) (named : String → Option Schema) (related : α → α' → Prop)
    (script : Binding α) (script' : Binding α') : Prop :=
  Option.Rel related (script.answered inner named) (script'.answered inner named)

theorem agree_done {result : α} {result' : α'} (held : related result result') :
    Agree inner named related (.done result) (.done result') := .some held

theorem agree_failed (error error' : CompileError) :
    Agree inner named related (.failed error) (.failed error') := .none

theorem Agree.bind {next : α → Binding β} {next' : α' → Binding β'}
    (agree : Agree inner named related script script')
    (rest : ∀ result result', related result result' →
      Agree inner named related' (next result) (next' result')) :
    Agree inner named related' (script >>= next) (script' >>= next') := by
  unfold Agree
  rw [answered_bind, answered_bind]
  exact rel_bind agree rest

theorem agree_ofExcept {result : Except CompileError α} {result' : Except CompileError α'}
    (rel : Option.Rel related result.toOption result'.toOption) :
    Agree inner named related (ofExcept result) (ofExcept result') := by
  unfold Agree
  rwa [answered_ofExcept, answered_ofExcept]

end Binding

namespace Context

open Binding

/-- Contexts of a document in which no two keys denote one constraint, and of the same with its keys in
another order. -/
structure Reorders (context context' : Context) : Prop where
  settings : context.settings = context'.settings
  strict : context.strict = context'.strict
  declared : context.declared = context'.declared
  canonical : context.settings.constraints.IsCanonical
  lays : context.settings.constraints.LaysOut
  distinct : (context.denoted context.entries).Nodup
  entries : Shuffled
    (EntryReordered context.settings.constraints context.settings.constraints.layoutAt)
    context.entries context'.entries

section

variable {context context' : Context} {value value' : Value} {name : String}

namespace Reorders

theorem sibling (reorders : context.Reorders context') {layout : Layout}
    (listed : (name, layout) ∈ Registry.siblingLayouts) :
    Option.Rel (Reordered context.settings.constraints layout) (context.sibling? name)
      (context'.sibling? name) := by
  unfold sibling?
  rw [← reorders.settings]
  exact Reordered.find? reorders.canonical reorders.lays reorders.entries reorders.distinct listed

theorem isExclusive (reorders : context.Reorders context')
    (listed : (name, Layout.data) ∈ Registry.siblingLayouts) :
    context.isExclusive name = context'.isExclusive name := by
  have rel := reorders.sibling listed
  unfold Context.isExclusive
  generalize context.sibling? name = found at rel ⊢
  generalize context'.sibling? name = found' at rel ⊢
  cases rel with
  | none => rfl
  | some values => rw [values.eq_of_data]

theorem readsAlike (reorders : context.Reorders context') : context.ReadsAlike context' where
  strict := reorders.strict
  formats := by rw [reorders.settings]
  ignored name := by rw [reorders.settings]
  exclusiveMaximum := reorders.isExclusive (by decide)
  exclusiveMinimum := reorders.isExclusive (by decide)

theorem siblingNames (reorders : context.Reorders context')
    (listed : (name, Layout.table) ∈ Registry.siblingLayouts) :
    (context.siblingNames name).Perm (context'.siblingNames name) := by
  have rel := reorders.sibling listed
  unfold Context.siblingNames
  generalize context.sibling? name = found at rel ⊢
  generalize context'.sibling? name = found' at rel ⊢
  cases rel with
  | none => exact .refl _
  | some values =>
      rcases values.table_cases with ⟨entries, entries', rfl, rfl, shuffled⟩ | ⟨_, rfl⟩
      · exact perm_of_reordered shuffled
      · exact .refl _

end Reorders

end

variable {inner : Value → Option Schema} {named : String → Option Schema} {registry : Registry}

/-- Whether documents with their keys in another order are answered by schemas that report alike. -/
def AnswersAlike (registry : Registry) (inner : Value → Option Schema) : Prop :=
  ∀ document document', Reordered registry .whole document document' →
    Option.Rel Schema.Alike (inner document) (inner document')

variable {context context' : Context} {value value' : Value} {key : String}

namespace AnswersAlike

theorem subschema (alike : AnswersAlike registry inner)
    (values : Reordered registry .whole value value') :
    Agree inner named Subschema.Alike (context.subschema value) (context'.subschema value') := by
  have answers := alike value value' values
  rcases values.whole_cases with ⟨entries, entries', rfl, rfl, _⟩ | ⟨noMapping, rfl⟩
  · exact rel_bind answers fun _ _ both => .some both
  · cases value with
    | object entries => exact absurd rfl noMapping
    | string name => exact rel_bind (rel_of_eq rfl) fun _ _ same => .some (same ▸ Subschema.Alike.refl _)
    | bool truth =>
        cases truth with
        | true => exact agree_done (Subschema.Alike.refl _)
        | false => exact agree_done (Subschema.Alike.refl _)
    | _ => exact agree_failed _ _

theorem subschemasOfItems (alike : AnswersAlike registry inner) {items items' : List Value}
    (each : List.Forall₂ (Reordered registry .whole) items items') :
    Agree inner named (List.Forall₂ Subschema.Alike) (context.subschemasOfItems items)
      (context'.subschemasOfItems items') := by
  unfold Agree
  rw [answered_subschemasOfItems, answered_subschemasOfItems]
  exact rel_mapM_of_parallel each fun _ _ values => alike.subschema values

theorem subschemas (alike : AnswersAlike registry inner)
    (values : Reordered registry .list value value') :
    Agree inner named (List.Forall₂ Subschema.Alike) (context.subschemas value)
      (context'.subschemas value') := by
  rcases values.list_cases with ⟨items, items', rfl, rfl, each⟩ | ⟨noList, rfl⟩
  · cases each with
    | nil => exact agree_failed _ _
    | cons first rest => exact alike.subschemasOfItems (.cons first rest)
  · cases value with
    | array items => exact absurd rfl noList
    | _ => exact agree_failed _ _

theorem subschemaTable (alike : AnswersAlike registry inner)
    (values : Reordered registry .table value value') :
    Agree inner named (Shuffled (AtKey Subschema.Alike)) (context.subschemaTable value)
      (context'.subschemaTable value') := by
  rcases values.table_cases with ⟨entries, entries', rfl, rfl, shuffled⟩ | ⟨noTable, rfl⟩
  · unfold Agree Context.subschemaTable
    dsimp only
    rw [answered_subschemasOfEntries, answered_subschemasOfEntries]
    refine shuffled.rel_mapM fun entry entry' values => ?_
    exact rel_map (alike.subschema values.values) fun _ _ both => ⟨values.key_eq, both⟩
  · cases value with
    | object entries => exact absurd rfl noTable
    | _ => exact agree_failed _ _

theorem patternEntries (alike : AnswersAlike registry inner)
    (values : Reordered registry .table value value') :
    Agree inner named Rule.Alike (context.patternEntries value) (context'.patternEntries value') := by
  rw [patternEntries_eq, patternEntries_eq]
  refine (alike.subschemaTable values).bind fun schemas schemas' shuffled => ?_
  unfold Agree
  rw [answered_patternRule, answered_patternRule]
  refine rel_map (shuffled.rel_mapM ?_) fun _ _ both => Rule.alike_patternEntries both
  rintro ⟨source, part⟩ ⟨_, part'⟩ ⟨rfl, both⟩
  dsimp only
  rw [toOption_entryPattern context context']
  exact rel_map (rel_of_eq rfl) fun _ _ same => ⟨same, both⟩

/-- What the presence of an entry asks for. -/
theorem dependency (alike : AnswersAlike registry inner)
    (values : Reordered registry .whole value value') :
    Agree inner named Dependency.Alike (context.dependency key value)
      (context'.dependency key value') := by
  rcases values.whole_cases with ⟨entries, entries', rfl, rfl, _⟩ | ⟨noMapping, rfl⟩
  · exact (alike.subschema values).bind fun _ _ part => agree_done (.whole part)
  · cases value with
    | object entries => exact absurd rfl noMapping
    | bool truth => exact (alike.subschema values).bind fun _ _ part => agree_done (.whole part)
    | array items =>
        refine (agree_ofExcept (rel_of_eq (toOption_namesOfItems context context' items))).bind ?_
        rintro names _ rfl
        exact agree_done (.peers names)
    | _ => exact agree_failed _ _

theorem dependencies (alike : AnswersAlike registry inner)
    (values : Reordered registry .demands value value') :
    Agree inner named Rule.Alike (context.dependencies value) (context'.dependencies value') := by
  rcases values.table_of_demands.table_cases with ⟨entries, entries', rfl, rfl, shuffled⟩ |
    ⟨noTable, rfl⟩
  · have demands : Agree inner named (Shuffled (AtKey Dependency.Alike))
        (context.dependenciesOfEntries entries) (context'.dependenciesOfEntries entries') := by
      unfold Agree
      rw [answered_dependenciesOfEntries, answered_dependenciesOfEntries]
      refine shuffled.rel_mapM fun entry entry' values => ?_
      rw [← values.key_eq]
      exact rel_map (alike.dependency values.values) fun _ _ both => ⟨rfl, both⟩
    exact demands.bind fun _ _ both => agree_done (Rule.alike_dependencies both)
  · cases value with
    | object entries => exact absurd rfl noTable
    | _ => exact agree_failed _ _

end AnswersAlike

namespace Reorders

variable (reorders : context.Reorders context')
  (alike : AnswersAlike context.settings.constraints inner)

include reorders alike

theorem siblingSubschema? (listed : (key, Layout.whole) ∈ Registry.siblingLayouts) :
    Agree inner named (Option.Rel Subschema.Alike) (context.siblingSubschema? key)
      (context'.siblingSubschema? key) := by
  have rel := reorders.sibling listed
  unfold Context.siblingSubschema?
  generalize context.sibling? key = found at rel ⊢
  generalize context'.sibling? key = found' at rel ⊢
  cases rel with
  | none => exact agree_done .none
  | some values => exact (alike.subschema values).bind fun _ _ both => agree_done (.some both)

theorem items (values : Reordered context.settings.constraints .items value value') :
    Agree inner named Rule.Alike (context.items value) (context'.items value') := by
  rcases values.items_cases with ⟨items, items', rfl, rfl, each⟩ | ⟨noList, whole⟩
  · refine (alike.subschemasOfItems each).bind fun _ _ positional => ?_
    refine (reorders.siblingSubschema? alike (by decide)).bind fun _ _ rest => agree_done ?_
    exact Behaviour.alike_items (Rule.behaviours_alike positional)
      (rel_getD rest (Subschema.Alike.refl _))
  · rw [items_eq_of_noList context noList, items_eq_of_noList context' (whole.kind_eq ▸ noList)]
    exact (alike.subschema whole).bind fun _ _ rest => agree_done (Behaviour.alike_items .nil rest)

theorem additionalEntries (values : Reordered context.settings.constraints .whole value value') :
    Agree inner named Rule.Alike (context.additionalEntries value)
      (context'.additionalEntries value') := by
  have listed := reorders.siblingNames (show ("entries", Layout.table) ∈ _ by decide)
  have sources := reorders.siblingNames (show ("pattern_entries", Layout.table) ∈ _ by decide)
  have patterns : Option.Rel List.Perm
      (context.entryPatterns (context.siblingNames "pattern_entries")).toOption
      (context'.entryPatterns (context'.siblingNames "pattern_entries")).toOption := by
    rw [toOption_entryPatterns context' context, toOption_entryPatterns_eq, toOption_entryPatterns_eq]
    exact rel_mapM_of_perm sources _
  refine (alike.subschema values).bind fun _ _ entry => ?_
  refine (agree_ofExcept patterns).bind fun patterns patterns' perm => agree_done ?_
  refine Behaviour.alike_additionalEntries (funext fun name => ?_) entry
  have named : decide (name ∈ context.siblingNames "entries") =
      decide (name ∈ context'.siblingNames "entries") := decide_eq_decide.mpr listed.mem_iff
  have matched : patterns.any (·.isMatch name) = patterns'.any (·.isMatch name) := by
    rw [Bool.eq_iff_iff, List.any_eq_true, List.any_eq_true]
    exact exists_congr fun _ => and_congr_left' perm.mem_iff
  unfold Behaviour.isAdditional
  rw [named, matched]

theorem conditional (values : Reordered context.settings.constraints .whole value value') :
    Agree inner named (Option.Rel Rule.Alike) (context.conditional value)
      (context'.conditional value') := by
  refine (alike.subschema values).bind fun _ _ condition => ?_
  refine (reorders.siblingSubschema? alike (by decide)).bind fun positive positive' branch => ?_
  refine (reorders.siblingSubschema? alike (by decide)).bind fun negative negative' branch' => ?_
  rw [isNone_of_rel branch, isNone_of_rel branch']
  refine agree_done ?_
  split
  · exact .none
  · exact .some (Behaviour.alike_conditional condition (Rule.behaviour?_alike branch)
      (Rule.behaviour?_alike branch'))

omit alike in
theorem checked {meaning : Meaning} (notProbe : meaning ≠ .probe)
    (values : Reordered context.settings.constraints meaning.layout value value') :
    Agree inner named (Option.Rel Rule.Alike)
      (Binding.ofExcept (context.check meaning value) >>= fun check => pure (check.map Rule.check))
      (Binding.ofExcept (context'.check meaning value') >>= fun check =>
        pure (check.map Rule.check)) := by
  have types : context.settings.types = context'.settings.types := by rw [reorders.settings]
  have checks : (context.check meaning value).toOption = (context'.check meaning value').toOption := by
    refine reorders.readsAlike.toOption_check notProbe (fun isKinds => ?_) fun isData => ?_
    · subst isKinds
      exact values.eq_of_kinds ▸ toOption_kinds_of_types types value
    · rw [isData] at values
      exact values.eq_of_data
  refine (agree_ofExcept (rel_of_eq checks)).bind fun check _ same => ?_
  subst same
  cases check with
  | none => exact agree_done .none
  | some check => exact agree_done (.some (Rule.Alike.refl _))

/-- The rule of a constraint reports alike, whatever the order of the keys in its value and of its
siblings. -/
theorem rule {meaning : Meaning} (notProbe : meaning ≠ .probe)
    (values : meaning = .remark ∨
      Reordered context.settings.constraints meaning.layout value value') :
    Agree inner named (Option.Rel Rule.Alike) (context.rule meaning value)
      (context'.rule meaning value') := by
  rcases values with rfl | values
  · exact agree_done .none
  · cases meaning with
    | remark => exact agree_done .none
    | probe => exact absurd rfl notProbe
    | items => exact (reorders.items alike values).bind fun _ _ rule => agree_done (.some rule)
    | contains =>
        exact (alike.subschema values).bind fun _ _ item =>
          agree_done (.some (Behaviour.alike_contains item))
    | entries =>
        exact (alike.subschemaTable values).bind fun _ _ listed =>
          agree_done (.some (Rule.alike_entries listed))
    | patternEntries =>
        exact (alike.patternEntries values).bind fun _ _ rule => agree_done (.some rule)
    | additionalEntries =>
        exact (reorders.additionalEntries alike values).bind fun _ _ rule => agree_done (.some rule)
    | dependencies =>
        exact (alike.dependencies values).bind fun _ _ rule => agree_done (.some rule)
    | entryNames =>
        exact (alike.subschema values).bind fun _ _ name =>
          agree_done (.some (Behaviour.alike_entryNames name))
    | allOf =>
        exact (alike.subschemas values).bind fun _ _ branches =>
          agree_done (.some (Behaviour.alike_allOf (Rule.behaviours_alike branches)))
    | anyOf =>
        exact (alike.subschemas values).bind fun _ _ branches =>
          agree_done (.some (Behaviour.alike_anyOf (Rule.behaviours_alike branches)))
    | oneOf =>
        exact (alike.subschemas values).bind fun _ _ branches =>
          agree_done (.some (Behaviour.alike_oneOf (Rule.behaviours_alike branches)))
    | negation =>
        exact (alike.subschema values).bind fun _ _ excluded =>
          agree_done (.some (Behaviour.alike_negation excluded))
    | conditional => exact reorders.conditional alike values
    | apply =>
        exact (alike.subschema values).bind fun _ _ whole =>
          agree_done (.some (Behaviour.alike_under whole _))
    | _ => exact reorders.checked notProbe values

end Reorders

end Context

end Conformance
