import Conformance.Proofs.Compilation.Answers
import Conformance.Proofs.Dialect.Renaming
import Conformance.Proofs.Inlining.Document
import Conformance.Proofs.Relaxation.Beside
/-!
Scripts of documents with a document put in for the name of a schema. If the schema of the name acts like
that of the document, whatever comes of two such scripts acts alike. One of them may fail where the other
does not, since a name is found at any depth and a document is compiled.
-/

namespace Conformance

/-- Whether a schema treats every instance like another. -/
def Schema.ActsLike (schema schema' : Schema) : Prop :=
  schema.behaviour.Mirrors id schema'.behaviour

def Subschema.ActsLike (part part' : Subschema) : Prop := part.behaviour.Mirrors id part'.behaviour

theorem Subschema.ActsLike.refl (part : Subschema) : part.ActsLike part := Behaviour.mirrors_id _

/-- A rule mirrors another beside it whose sub-schemas its own mirror. -/
theorem Rule.Beside.mirrors {rename : String → String} {rule rule' : Rule}
    (beside : rule.Beside (fun part part' => part.behaviour.Mirrors rename part'.behaviour) rule') :
    rule.behaviour.Mirrors rename rule'.behaviour := by
  cases beside with
  | check check => exact Behaviour.mirrors_ofRule check
  | items each others => exact Behaviour.mirrors_items (behaviours_beside each) others
  | contains held => exact Behaviour.mirrors_contains held
  | entries each => exact Behaviour.mirrors_entries (entryBehaviours_beside each)
  | patternEntries each => exact Behaviour.mirrors_patternEntries (patternBehaviours_beside each)
  | additionalEntries listed patterns held =>
      exact Behaviour.mirrors_additionalEntries held listed patterns
  | dependencies each =>
      exact Behaviour.mirrors_dependencies (demands_beside .peers (fun _ _ held => .whole held) each)
  | entryNames held => exact Behaviour.mirrors_entryNames held
  | allOf each => exact Behaviour.mirrors_allOf (behaviours_beside each)
  | anyOf each => exact Behaviour.mirrors_anyOf (behaviours_beside each)
  | oneOf each => exact Behaviour.mirrors_oneOf (behaviours_beside each)
  | negation held => exact Behaviour.mirrors_negation held
  | conditional held first second =>
      exact Behaviour.mirrors_conditional held (behaviour?_beside first) (behaviour?_beside second)
  | apply held => exact held.under _

namespace Binding

variable {α α' β β' : Type} {inner : Value → Option Schema} {named : String → Option Schema}
  {related : α → α' → Prop} {related' : β → β' → Prop} {script : Binding α} {script' : Binding α'}

/-- Whether two scripts come to related results with the answers of two tables, if both come to any. -/
def Alongside (inner : Value → Option Schema) (named : String → Option Schema)
    (related : α → α' → Prop) (script : Binding α) (script' : Binding α') : Prop :=
  ∀ result result', script.answered inner named = some result →
    script'.answered inner named = some result' → related result result'

theorem alongside_done {result : α} {result' : α'} (held : related result result') :
    Alongside inner named related (.done result) (.done result') := by
  rintro _ _ ⟨⟩ ⟨⟩
  exact held

theorem alongside_failed (error : CompileError) :
    Alongside inner named related (.failed error) script' :=
  fun _ _ came => nomatch came

theorem Alongside.bind {next : α → Binding β} {next' : α' → Binding β'}
    (alongside : Alongside inner named related script script')
    (rest : ∀ result result', related result result' →
      Alongside inner named related' (next result) (next' result')) :
    Alongside inner named related' (script >>= next) (script' >>= next') := by
  intro last last' came came'
  rw [answered_bind] at came came'
  obtain ⟨result, found, came⟩ := Option.bind_eq_some_iff.mp came
  obtain ⟨result', found', came'⟩ := Option.bind_eq_some_iff.mp came'
  exact rest result result' (alongside result result' found found') last last' came came'

theorem alongside_ofExcept {result : Except CompileError α} {result' : Except CompileError α'}
    (held : ∀ value value', result = .ok value → result' = .ok value' → related value value') :
    Alongside inner named related (ofExcept result) (ofExcept result') := by
  intro value value' came came'
  rw [answered_ofExcept, toOption_eq_some] at came came'
  exact held value value' came came'

theorem alongside_of_toOption {result result' : Except CompileError α}
    (same : result.toOption = result'.toOption) :
    Alongside inner named Eq (ofExcept result) (ofExcept result') := by
  refine alongside_ofExcept fun value value' read read' => ?_
  rw [← toOption_eq_some] at read read'
  rw [read, read'] at same
  exact Option.some.inj same

end Binding

namespace Context

open Binding

/-- Whether the answers to documents of which one has a document for a name act alike, and so do those to
the name and to the document in its place. -/
structure Interchanges (registry : Registry) (name : String) (target : Value)
    (inner : Value → Option Schema) (named : String → Option Schema) : Prop where
  isObject : target.kind = .object
  documents : ∀ document document', Inlined registry name target .whole document document' →
    ∀ schema schema', inner document = some schema → inner document' = some schema' →
      schema.ActsLike schema'
  reference : ∀ schema schema', named name = some schema → inner target = some schema' →
    schema.ActsLike schema'

/-- Contexts of documents of which one has a document where the other has a name. -/
structure Inlines (context context' : Context) (name : String) (target : Value) : Prop where
  settings : context.settings = context'.settings
  strict : context.strict = context'.strict
  declared : context.declared = context'.declared
  separates : context.settings.constraints.SeparatesSubschemas
  isObject : target.kind = .object
  entries : List.Forall₂
    (EntryInlined context.settings.constraints name target context.settings.constraints.layoutAt)
    context.entries context'.entries

section

variable {context context' : Context} {name : String} {target value value' : Value} {registry : Registry}
  {layout : Layout} {kinds kinds' : KindSet}

theorem eq_of_kindsOfItems (isObject : target.kind = .object) {items items' : List Value}
    (each : List.Forall₂ (Inlined registry name target .whole) items items') {start start' : KindSet}
    (read : context.kindsOfItems start items = .ok kinds)
    (read' : context'.kindsOfItems start' items' = .ok kinds') : items = items' := by
  induction each generalizing start start' with
  | nil => rfl
  | @cons item item' items items' first rest ih =>
      cases first with
      | mapping each => cases read
      | reference =>
          obtain ⟨entries, rfl⟩ := Value.exists_object_of_kind isObject
          cases read'
      | same =>
          cases item with
          | string name =>
              unfold kindsOfItems at read read'
              split at read
              · split at read'
                · rw [ih read read']
                · cases read'
              · cases read
          | _ => cases read

/-- No document is a type, so that values that are both read as kinds are the same. -/
theorem eq_of_kinds (isObject : target.kind = .object)
    (values : Inlined registry name target layout value value')
    (read : context.kinds value = .ok kinds) (read' : context'.kinds value' = .ok kinds') :
    value = value' := by
  have whole {value value' : Value} (values : Inlined registry name target .whole value value')
      (read : context.kinds value = .ok kinds) (read' : context'.kinds value' = .ok kinds') :
      value = value' := by
    cases values with
    | same => rfl
    | mapping each => cases read
    | reference =>
        obtain ⟨entries, rfl⟩ := Value.exists_object_of_kind isObject
        cases read'
  have items {items items' : List Value}
      (each : List.Forall₂ (Inlined registry name target .whole) items items')
      (read : context.kinds (.array items) = .ok kinds)
      (read' : context'.kinds (.array items') = .ok kinds') : items = items' := by
    cases each with
    | nil => rfl
    | cons first rest => exact eq_of_kindsOfItems isObject (.cons first rest) read read'
  cases values with
  | same => rfl
  | reference => exact whole .reference read read'
  | mapping each => cases read
  | single values _ => exact whole values read read'
  | positional each => rw [items each read read']
  | list each => rw [items each read read']
  | table each => cases read
  | demands each => cases read

namespace Inlines

variable (inlines : context.Inlines context' name target)

include inlines

theorem sibling (sibling : String) :
    Option.Rel (fun value value' => ∃ key, context.settings.constraints.spells sibling key = true ∧
        Inlined context.settings.constraints name target (context.settings.constraints.layoutAt key)
          value value')
      (context.sibling? sibling) (context'.sibling? sibling) := by
  unfold sibling?
  rw [← inlines.settings]
  exact Inlined.find? inlines.entries sibling

/-- Neither a name nor a document is a truth value. -/
theorem isExclusive (sibling : String) : context.isExclusive sibling = context'.isExclusive sibling := by
  have rel := inlines.sibling sibling
  obtain ⟨entries, rfl⟩ := Value.exists_object_of_kind inlines.isObject
  unfold Context.isExclusive
  generalize context.sibling? sibling = found at rel ⊢
  generalize context'.sibling? sibling = found' at rel ⊢
  cases rel with
  | none => rfl
  | some both =>
      obtain ⟨key, _, values⟩ := both
      generalize context.settings.constraints.layoutAt key = layout at values
      cases values with
      | same => rfl
      | single whole _ => cases whole <;> rfl
      | _ => rfl

theorem readsAlike : context.ReadsAlike context' where
  strict := inlines.strict
  formats := by rw [inlines.settings]
  ignored name := by rw [inlines.settings]
  exclusiveMaximum := inlines.isExclusive _
  exclusiveMinimum := inlines.isExclusive _

theorem siblingNames {sibling : String} (listed : sibling ∈ Registry.readForNames) :
    context.siblingNames sibling = context'.siblingNames sibling := by
  have fields (context : Context) : context.siblingNames sibling =
      (context.sibling? sibling).elim [] fun value => Table.names value.fields := by
    unfold Context.siblingNames
    rcases context.sibling? sibling with _ | value
    · rfl
    · cases value <;> rfl
  have rel := inlines.sibling sibling
  rw [fields context, fields context']
  generalize context.sibling? sibling = found at rel ⊢
  generalize context'.sibling? sibling = found' at rel ⊢
  cases rel with
  | none => rfl
  | some both =>
      obtain ⟨key, spelled, values⟩ := both
      exact values.names_eq (inlines.separates.tables sibling listed key spelled)

end Inlines

end

variable {inner : Value → Option Schema} {named : String → Option Schema} {registry : Registry}
  {context context' : Context} {name key : String} {target value value' : Value}

namespace Interchanges

variable (interchanges : Interchanges registry name target inner named)

include interchanges

theorem subschema (values : Inlined registry name target .whole value value') :
    Alongside inner named Subschema.ActsLike (context.subschema value) (context'.subschema value') := by
  rcases values.whole_cases with ⟨rfl, rfl⟩ | ⟨entries, entries', rfl, rfl, _⟩ | ⟨noMapping, rfl⟩
  · obtain ⟨entries, rfl⟩ := Value.exists_object_of_kind interchanges.isObject
    intro part part' came came'
    obtain ⟨schema, found, ⟨⟩⟩ := Option.bind_eq_some_iff.mp came
    obtain ⟨schema', found', ⟨⟩⟩ := Option.bind_eq_some_iff.mp came'
    exact interchanges.reference schema schema' found found'
  · intro part part' came came'
    obtain ⟨schema, found, ⟨⟩⟩ := Option.bind_eq_some_iff.mp came
    obtain ⟨schema', found', ⟨⟩⟩ := Option.bind_eq_some_iff.mp came'
    exact interchanges.documents _ _ values schema schema' found found'
  · have same : (context'.subschema value).answered inner named =
        (context.subschema value).answered inner named := by
      cases value with
      | object entries => exact absurd rfl noMapping
      | bool truth => cases truth <;> rfl
      | _ => rfl
    intro part part' came came'
    rw [same, came] at came'
    cases came'
    exact .refl part

theorem subschemasOfItems {items items' : List Value}
    (each : List.Forall₂ (Inlined registry name target .whole) items items') :
    Alongside inner named (List.Forall₂ Subschema.ActsLike) (context.subschemasOfItems items)
      (context'.subschemasOfItems items') := by
  induction each with
  | nil => exact alongside_done .nil
  | cons first rest ih =>
      exact (interchanges.subschema first).bind fun _ _ part => ih.bind fun _ _ parts =>
        alongside_done (.cons part parts)

theorem subschemas (values : Inlined registry name target .list value value') :
    Alongside inner named (List.Forall₂ Subschema.ActsLike) (context.subschemas value)
      (context'.subschemas value') := by
  rcases values.list_cases with ⟨items, items', rfl, rfl, each⟩ | ⟨noList, rfl⟩
  · cases each with
    | nil => exact alongside_failed _
    | cons first rest => exact interchanges.subschemasOfItems (.cons first rest)
  · cases value with
    | array items => exact absurd rfl noList
    | _ => exact alongside_failed _

theorem subschemaTable (values : Inlined registry name target .table value value') :
    Alongside inner named (List.Forall₂ (AtKey Subschema.ActsLike)) (context.subschemaTable value)
      (context'.subschemaTable value') := by
  rcases values.table_cases with ⟨entries, entries', rfl, rfl, each⟩ | ⟨noTable, rfl⟩
  · unfold Context.subschemaTable
    dsimp only
    induction each with
    | nil => exact alongside_done .nil
    | @cons entry entry' entries entries' first rest ih =>
        refine (interchanges.subschema first.values).bind fun _ _ part =>
          (ih (.table rest)).bind fun _ _ parts => alongside_done (.cons ⟨first.key_eq, part⟩ parts)
  · cases value with
    | object entries => exact absurd rfl noTable
    | _ => exact alongside_failed _

theorem patternEntries (values : Inlined registry name target .table value value') :
    Alongside inner named (Rule.Beside Subschema.ActsLike) (context.patternEntries value)
      (context'.patternEntries value') := by
  refine (interchanges.subschemaTable values).bind fun schemas schemas' each => ?_
  have sources : Table.names schemas = Table.names schemas' := keys_eq_of_parallel each
  rw [← sources]
  refine (alongside_of_toOption (toOption_entryPatterns context context' _)).bind ?_
  rintro patterns _ rfl
  exact alongside_done (.patternEntries (forall₂_zip patterns (values_of_parallel each)))

/-- What the presence of an entry asks for. A name asks for nothing there. -/
theorem dependency (values : Inlined registry name target .whole value value') :
    Alongside inner named (Dependency.Beside Subschema.ActsLike) (context.dependency key value)
      (context'.dependency key value') := by
  rcases values.whole_cases with ⟨rfl, rfl⟩ | ⟨entries, entries', rfl, rfl, _⟩ | ⟨noMapping, rfl⟩
  · exact alongside_failed _
  · exact (interchanges.subschema values).bind fun _ _ part => alongside_done (.whole part)
  · cases value with
    | object entries => exact absurd rfl noMapping
    | bool truth =>
        exact (interchanges.subschema values).bind fun _ _ part => alongside_done (.whole part)
    | array items =>
        refine (alongside_of_toOption (toOption_namesOfItems context context' items)).bind ?_
        rintro names _ rfl
        exact alongside_done (.peers names)
    | _ => exact alongside_failed _

theorem dependencies (values : Inlined registry name target .demands value value') :
    Alongside inner named (Rule.Beside Subschema.ActsLike) (context.dependencies value)
      (context'.dependencies value') := by
  rcases values.table_of_demands.table_cases with ⟨entries, entries', rfl, rfl, each⟩ | ⟨noTable, rfl⟩
  · have demands : Alongside inner named (List.Forall₂ (AtKey (Dependency.Beside Subschema.ActsLike)))
        (context.dependenciesOfEntries entries) (context'.dependenciesOfEntries entries') := by
      clear values
      induction each with
      | nil => exact alongside_done .nil
      | @cons entry entry' entries entries' first rest ih =>
          unfold Context.dependenciesOfEntries
          rw [← first.key_eq]
          exact (interchanges.dependency first.values).bind fun _ _ part =>
            ih.bind fun _ _ parts => alongside_done (.cons ⟨rfl, part⟩ parts)
    exact demands.bind fun _ _ both => alongside_done (.dependencies both)
  · cases value with
    | object entries => exact absurd rfl noTable
    | _ => exact alongside_failed _

end Interchanges

namespace Inlines

variable (inlines : context.Inlines context' name target)
  (interchanges : Interchanges context.settings.constraints name target inner named)

include inlines interchanges

theorem siblingSubschema? {sibling : String} (listed : sibling ∈ Registry.readBySiblings) :
    Alongside inner named (Option.Rel Subschema.ActsLike) (context.siblingSubschema? sibling)
      (context'.siblingSubschema? sibling) := by
  have rel := inlines.sibling sibling
  unfold Context.siblingSubschema?
  generalize context.sibling? sibling = found at rel ⊢
  generalize context'.sibling? sibling = found' at rel ⊢
  cases rel with
  | none => exact alongside_done .none
  | some both =>
      obtain ⟨key, spelled, values⟩ := both
      rw [Registry.layoutAt_of_spells listed spelled] at values
      exact (interchanges.subschema values).bind fun _ _ part => alongside_done (.some part)

theorem items (values : Inlined context.settings.constraints name target .items value value') :
    Alongside inner named (Rule.Beside Subschema.ActsLike) (context.items value)
      (context'.items value') := by
  rcases values.items_cases with ⟨items, items', rfl, rfl, each⟩ | ⟨noList, whole⟩
  · refine (interchanges.subschemasOfItems each).bind fun _ _ positional => ?_
    refine (inlines.siblingSubschema? interchanges (by decide)).bind fun _ _ rest => ?_
    exact alongside_done (.items positional (rel_getD rest (.refl _)))
  · have noList' : value'.kind ≠ .array := by
      cases whole with
      | reference => exact fun list => Kind.noConfusion (inlines.isObject.symm.trans list)
      | _ => exact noList
    rw [items_eq_of_noList context noList, items_eq_of_noList context' noList']
    exact (interchanges.subschema whole).bind fun _ _ rest => alongside_done (.items .nil rest)

theorem additionalEntries (values : Inlined context.settings.constraints name target .whole value value') :
    Alongside inner named (Rule.Beside Subschema.ActsLike) (context.additionalEntries value)
      (context'.additionalEntries value') := by
  refine (interchanges.subschema values).bind fun _ _ entry => ?_
  rw [← inlines.siblingNames (show "entries" ∈ _ by decide),
    ← inlines.siblingNames (show "pattern_entries" ∈ _ by decide)]
  refine (alongside_of_toOption (toOption_entryPatterns context context' _)).bind ?_
  rintro patterns _ rfl
  exact alongside_done (.additionalEntries _ _ entry)

theorem conditional (values : Inlined context.settings.constraints name target .whole value value') :
    Alongside inner named (Option.Rel (Rule.Beside Subschema.ActsLike)) (context.conditional value)
      (context'.conditional value') := by
  refine (interchanges.subschema values).bind fun _ _ condition => ?_
  refine (inlines.siblingSubschema? interchanges (by decide)).bind fun positive positive' first => ?_
  refine (inlines.siblingSubschema? interchanges (by decide)).bind fun negative negative' second => ?_
  rw [isNone_of_rel first, isNone_of_rel second]
  refine alongside_done ?_
  split
  · exact .none
  · exact .some (.conditional condition first second)

omit interchanges in
theorem checked {meaning : Meaning} (notProbe : meaning ≠ .probe)
    (values : Inlined context.settings.constraints name target meaning.layout value value') :
    Alongside inner named (Option.Rel (Rule.Beside Subschema.ActsLike))
      (Binding.ofExcept (context.check meaning value) >>= fun check => pure (check.map Rule.check))
      (Binding.ofExcept (context'.check meaning value') >>= fun check =>
        pure (check.map Rule.check)) := by
  have types : context.settings.types = context'.settings.types := by rw [inlines.settings]
  have checks : (context.check meaning value).toOption = (context'.check meaning value').toOption := by
    refine inlines.readsAlike.toOption_check notProbe (fun isKinds => ?_) fun isData => ?_
    · subst isKinds
      cases values
      exact toOption_kinds_of_types types value
    · rw [isData] at values
      exact values.eq_of_data
  refine (alongside_of_toOption checks).bind fun check _ same => ?_
  subst same
  cases check with
  | none => exact alongside_done .none
  | some check => exact alongside_done (.some (.check check))

/-- What the rules of a constraint come to in the two documents stands side by side. -/
theorem rule {meaning : Meaning} (notProbe : meaning ≠ .probe)
    (values : meaning = .remark ∨
      Inlined context.settings.constraints name target meaning.layout value value') :
    Alongside inner named (Option.Rel (Rule.Beside Subschema.ActsLike)) (context.rule meaning value)
      (context'.rule meaning value') := by
  rcases values with rfl | values
  · exact alongside_done .none
  · cases meaning with
    | remark => exact alongside_done .none
    | probe => exact absurd rfl notProbe
    | items => exact (inlines.items interchanges values).bind fun _ _ rule => alongside_done (.some rule)
    | contains =>
        exact (interchanges.subschema values).bind fun _ _ item =>
          alongside_done (.some (.contains item))
    | entries =>
        exact (interchanges.subschemaTable values).bind fun _ _ listed =>
          alongside_done (.some (.entries listed))
    | patternEntries =>
        exact (interchanges.patternEntries values).bind fun _ _ rule => alongside_done (.some rule)
    | additionalEntries =>
        exact (inlines.additionalEntries interchanges values).bind fun _ _ rule =>
          alongside_done (.some rule)
    | dependencies =>
        exact (interchanges.dependencies values).bind fun _ _ rule => alongside_done (.some rule)
    | entryNames =>
        exact (interchanges.subschema values).bind fun _ _ name =>
          alongside_done (.some (.entryNames name))
    | allOf =>
        exact (interchanges.subschemas values).bind fun _ _ branches =>
          alongside_done (.some (.allOf branches))
    | anyOf =>
        exact (interchanges.subschemas values).bind fun _ _ branches =>
          alongside_done (.some (.anyOf branches))
    | oneOf =>
        exact (interchanges.subschemas values).bind fun _ _ branches =>
          alongside_done (.some (.oneOf branches))
    | negation =>
        exact (interchanges.subschema values).bind fun _ _ excluded =>
          alongside_done (.some (.negation excluded))
    | conditional => exact inlines.conditional interchanges values
    | apply =>
        exact (interchanges.subschema values).bind fun _ _ whole =>
          alongside_done (.some (.apply whole))
    | _ => exact inlines.checked notProbe values

end Inlines

end Context

end Conformance
