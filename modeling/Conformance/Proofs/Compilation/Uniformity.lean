import Conformance.Proofs.Compilation.Layouts
import Conformance.Proofs.Relaxation.Beside
/-!
Compilation does not look into schemas. If two documents are the same but for documents at sub-schema
positions, and for keys that are skipped, one asks for documents related to those of the other and for the
same names; with related schemas for answers both end with the same constraints on these
(`Context.ReadsBeside.uniform_bindAll`). Runs that get related schemas therefore end alike
(`Binding.Uniform.run`).
-/

namespace Conformance

/-- Whether two compilations end with related results or with the same error, and with related caches. -/
inductive Compiling.EndsAlike {α α' : Type} (results : α → α' → Prop) (caches : Cache → Cache → Prop) :
    Except CompileError α × Cache → Except CompileError α' × Cache → Prop where
  | ok {result : α} {result' : α'} {cache cache' : Cache} (held : results result result')
      (kept : caches cache cache') : EndsAlike results caches (.ok result, cache) (.ok result', cache')
  | error (error : CompileError) {cache cache' : Cache} (kept : caches cache cache') :
      EndsAlike results caches (.error error, cache) (.error error, cache')

theorem Compiling.EndsAlike.mono {α α' : Type} {results results' : α → α' → Prop}
    {caches : Cache → Cache → Prop} {outcome : Except CompileError α × Cache}
    {outcome' : Except CompileError α' × Cache} (ends : EndsAlike results caches outcome outcome')
    (weaker : ∀ result result', results result result' → results' result result') :
    EndsAlike results' caches outcome outcome' := by
  cases ends with
  | ok held kept => exact .ok (weaker _ _ held) kept
  | error error kept => exact .error error kept

theorem Compiling.endsAlike_self {α : Type} {results : α → α → Prop} (refl : ∀ result, results result result)
    (outcome : Except CompileError α × Cache) : EndsAlike results Eq outcome outcome := by
  obtain ⟨result, cache⟩ := outcome
  cases result with
  | ok result => exact .ok (refl result) rfl
  | error error => exact .error error rfl

namespace Binding

variable {α α' β β' : Type} {asked : Value → Value → Prop} {answers : Schema → Schema → Prop}
  {ends : α → α' → Prop} {ends' : β → β' → Prop} {script : Binding α} {script' : Binding α'}

/-- Whether two scripts ask for related documents and the same names and end with related results or the
same error, if the schemas that they get are related. -/
inductive Uniform (asked : Value → Value → Prop) (answers : Schema → Schema → Prop) (ends : α → α' → Prop) :
    Binding α → Binding α' → Prop where
  | done {result : α} {result' : α'} (held : ends result result') :
      Uniform asked answers ends (.done result) (.done result')
  | failed (error : CompileError) : Uniform asked answers ends (.failed error) (.failed error)
  | inner {document document' : Value} {next : Schema → Binding α} {next' : Schema → Binding α'}
      (held : asked document document') (rest : ∀ schema schema', answers schema schema' →
        Uniform asked answers ends (next schema) (next' schema')) :
      Uniform asked answers ends (.inner document next) (.inner document' next')
  | named {name : String} {next : Schema → Binding α} {next' : Schema → Binding α'}
      (rest : ∀ schema schema', answers schema schema' →
        Uniform asked answers ends (next schema) (next' schema')) :
      Uniform asked answers ends (.named name next) (.named name next')

theorem Uniform.bind {next : α → Binding β} {next' : α' → Binding β'}
    (uniform : Uniform asked answers ends script script')
    (rest : ∀ result result', ends result result' →
      Uniform asked answers ends' (next result) (next' result')) :
    Uniform asked answers ends' (script >>= next) (script' >>= next') := by
  induction uniform with
  | done held => exact rest _ _ held
  | failed error => exact .failed error
  | inner held _ ih => exact .inner held ih
  | named _ ih => exact .named ih

theorem Uniform.map {f : α → β} {f' : α' → β'} (uniform : Uniform asked answers ends script script')
    (each : ∀ result result', ends result result' → ends' (f result) (f' result')) :
    Uniform asked answers ends' (script >>= fun result => pure (f result))
      (script' >>= fun result => pure (f' result)) :=
  uniform.bind fun result result' held => .done (each result result' held)

theorem uniform_ofExcept {result result' : Except CompileError α} (same : result = result') :
    Uniform asked answers Eq (ofExcept result) (ofExcept result') := by
  subst same
  cases result with
  | ok value => exact .done rfl
  | error error => exact .failed error

/-- Runs that get related answers end alike, and with the same references. -/
theorem Uniform.run {inner inner' : Value → Compiling Schema} {named named' : String → Compiling Schema}
    {caches : Cache → Cache → Prop} (uniform : Uniform asked answers ends script script')
    (referring : ∀ schema schema', answers schema schema' → schema.references = schema'.references)
    (onInner : ∀ document document' cache cache', asked document document' → caches cache cache' →
      Compiling.EndsAlike answers caches ((inner document).outcome cache) ((inner' document').outcome cache'))
    (onNamed : ∀ name cache cache', caches cache cache' → Compiling.EndsAlike answers caches
      ((named name).outcome cache) ((named' name).outcome cache'))
    (references : NameSet) {cache cache' : Cache} (kept : caches cache cache') :
    Compiling.EndsAlike (fun result result' => ends result.1 result'.1 ∧ result.2 = result'.2) caches
      ((script.run inner named references).outcome cache)
      ((script'.run inner' named' references).outcome cache') := by
  induction uniform generalizing references cache cache' with
  | done held => exact .ok ⟨held, rfl⟩ kept
  | failed error => exact .error error kept
  | @inner document document' next next' held _ ih =>
      have answer := onInner document document' cache cache' held kept
      rw [outcome_run_inner, outcome_run_inner]
      generalize (inner document).outcome cache = outcome at answer ⊢
      generalize (inner' document').outcome cache' = outcome' at answer ⊢
      cases answer with
      | error error kept => exact .error error kept
      | @ok schema schema' _ _ held kept =>
          dsimp only
          rw [referring _ _ held]
          exact ih schema schema' held _ kept
  | @named name next next' _ ih =>
      have answer := onNamed name cache cache' kept
      rw [outcome_run_named, outcome_run_named]
      generalize (named name).outcome cache = outcome at answer ⊢
      generalize (named' name).outcome cache' = outcome' at answer ⊢
      cases answer with
      | error error kept => exact .error error kept
      | @ok schema schema' _ _ held kept => exact ih schema schema' held _ kept

end Binding

/-- Whether two constraints differ in the schemas of their rules only. -/
inductive Bound.Beside (answers : Schema → Schema → Prop) : Bound → Bound → Prop where
  | mk (name : String) (terminal : Bool) (restriction : Option Guard) {rule rule' : Rule}
      (beside : rule.Beside (Subschema.Beside answers) rule') :
      Bound.Beside answers (.mk name terminal restriction rule) (.mk name terminal restriction rule')

theorem Bound.beside_toList {answers : Schema → Schema → Prop} {rule rule' : Option Rule}
    (rules : Option.Rel (Rule.Beside (Subschema.Beside answers)) rule rule') (name : String)
    (terminal : Bool) (restriction : Option Guard) :
    List.Forall₂ (Bound.Beside answers) (rule.map (Bound.mk name terminal restriction)).toList
      (rule'.map (Bound.mk name terminal restriction)).toList :=
  forall₂_toList (rel_map rules fun _ _ beside => .mk name terminal restriction beside)

namespace Context

open Binding

variable {related : Value → Value → Prop} {answers : Schema → Schema → Prop} {context context' : Context}
  {value value' : Value}

namespace ReadsBeside

variable (reads : context.ReadsBeside related context')

include reads

theorem uniform_subschema (position : Value.AtPosition related value value') :
    Uniform related answers (Subschema.Beside answers) (context.subschema value)
      (context'.subschema value') := by
  cases position with
  | same value =>
      cases value with
      | bool truth =>
          cases truth with
          | true => exact .done .accept
          | false => exact .done .reject
      | string name => exact .named fun schema schema' held => .done (.schema held)
      | object entries => exact .inner (reads.self _) fun schema schema' held => .done (.schema held)
      | _ =>
          unfold subschema
          rw [reads.malformed]
          exact .failed _
  | document held => exact .inner held fun schema schema' held => .done (.schema held)

theorem uniform_subschemasOfItems {items items' : List Value}
    (each : List.Forall₂ (Value.AtPosition related) items items') :
    Uniform related answers (List.Forall₂ (Subschema.Beside answers)) (context.subschemasOfItems items)
      (context'.subschemasOfItems items') := by
  induction each with
  | nil => exact .done .nil
  | cons position _ ih =>
      exact (reads.uniform_subschema position).bind fun _ _ first =>
        ih.map fun _ _ others => .cons first others

theorem uniform_subschemas (values : Value.LaidOut related .list value value') :
    Uniform related answers (List.Forall₂ (Subschema.Beside answers)) (context.subschemas value)
      (context'.subschemas value') := by
  unfold subschemas
  rw [reads.malformed]
  cases values with
  | list each =>
      cases each with
      | nil => exact .failed _
      | cons position each => exact reads.uniform_subschemasOfItems (.cons position each)
  | noList apart =>
      cases value with
      | array items => exact absurd rfl apart
      | _ => exact .failed _

theorem uniform_subschemaTable (values : Value.LaidOut related .table value value') :
    Uniform related answers (List.Forall₂ (AtKey (Subschema.Beside answers))) (context.subschemaTable value)
      (context'.subschemaTable value') := by
  have table {entries entries' : List (String × Value)}
      (each : List.Forall₂ (Value.EntryAtPosition related) entries entries') :
      Uniform related answers (List.Forall₂ (AtKey (Subschema.Beside answers)))
        (context.subschemasOfEntries entries) (context'.subschemasOfEntries entries') := by
    induction each with
    | nil => exact .done .nil
    | cons both _ ih =>
        cases both with
        | mk key position =>
            exact (reads.uniform_subschema position).bind fun _ _ first =>
              ih.map fun _ _ others => .cons ⟨rfl, first⟩ others
  unfold subschemaTable
  rw [reads.malformed]
  cases values with
  | table each => exact table each
  | noTable apart =>
      cases value with
      | object entries => exact absurd rfl apart
      | _ => exact .failed _

theorem uniform_siblingSubschema? {name : String}
    (listed : (name, Layout.whole) ∈ Registry.siblingLayouts) :
    Uniform related answers (Option.Rel (Subschema.Beside answers)) (context.siblingSubschema? name)
      (context'.siblingSubschema? name) := by
  have rel := reads.siblings _ listed
  unfold siblingSubschema?
  generalize context.sibling? name = found at rel ⊢
  generalize context'.sibling? name = found' at rel ⊢
  cases rel with
  | none => exact .done .none
  | some values => exact (reads.uniform_subschema values.position).map fun _ _ part => .some part

theorem uniform_items (values : Value.LaidOut related .items value value') :
    Uniform related answers (Rule.Beside (Subschema.Beside answers)) (context.items value)
      (context'.items value') := by
  cases values with
  | positional each =>
      refine (reads.uniform_subschemasOfItems each).bind fun _ _ positional => ?_
      exact (reads.uniform_siblingSubschema? (by decide)).map fun _ _ rest =>
        .items positional (rel_getD rest .accept)
  | single noList position =>
      rw [items_eq_of_noList _ noList, items_eq_of_noList _ (position.kind_eq ▸ noList)]
      exact (reads.uniform_subschema position).map fun _ _ rest => .items .nil rest

theorem uniform_patternEntries (values : Value.LaidOut related .table value value') :
    Uniform related answers (Rule.Beside (Subschema.Beside answers)) (context.patternEntries value)
      (context'.patternEntries value') := by
  refine (reads.uniform_subschemaTable values).bind fun schemas schemas' each => ?_
  have sources : Table.names schemas = Table.names schemas' := keys_eq_of_parallel each
  rw [sources]
  refine (uniform_ofExcept (reads.entryPatterns _)).map ?_
  rintro patterns _ rfl
  exact .patternEntries (forall₂_zip patterns (values_of_parallel each))

theorem uniform_additionalEntries (position : Value.AtPosition related value value') :
    Uniform related answers (Rule.Beside (Subschema.Beside answers)) (context.additionalEntries value)
      (context'.additionalEntries value') := by
  have names := reads.siblingNames (show ("entries", Layout.table) ∈ _ by decide)
  have sources := reads.siblingNames (show ("pattern_entries", Layout.table) ∈ _ by decide)
  refine (reads.uniform_subschema position).bind fun _ _ entry => ?_
  rw [names, sources]
  refine (uniform_ofExcept (reads.entryPatterns _)).map ?_
  rintro patterns _ rfl
  exact .additionalEntries _ patterns entry

theorem uniform_dependency (key : String) (position : Value.AtPosition related value value') :
    Uniform related answers (Dependency.Beside (Subschema.Beside answers)) (context.dependency key value)
      (context'.dependency key value') := by
  have whole : Uniform related answers (Dependency.Beside (Subschema.Beside answers))
      (context.subschema value >>= fun schema => pure (.whole schema))
      (context'.subschema value' >>= fun schema => pure (.whole schema)) :=
    (reads.uniform_subschema position).map fun _ _ part => .whole part
  cases position with
  | document held => exact whole
  | same value =>
      cases value with
      | array items =>
          refine (uniform_ofExcept (reads.namesOfItems items)).map ?_
          rintro names _ rfl
          exact .peers names
      | object entries => exact whole
      | bool truth => exact whole
      | _ =>
          unfold dependency
          rw [reads.malformed]
          exact .failed _

theorem uniform_dependencies (values : Value.LaidOut related .demands value value') :
    Uniform related answers (Rule.Beside (Subschema.Beside answers)) (context.dependencies value)
      (context'.dependencies value') := by
  have demands {entries entries' : List (String × Value)}
      (each : List.Forall₂ (Value.EntryAtPosition related) entries entries') :
      Uniform related answers (List.Forall₂ (AtKey (Dependency.Beside (Subschema.Beside answers))))
        (context.dependenciesOfEntries entries) (context'.dependenciesOfEntries entries') := by
    induction each with
    | nil => exact .done .nil
    | cons both _ ih =>
        cases both with
        | mk key position =>
            exact (reads.uniform_dependency key position).bind fun _ _ first =>
              ih.map fun _ _ others => .cons ⟨rfl, first⟩ others
  cases values with
  | demands table =>
      unfold dependencies
      rw [reads.malformed]
      cases table with
      | table each => exact (demands each).map fun _ _ each => .dependencies each
      | noTable apart =>
          cases value with
          | object entries => exact absurd rfl apart
          | _ => exact .failed _

theorem uniform_conditional (position : Value.AtPosition related value value') :
    Uniform related answers (Option.Rel (Rule.Beside (Subschema.Beside answers))) (context.conditional value)
      (context'.conditional value') := by
  refine (reads.uniform_subschema position).bind fun _ _ condition => ?_
  refine (reads.uniform_siblingSubschema? (by decide)).bind fun _ _ positive => ?_
  refine (reads.uniform_siblingSubschema? (by decide)).map fun _ _ negative => ?_
  rw [isNone_of_rel positive, isNone_of_rel negative]
  split
  · exact .none
  · exact .some (.conditional condition positive negative)

theorem uniform_rule {meaning : Meaning}
    (values : meaning = .remark ∨ Value.LaidOut related meaning.layout value value')
    (probed : meaning = .probe → ∀ sibling, context.sibling? sibling = context'.sibling? sibling) :
    Uniform related answers (Option.Rel (Rule.Beside (Subschema.Beside answers))) (context.rule meaning value)
      (context'.rule meaning value') := by
  rcases values with rfl | values
  · exact .done .none
  have checked : Uniform related answers (Option.Rel (Rule.Beside (Subschema.Beside answers)))
      (Binding.ofExcept (context.check meaning value) >>= fun check => pure (check.map Rule.check))
      (Binding.ofExcept (context'.check meaning value') >>= fun check =>
        pure (check.map Rule.check)) := by
    refine (uniform_ofExcept (reads.check values probed)).map ?_
    rintro check? _ rfl
    cases check? with
    | none => exact .none
    | some check => exact .some (.check check)
  cases meaning with
  | remark => exact .done .none
  | items => exact (reads.uniform_items values).map fun _ _ beside => .some beside
  | contains => exact (reads.uniform_subschema values.position).map fun _ _ item => .some (.contains item)
  | entries => exact (reads.uniform_subschemaTable values).map fun _ _ each => .some (.entries each)
  | patternEntries => exact (reads.uniform_patternEntries values).map fun _ _ beside => .some beside
  | additionalEntries =>
      exact (reads.uniform_additionalEntries values.position).map fun _ _ beside => .some beside
  | dependencies => exact (reads.uniform_dependencies values).map fun _ _ beside => .some beside
  | entryNames => exact (reads.uniform_subschema values.position).map fun _ _ name => .some (.entryNames name)
  | allOf => exact (reads.uniform_subschemas values).map fun _ _ each => .some (.allOf each)
  | anyOf => exact (reads.uniform_subschemas values).map fun _ _ each => .some (.anyOf each)
  | oneOf => exact (reads.uniform_subschemas values).map fun _ _ each => .some (.oneOf each)
  | negation =>
      exact (reads.uniform_subschema values.position).map fun _ _ excluded => .some (.negation excluded)
  | conditional => exact reads.uniform_conditional values.position
  | apply => exact (reads.uniform_subschema values.position).map fun _ _ whole => .some (.apply whole)
  | _ => exact checked

theorem uniform_bindType :
    Uniform related answers (AtKey (List.Forall₂ (Bound.Beside answers))) context.bindType
      context'.bindType := by
  have rel := reads.siblings ("type", .kinds) (by decide)
  unfold bindType
  rw [← reads.typeName?]
  cases context.typeName? with
  | none => exact .done ⟨rfl, .nil⟩
  | some typeName =>
      generalize context.sibling? "type" = found at rel ⊢
      generalize context'.sibling? "type" = found' at rel ⊢
      cases rel with
      | none => exact .done ⟨rfl, .nil⟩
      | some values =>
          have within := reads.at_constraint typeName
          cases values.eq_of_kinds
          refine (uniform_ofExcept (within.kinds _)).bind ?_
          rintro kinds _ rfl
          dsimp only
          rw [reads.finds.get]
          split
          · rename_i definition defined
            refine (within.uniform_rule (.inr (.refl _ _)) (within.probed _ _ defined)).map
              fun _ _ rules => ⟨rfl, ?_⟩
            exact Bound.beside_toList rules _ true none
          · exact .done ⟨rfl, .nil⟩

theorem uniform_bindConstraint {definition : Definition} {name : String}
    (values : definition.meaning = .remark ∨ Value.LaidOut related definition.meaning.layout value value')
    (probed : definition.meaning = .probe →
      ∀ sibling, context.sibling? sibling = context'.sibling? sibling) :
    Uniform related answers (List.Forall₂ (Bound.Beside answers))
      (context.bindConstraint definition name value) (context'.bindConstraint definition name value') := by
  unfold bindConstraint
  rw [reads.isExcluded, reads.restriction]
  split
  · rw [reads.strict, reads.declared]
    split
    · exact .failed _
    · exact .done .nil
  · exact ((reads.at_constraint name).uniform_rule values probed).map fun _ _ rules =>
      Bound.beside_toList rules name false _

theorem uniform_bindEntry {entry entry' : String × Value}
    (values : context.settings.constraints.ReadsEntry related entry entry') :
    Uniform related answers (List.Forall₂ (Bound.Beside answers)) (context.bindEntry entry)
      (context'.bindEntry entry') := by
  unfold bindEntry
  rw [← values.key, reads.finds.resolve, ← reads.typeName?, reads.strict]
  cases resolved : context.settings.constraints.resolve entry.1 with
  | none =>
      dsimp only
      split
      · exact .failed _
      · exact .done .nil
  | some name =>
      dsimp only
      rw [reads.finds.get]
      split
      · exact .done .nil
      · cases defined : context.settings.constraints.get name with
        | none => exact .done .nil
        | some definition =>
            have found : (context.settings.constraints.resolve entry.1).bind
                context.settings.constraints.get = some definition := by
              rw [resolved, Option.bind_some, defined]
            exact reads.uniform_bindConstraint (values.values definition found)
              (reads.probed name definition defined)

/-- Keys that a lenient document skips are skipped wherever they stand. -/
theorem uniform_bindEntries {entries entries' : List (String × Value)} (seen : List String)
    (inserted : Inserted
      (fun entry => context.strict = false ∧ context.settings.constraints.resolve entry.1 = none)
      (context.settings.constraints.ReadsEntry related) entries entries') :
    Uniform related answers (List.Forall₂ (Bound.Beside answers)) (context.bindEntries seen entries)
      (context'.bindEntries seen entries') := by
  induction inserted generalizing seen with
  | nil => exact .done .nil
  | @cons entry entry' _ _ values _ ih =>
      have same : context'.settings.constraints.resolve entry'.1 =
          context.settings.constraints.resolve entry.1 := by
        rw [← values.key, reads.finds.resolve]
      cases resolved : context.settings.constraints.resolve entry.1 with
      | none =>
          rw [bindEntries_of_unknown resolved, bindEntries_of_unknown (same.trans resolved), reads.strict,
            values.key]
          split
          · exact .failed _
          · exact ih seen
      | some name =>
          rw [bindEntries_of_resolved resolved, bindEntries_of_resolved (same.trans resolved)]
          split
          · exact .failed _
          · exact (reads.uniform_bindEntry values).bind fun _ _ bound =>
              (ih _).map fun _ _ others => List.rel_append bound others
  | @insert entry' _ _ skipped _ ih =>
      have lenient : context'.strict = false := reads.strict.symm.trans skipped.1
      have unknown : context'.settings.constraints.resolve entry'.1 = none :=
        (reads.finds.resolve _).trans skipped.2
      rw [bindEntries_of_unknown unknown, lenient, if_neg Bool.false_ne_true]
      exact ih seen

/-- The scripts of two documents that are the same but for documents at sub-schema positions, and for keys
that are skipped, treat the schemas that they get alike. -/
theorem uniform_bindAll (inserted : Inserted
      (fun entry => context.strict = false ∧ context.settings.constraints.resolve entry.1 = none)
      (context.settings.constraints.ReadsEntry related) context.entries context'.entries) :
    Uniform related answers (AtKey (List.Forall₂ (Bound.Beside answers))) context.bindAll
      context'.bindAll := by
  refine reads.uniform_bindType.bind ?_
  rintro ⟨declared, first⟩ ⟨_, first'⟩ ⟨rfl, both⟩
  exact ((reads.declaring declared).uniform_bindEntries [] inserted).map
    fun _ _ others => ⟨rfl, List.rel_append both others⟩

end ReadsBeside

end Context

/-- Mappings that are read alike compile alike, if the documents inside them and the schemas of names do, and
schemas with constraints beside each other are related. -/
theorem Site.compileWith_alike {site site' : Site} {compile compile' : Source → Compiling Schema}
    {source source' : Source} {entries entries' : List (String × Value)} {related : Value → Value → Prop}
    {answers : Schema → Schema → Prop} {caches : Cache → Cache → Prop} {cache cache' : Cache}
    (isMapping : source.document = .object entries) (isMapping' : source'.document = .object entries')
    (reads : (site.context source entries).ReadsBeside related (site'.context source' entries'))
    (inserted : Inserted
      (fun entry => source.strict = false ∧ site.settings.constraints.resolve entry.1 = none)
      (site.settings.constraints.ReadsEntry related) entries entries')
    (referring : ∀ schema schema', answers schema schema' → schema.references = schema'.references)
    (onInner : ∀ document document' cache cache', related document document' → caches cache cache' →
      Compiling.EndsAlike answers caches ((compile ⟨document, none, source.strict, 0⟩).outcome cache)
        ((compile' ⟨document', none, source'.strict, 0⟩).outcome cache'))
    (onNamed : ∀ name cache cache', caches cache cache' → Compiling.EndsAlike answers caches
      ((site.resolve compile name).outcome cache) ((site'.resolve compile' name).outcome cache'))
    (onSchema : ∀ declared constraints constraints' references,
      List.Forall₂ (Bound.Beside answers) constraints constraints' →
      answers (site.schema source declared constraints references)
        (site'.schema source' declared constraints' references))
    (kept : caches cache cache') :
    Compiling.EndsAlike answers caches ((site.compileWith compile source).outcome cache)
      ((site'.compileWith compile' source').outcome cache') := by
  have ran := (reads.uniform_bindAll inserted).run referring onInner onNamed [] kept
  unfold compileWith
  rw [isMapping, isMapping']
  dsimp only
  rw [Compiling.outcome_bind, Compiling.outcome_bind]
  generalize ((site.context source entries).bindAll.run _ _ []).outcome cache = outcome at ran ⊢
  generalize ((site'.context source' entries').bindAll.run _ _ []).outcome cache' = outcome' at ran ⊢
  cases ran with
  | error error kept => exact .error error kept
  | @ok result result' _ _ held kept =>
      obtain ⟨⟨declared, constraints⟩, references⟩ := result
      obtain ⟨⟨declared', constraints'⟩, references'⟩ := result'
      obtain ⟨⟨rfl, each⟩, rfl⟩ := held
      exact .ok (onSchema declared constraints constraints' references each) kept

end Conformance
