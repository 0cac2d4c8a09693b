import Conformance.Proofs.Compilation.Reading
import Conformance.Proofs.Relaxation.Keywords
/-!
Scripts that follow others. The script that binds a document leniently asks for what the strict one asks
for, as long as that does not fail (`Context.follows_bindAll`). What both end with stands side by side: the
same constraints, with guards that refuse less, and schemas that are related as those are that the two
scripts get.
-/

namespace Conformance

namespace Binding

variable {α α' β β' : Type} {answers answers' : Value → Schema → Schema → Prop}
  {related : α → α' → Prop} {related' : β → β' → Prop} {script : Binding α} {script' : Binding α'}

/-- Whether a script asks for what another asks for until that fails, and ends with something related, if
the schemas that both get for a document inside are related and those for a name are the same. -/
inductive Follows (answers : Value → Schema → Schema → Prop) (related : α → α' → Prop) :
    Binding α → Binding α' → Prop where
  | done {result : α} {result' : α'} (held : related result result') :
      Follows answers related (.done result) (.done result')
  | failed (error : CompileError) (script' : Binding α') :
      Follows answers related (.failed error) script'
  | inner {document : Value} {next : Schema → Binding α} {next' : Schema → Binding α'}
      (rest : ∀ schema schema', answers document schema schema' →
        Follows answers related (next schema) (next' schema')) :
      Follows answers related (.inner document next) (.inner document next')
  | named {name : String} {next : Schema → Binding α} {next' : Schema → Binding α'}
      (rest : ∀ schema, Follows answers related (next schema) (next' schema)) :
      Follows answers related (.named name next) (.named name next')

theorem Follows.bind {next : α → Binding β} {next' : α' → Binding β'}
    (follows : Follows answers related script script')
    (rest : ∀ result result', related result result' →
      Follows answers related' (next result) (next' result')) :
    Follows answers related' (script >>= next) (script' >>= next') := by
  induction follows with
  | done held => exact rest _ _ held
  | failed error script' => exact .failed error _
  | inner _ ih => exact .inner ih
  | named _ ih => exact .named ih

theorem Follows.map {f : α → β} {f' : α' → β'} (follows : Follows answers related script script')
    (each : ∀ result result', related result result' → related' (f result) (f' result')) :
    Follows answers related' (script >>= fun result => pure (f result))
      (script' >>= fun result => pure (f' result)) :=
  follows.bind fun result result' held => .done (each result result' held)

theorem follows_ofExcept {result : Except CompileError α} {result' : Except CompileError α'}
    (each : ∀ value, result = .ok value → ∃ value', result' = .ok value' ∧ related value value') :
    Follows answers related (ofExcept result) (ofExcept result') := by
  cases result with
  | error error => exact .failed error _
  | ok value =>
      obtain ⟨value', rfl, held⟩ := each value rfl
      exact .done held

theorem follows_ofExcept_of_toOption {result result' : Except CompileError α}
    (same : result.toOption = result'.toOption) :
    Follows answers Eq (ofExcept result) (ofExcept result') := by
  refine follows_ofExcept fun value isOk => ⟨value, ?_, rfl⟩
  exact toOption_eq_some.mp (same ▸ toOption_eq_some.mpr isOk)

/-- What is known of the first result beforehand. -/
theorem Follows.and_yields {post : α → Prop} (follows : Follows answers related script script')
    (yields : script.Yields (fun _ _ => True) (fun _ _ => True) post) :
    Follows answers (fun result result' => related result result' ∧ post result) script script' := by
  induction follows with
  | done held => exact .done ⟨held, yields⟩
  | failed error script' => exact .failed error script'
  | inner _ ih => exact .inner fun schema schema' held => ih schema schema' held (yields schema trivial)
  | named _ ih => exact .named fun schema => ih schema (yields schema trivial)

/-- Scripts that ask among documents need related answers for these documents only. -/
theorem Follows.among {documents : List Value} (follows : Follows answers related script script')
    (asks : script.AsksAmong documents)
    (weaker : ∀ document ∈ documents, ∀ schema schema', answers' document schema schema' →
      answers document schema schema') : Follows answers' related script script' := by
  induction follows with
  | done held => exact .done held
  | failed error script' => exact .failed error script'
  | inner _ ih =>
      exact .inner fun schema schema' held =>
        ih schema schema' (weaker _ asks.1 schema schema' held) (asks.2 schema)
  | named _ ih => exact .named fun schema => ih schema (asks.2 schema)

/-- A run of the second script gets through if one of the first does. -/
theorem Follows.run {inner inner' : Value → Compiling Schema} {named : String → Compiling Schema}
    (follows : Follows answers related script script')
    (answered : ∀ {document cache schema after}, (inner document).outcome cache = (.ok schema, after) →
      ∃ schema', (inner' document).outcome cache = (.ok schema', after) ∧
        answers document schema schema')
    {references references' last : NameSet} {cache after : Cache} {result : α}
    (ran : (script.run inner named references).outcome cache = (.ok (result, last), after)) :
    ∃ result' last', (script'.run inner' named references').outcome cache =
        (.ok (result', last'), after) ∧ related result result' := by
  induction follows generalizing references references' cache with
  | done held =>
      cases ran
      exact ⟨_, _, rfl, held⟩
  | failed error script' => cases ran
  | inner _ ih =>
      obtain ⟨schema, between, answer, rest⟩ := run_inner_ok ran
      obtain ⟨schema', answer', held⟩ := answered answer
      rw [outcome_run_inner, answer']
      exact ih schema schema' held rest
  | named _ ih =>
      obtain ⟨schema, between, answer, rest⟩ := run_named_ok ran
      rw [outcome_run_named, answer]
      exact ih schema rest

end Binding

/-- Whether two constraints have one name and rules side by side, and the second refuses no kinds that the
first lets pass. -/
inductive Bound.Softens (held : Schema → Schema → Prop) : Bound → Bound → Prop
  | mk (name : String) (terminal : Bool) {restriction restriction' : Option Guard} {rule rule' : Rule}
      (guards : Option.Rel Guard.Softens restriction restriction')
      (beside : rule.Beside (Subschema.Beside held) rule') :
      Bound.Softens held (.mk name terminal restriction rule) (.mk name terminal restriction' rule')

namespace Bound.Softens

variable {held : Schema → Schema → Prop} {bound bound' : Bound}

theorem eases (softens : Bound.Softens held bound bound') (undecided : bound.rule.deciding = [])
    (each : ∀ inner inner', held inner inner' → inner.behaviour.EasesEither inner'.behaviour) :
    bound.step.behaviour.EasesEither bound'.step.behaviour := by
  rcases softens with @⟨name, terminal, restriction, restriction', rule, rule', guards, beside⟩
  have none : rule.deciding = [] := undecided
  intro isPartial
  have parts := beside.mono fun _ _ both => both.behaviour Behaviour.eases_pass Behaviour.eases_refuse
    fun inner inner' related => each inner inner' related isPartial
  refine Bound.eases_step guards (parts.eases id ?_)
  rw [none, beside.deciding_eq_nil none]
  exact .nil

theorem completes (softens : Bound.Softens held bound bound') (undecided : bound.rule.deciding = [])
    (unchosen : bound.rule.alternatives = [])
    (each : ∀ inner inner', held inner inner' → inner.behaviour.EasesEither inner'.behaviour)
    (each' : ∀ inner inner', held inner inner' → inner.behaviour.Completes inner'.behaviour) :
    bound.step.behaviour.Completes bound'.step.behaviour := by
  rcases softens with ⟨name, terminal, guards, beside⟩
  have easing := beside.mono fun _ _ both => both.behaviour
    (Behaviour.EasesEither.refl _) (Behaviour.EasesEither.refl _) each
  have completing := beside.mono fun _ _ both => both.behaviour
    (Behaviour.Completes.refl _) (Behaviour.Completes.refl _) each'
  exact Bound.completes_step guards (completing.completes easing undecided unchosen)

end Bound.Softens

namespace Context

open Binding

/-- Contexts of one document, of which the second is lenient if the first is. -/
structure Softens (context context' : Context) : Prop where
  settings : context.settings = context'.settings
  entries : context.entries = context'.entries
  declared : context.declared = context'.declared
  milder : context.strict = false → context'.strict = false

section

variable {context context' : Context} {meaning : Meaning} {value : Value}

namespace Softens

theorem at_constraint (softens : context.Softens context') (name : String) :
    { context with constraint := name }.Softens { context' with constraint := name } :=
  ⟨softens.settings, softens.entries, softens.declared, softens.milder⟩

theorem sibling? (softens : context.Softens context') (name : String) :
    context.sibling? name = context'.sibling? name := by
  unfold Context.sibling?
  rw [softens.settings, softens.entries]

theorem siblingNames (softens : context.Softens context') (name : String) :
    context.siblingNames name = context'.siblingNames name := by
  unfold Context.siblingNames
  rw [softens.sibling?]

theorem isExclusive (softens : context.Softens context') (name : String) :
    context.isExclusive name = context'.isExclusive name := by
  unfold Context.isExclusive
  rw [softens.sibling?]

/-- But for unknown formats, a value is read as the same check, whether strictly or not. -/
theorem check (softens : context.Softens context') (notProbe : meaning ≠ .probe)
    {check? : Option Check} (read : context.check meaning value = .ok check?) :
    context'.check meaning value = .ok check? := by
  by_cases isFormat : meaning = .format
  · subst isFormat
    unfold Context.check at read ⊢
    dsimp only at read ⊢
    rw [softens.settings] at read
    cases value with
    | string name =>
        dsimp only at read ⊢
        split
        · rename_i ignored
          rwa [if_pos ignored] at read
        · rename_i heeded
          rw [if_neg heeded] at read
          split
          · rename_i grammar found
            rwa [found] at read
          · rename_i unknown
            rw [unknown] at read
            cases strict : context.strict with
            | true => simp [strict] at read
            | false => simpa [strict, softens.milder strict] using read
    | _ => cases read
  · have types : context.settings.types = context'.settings.types := by rw [softens.settings]
    have same : (context.check meaning value).toOption = (context'.check meaning value).toOption :=
      toOption_check notProbe (softens.isExclusive _) (softens.isExclusive _)
        (fun format => absurd format isFormat) (fun _ => toOption_kinds_of_types types value) fun _ => rfl
    exact toOption_eq_some.mp (same ▸ toOption_eq_some.mpr read)

end Softens

end

/-- Whether a script follows another, if the schemas that they get are related. -/
abbrev Follow {α α' : Type} (held : Schema → Schema → Prop) (related : α → α' → Prop) :
    Binding α → Binding α' → Prop :=
  Follows (fun _ => held) related

section

variable (context context' : Context) {held : Schema → Schema → Prop}
  (same : ∀ schema, held schema schema)

include same

theorem follows_subschema (value : Value) :
    Follow held (Subschema.Beside held) (context.subschema value) (context'.subschema value) := by
  cases value with
  | bool truth =>
      cases truth with
      | true => exact .done .accept
      | false => exact .done .reject
  | string name => exact .named fun schema => .done (.schema (same schema))
  | object entries => exact .inner fun schema schema' both => .done (.schema both)
  | _ => exact .failed _ _

theorem follows_subschemasOfItems (items : List Value) :
    Follow held (List.Forall₂ (Subschema.Beside held)) (context.subschemasOfItems items)
      (context'.subschemasOfItems items) := by
  induction items with
  | nil => exact .done .nil
  | cons item items ih =>
      refine (follows_subschema context context' same item).bind fun part part' first => ?_
      exact ih.map fun parts parts' others => .cons first others

theorem follows_subschemas (value : Value) :
    Follow held (List.Forall₂ (Subschema.Beside held)) (context.subschemas value)
      (context'.subschemas value) := by
  unfold Context.subschemas
  split
  · exact follows_subschemasOfItems context context' same _
  · exact .failed _ _

theorem follows_subschemasOfEntries (entries : List (String × Value)) :
    Follow held (List.Forall₂ (AtKey (Subschema.Beside held))) (context.subschemasOfEntries entries)
      (context'.subschemasOfEntries entries) := by
  induction entries with
  | nil => exact .done .nil
  | cons entry entries ih =>
      refine (follows_subschema context context' same entry.2).bind fun part part' first => ?_
      exact ih.map fun parts parts' others => .cons ⟨rfl, first⟩ others

theorem follows_subschemaTable (value : Value) :
    Follow held (List.Forall₂ (AtKey (Subschema.Beside held))) (context.subschemaTable value)
      (context'.subschemaTable value) := by
  unfold subschemaTable
  split
  · exact follows_subschemasOfEntries context context' same _
  · exact .failed _ _

theorem follows_dependency (key : String) (value : Value) :
    Follow held (Dependency.Beside (Subschema.Beside held)) (context.dependency key value)
      (context'.dependency key value) := by
  unfold dependency
  split
  · refine (follows_ofExcept_of_toOption (toOption_namesOfItems context context' _)).map ?_
    rintro names _ rfl
    exact .peers names
  · exact (follows_subschema context context' same _).map fun _ _ part => .whole part
  · exact (follows_subschema context context' same _).map fun _ _ part => .whole part
  · exact .failed _ _

theorem follows_dependencies (value : Value) :
    Follow held (Rule.Beside (Subschema.Beside held)) (context.dependencies value)
      (context'.dependencies value) := by
  have demands (entries : List (String × Value)) :
      Follow held (List.Forall₂ (AtKey (Dependency.Beside (Subschema.Beside held))))
        (context.dependenciesOfEntries entries) (context'.dependenciesOfEntries entries) := by
    induction entries with
    | nil => exact .done .nil
    | cons entry entries ih =>
        refine (follows_dependency context context' same entry.1 entry.2).bind fun _ _ first => ?_
        exact ih.map fun _ _ others => .cons ⟨rfl, first⟩ others
  unfold Context.dependencies
  split
  · exact (demands _).map fun _ _ each => .dependencies each
  · exact .failed _ _

theorem follows_patternEntries (value : Value) :
    Follow held (Rule.Beside (Subschema.Beside held)) (context.patternEntries value)
      (context'.patternEntries value) := by
  refine (follows_subschemaTable context context' same value).bind fun schemas schemas' each => ?_
  have names : Table.names schemas = Table.names schemas' := keys_eq_of_parallel each
  rw [names]
  refine (follows_ofExcept_of_toOption (toOption_entryPatterns context context' _)).map ?_
  rintro patterns _ rfl
  exact .patternEntries (forall₂_zip patterns (values_of_parallel each))

end

section

variable {context context' : Context} {held : Schema → Schema → Prop}
  (same : ∀ schema, held schema schema) (softens : context.Softens context')

include same softens

theorem follows_siblingSubschema? (name : String) :
    Follow held (Option.Rel (Subschema.Beside held)) (context.siblingSubschema? name)
      (context'.siblingSubschema? name) := by
  unfold siblingSubschema?
  rw [← softens.sibling? name]
  split
  · exact (follows_subschema context context' same _).map fun _ _ part => .some part
  · exact .done .none

theorem follows_items (value : Value) :
    Follow held (Rule.Beside (Subschema.Beside held)) (context.items value) (context'.items value) := by
  unfold Context.items
  split
  · refine (follows_subschemasOfItems context context' same _).bind fun _ _ positional => ?_
    exact (follows_siblingSubschema? same softens _).map fun _ _ rest =>
      .items positional (rel_getD rest .accept)
  · exact (follows_subschema context context' same _).map fun _ _ rest => .items .nil rest

theorem follows_additionalEntries (value : Value) :
    Follow held (Rule.Beside (Subschema.Beside held)) (context.additionalEntries value)
      (context'.additionalEntries value) := by
  unfold Context.additionalEntries
  rw [← softens.siblingNames, ← softens.siblingNames]
  refine (follows_subschema context context' same value).bind fun _ _ entry => ?_
  refine (follows_ofExcept_of_toOption (toOption_entryPatterns context context' _)).map ?_
  rintro patterns _ rfl
  exact .additionalEntries _ patterns entry

theorem follows_conditional (value : Value) :
    Follow held (Option.Rel (Rule.Beside (Subschema.Beside held))) (context.conditional value)
      (context'.conditional value) := by
  refine (follows_subschema context context' same value).bind fun _ _ condition => ?_
  refine (follows_siblingSubschema? same softens _).bind fun positive positive' first => ?_
  refine (follows_siblingSubschema? same softens _).map fun negative negative' second => ?_
  rw [isNone_of_rel first, isNone_of_rel second]
  split
  · exact .none
  · exact .some (.conditional condition first second)

/-- What is bound for a constraint is the same rule, but for the schemas in it. -/
theorem follows_rule (meaning : Meaning) (notProbe : meaning ≠ .probe) (value : Value) :
    Follow held (Option.Rel (Rule.Beside (Subschema.Beside held))) (context.rule meaning value)
      (context'.rule meaning value) := by
  have part := follows_subschema context context' same value
  have parts := follows_subschemas context context' same value
  have checked : Follow held (Option.Rel (Rule.Beside (Subschema.Beside held)))
      (Binding.ofExcept (context.check meaning value) >>= fun check => pure (check.map Rule.check))
      (Binding.ofExcept (context'.check meaning value) >>= fun check =>
        pure (check.map Rule.check)) := by
    have reads : Follow held Eq (Binding.ofExcept (context.check meaning value))
        (Binding.ofExcept (context'.check meaning value)) :=
      follows_ofExcept fun check? read => ⟨check?, softens.check notProbe read, rfl⟩
    refine reads.map ?_
    rintro check? _ rfl
    cases check? with
    | none => exact .none
    | some check => exact .some (.check check)
  cases meaning with
  | remark => exact .done .none
  | probe => exact absurd rfl notProbe
  | items => exact (follows_items same softens value).map fun _ _ beside => .some beside
  | contains => exact part.map fun _ _ item => .some (.contains item)
  | entries =>
      exact (follows_subschemaTable context context' same value).map fun _ _ each =>
        .some (.entries each)
  | patternEntries =>
      exact (follows_patternEntries context context' same value).map fun _ _ beside => .some beside
  | additionalEntries =>
      exact (follows_additionalEntries same softens value).map fun _ _ beside => .some beside
  | dependencies =>
      exact (follows_dependencies context context' same value).map fun _ _ beside => .some beside
  | entryNames => exact part.map fun _ _ name => .some (.entryNames name)
  | allOf => exact parts.map fun _ _ each => .some (.allOf each)
  | anyOf => exact parts.map fun _ _ each => .some (.anyOf each)
  | oneOf => exact parts.map fun _ _ each => .some (.oneOf each)
  | negation => exact part.map fun _ _ excluded => .some (.negation excluded)
  | conditional => exact follows_conditional same softens value
  | apply => exact part.map fun _ _ whole => .some (.apply whole)
  | _ => exact checked

end

end Context

end Conformance
