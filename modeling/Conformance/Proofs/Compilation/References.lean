import Conformance.Proofs.Compilation.Run
/-!
The references of a schema. What a document asks for while it is compiled does not depend on what
the answers are, so that two schemas of one document have the same references, whichever cache each
of them was compiled in (`Site.references_eq`).
-/

namespace Conformance

namespace Binding

variable {α β : Type}

/-- Scripts that ask for the same schemas in the same order, whatever the answers are, as long as
neither fails. Their results are related. -/
inductive Alike (related : α → α → Prop) : Binding α → Binding α → Prop where
  | done {first second : α} (results : related first second) :
      Alike related (.done first) (.done second)
  | failed_left (error : CompileError) (script : Binding α) : Alike related (.failed error) script
  | failed_right (error : CompileError) (script : Binding α) : Alike related script (.failed error)
  | inner (document : Value) {next next' : Schema → Binding α}
      (rest : ∀ schema schema', Alike related (next schema) (next' schema')) :
      Alike related (.inner document next) (.inner document next')
  | named (name : String) {next next' : Schema → Binding α}
      (rest : ∀ schema schema', Alike related (next schema) (next' schema')) :
      Alike related (.named name next) (.named name next')

theorem Alike.bind {related : α → α → Prop} {related' : β → β → Prop} {script script' : Binding α}
    {next next' : α → Binding β} (alike : Alike related script script')
    (rest : ∀ first second, related first second → Alike related' (next first) (next' second)) :
    Alike related' (script >>= next) (script' >>= next') := by
  induction alike with
  | done results => exact rest _ _ results
  | failed_left error script => exact .failed_left error _
  | failed_right error script => exact .failed_right error _
  | inner document alike ih => exact .inner document ih
  | named name alike ih => exact .named name ih

/-- Scripts that ask for the same schemas collect the same references. -/
theorem Alike.run {related : α → α → Prop} {script script' : Binding α}
    {inner inner' : Value → Compiling Schema} {named named' : String → Compiling Schema}
    (alike : Alike related script script')
    (same : ∀ document {cache cache' after after' : Cache} {schema schema' : Schema},
      (inner document).outcome cache = (.ok schema, after) →
      (inner' document).outcome cache' = (.ok schema', after') →
      schema.references = schema'.references)
    {references left right : NameSet} {cache cache' after after' : Cache} {first second : α}
    (ran : (script.run inner named references).outcome cache = (.ok (first, left), after))
    (ran' : (script'.run inner' named' references).outcome cache' =
      (.ok (second, right), after')) : left = right := by
  induction alike generalizing references cache cache' with
  | done results =>
      cases ran
      cases ran'
      rfl
  | failed_left error script => cases ran
  | failed_right error script => cases ran'
  | inner document alike ih =>
      obtain ⟨schema, between, answered, rest⟩ := run_inner_ok ran
      obtain ⟨schema', between', answered', rest'⟩ := run_inner_ok ran'
      rw [same document answered answered'] at rest
      exact ih schema schema' rest rest'
  | named name alike ih =>
      obtain ⟨schema, between, answered, rest⟩ := run_named_ok ran
      obtain ⟨schema', between', answered', rest'⟩ := run_named_ok ran'
      exact ih schema schema' rest rest'

/-- A script whose questions do not depend on the answers. -/
def Steady (script : Binding α) : Prop := Alike (fun _ _ => True) script script

/-- Scripts that ask for nothing ask for the same. -/
theorem alike_ofExcept (first second : Except CompileError α) :
    Alike (fun _ _ => True) (ofExcept first) (ofExcept second) := by
  cases first with
  | error error => exact .failed_left error _
  | ok first =>
      cases second with
      | error error => exact .failed_right error _
      | ok second => exact .done trivial

theorem alike_ofExcept_self (result : Except CompileError α) :
    Alike Eq (ofExcept result) (ofExcept result) := by
  cases result with
  | error error => exact .failed_left error _
  | ok result => exact .done rfl

theorem Steady.bind {related : β → β → Prop} {script : Binding α} {next next' : α → Binding β}
    (steady : Steady script)
    (rest : ∀ first second, Alike related (next first) (next' second)) :
    Alike related (script >>= next) (script >>= next') :=
  Alike.bind steady fun first second _ => rest first second

/-- A script goes on being steady when what comes after it asks for nothing. -/
theorem Steady.map {script : Binding α} (steady : Steady script) (next next' : α → β) :
    Alike (fun _ _ => True) (script >>= fun result => pure (next result))
      (script >>= fun result => pure (next' result)) :=
  steady.bind fun _ _ => .done trivial

end Binding

namespace Context

open Binding

variable (context : Context)

theorem steady_subschema (value : Value) : Steady (context.subschema value) := by
  unfold subschema
  split
  · exact .done trivial
  · exact .done trivial
  · exact .named _ fun _ _ => .done trivial
  · exact .inner _ fun _ _ => .done trivial
  · exact .failed_left _ _

theorem steady_subschemasOfItems (values : List Value) :
    Steady (context.subschemasOfItems values) := by
  induction values with
  | nil => exact .done trivial
  | cons value values ih =>
      exact (steady_subschema context value).bind fun _ _ => ih.map _ _

theorem steady_subschemas (value : Value) : Steady (context.subschemas value) := by
  unfold subschemas
  split
  · exact steady_subschemasOfItems context _
  · exact .failed_left _ _

theorem steady_subschemasOfEntries (entries : List (String × Value)) :
    Steady (context.subschemasOfEntries entries) := by
  induction entries with
  | nil => exact .done trivial
  | cons entry entries ih =>
      exact (steady_subschema context entry.2).bind fun _ _ => ih.map _ _

theorem steady_subschemaTable (value : Value) : Steady (context.subschemaTable value) := by
  unfold subschemaTable
  split
  · exact steady_subschemasOfEntries context _
  · exact .failed_left _ _

theorem steady_siblingSubschema? (name : String) : Steady (context.siblingSubschema? name) := by
  unfold siblingSubschema?
  split
  · exact (steady_subschema context _).map _ _
  · exact .done trivial

theorem steady_items (value : Value) : Steady (context.items value) := by
  unfold items
  split
  · exact (steady_subschemasOfItems context _).bind fun _ _ =>
      (steady_siblingSubschema? context _).map _ _
  · exact (steady_subschema context _).map _ _

theorem steady_patternEntries (value : Value) : Steady (context.patternEntries value) :=
  (steady_subschemaTable context value).bind fun _ _ =>
    (alike_ofExcept _ _).bind fun _ _ _ => .done trivial

theorem steady_additionalEntries (value : Value) : Steady (context.additionalEntries value) :=
  (steady_subschema context value).bind fun _ _ =>
    (alike_ofExcept _ _).bind fun _ _ _ => .done trivial

theorem steady_dependency (key : String) (value : Value) :
    Steady (context.dependency key value) := by
  unfold dependency
  split
  · exact (alike_ofExcept _ _).bind fun _ _ _ => .done trivial
  · exact (steady_subschema context _).map _ _
  · exact (steady_subschema context _).map _ _
  · exact .failed_left _ _

theorem steady_dependenciesOfEntries (entries : List (String × Value)) :
    Steady (context.dependenciesOfEntries entries) := by
  induction entries with
  | nil => exact .done trivial
  | cons entry entries ih =>
      exact (steady_dependency context entry.1 entry.2).bind fun _ _ => ih.map _ _

theorem steady_dependencies (value : Value) : Steady (context.dependencies value) := by
  unfold dependencies
  split
  · exact (steady_dependenciesOfEntries context _).map _ _
  · exact .failed_left _ _

theorem steady_conditional (value : Value) : Steady (context.conditional value) :=
  (steady_subschema context value).bind fun _ _ =>
    (steady_siblingSubschema? context _).bind fun _ _ =>
      (steady_siblingSubschema? context _).map _ _

theorem steady_rule (meaning : Meaning) (value : Value) : Steady (context.rule meaning value) := by
  unfold rule
  split
  · exact .done trivial
  · exact (steady_items context value).map _ _
  · exact (steady_subschema context value).map _ _
  · exact (steady_subschemaTable context value).map _ _
  · exact (steady_patternEntries context value).map _ _
  · exact (steady_additionalEntries context value).map _ _
  · exact (steady_dependencies context value).map _ _
  · exact (steady_subschema context value).map _ _
  · exact (steady_subschemas context value).map _ _
  · exact (steady_subschemas context value).map _ _
  · exact (steady_subschemas context value).map _ _
  · exact (steady_subschema context value).map _ _
  · exact steady_conditional context value
  · exact (steady_subschema context value).map _ _
  · exact (alike_ofExcept _ _).bind fun _ _ _ => .done trivial

/-- The kinds that the type of a document admits do not depend on any answer. -/
theorem alike_bindType :
    Alike (fun first second => first.1 = second.1) context.bindType context.bindType := by
  unfold bindType
  split
  · refine (alike_ofExcept_self _).bind ?_
    rintro kinds _ rfl
    split
    · exact (steady_rule _ _ _).bind fun _ _ => .done rfl
    · exact .done rfl
  · exact .done rfl

theorem steady_bindConstraint (definition : Definition) (name : String) (value : Value) :
    Steady (context.bindConstraint definition name value) := by
  unfold bindConstraint
  split
  · split
    · exact .failed_left _ _
    · exact .done trivial
  · exact (steady_rule _ _ _).map _ _

theorem steady_bindEntries (seen : List String) (entries : List (String × Value)) :
    Steady (context.bindEntries seen entries) := by
  induction entries generalizing seen with
  | nil => exact .done trivial
  | cons entry entries ih =>
      unfold bindEntries
      split
      · split
        · exact .failed_left _ _
        · exact ih seen
      · split
        · exact .failed_left _ _
        · split
          · exact (ih _).map _ _
          · split
            · exact (steady_bindConstraint context _ _ _).bind fun _ _ => (ih _).map _ _
            · exact (ih _).map _ _

theorem steady_bindAll : Steady context.bindAll := by
  refine (alike_bindType context).bind ?_
  rintro ⟨declared, first⟩ ⟨_, second⟩ rfl
  exact (steady_bindEntries _ _ _).map _ _

end Context

namespace Site

variable {site : Site} {source : Source} {schema schema' : Schema}
  {cache cache' after after' : Cache}

/-- Schemas that the same settings make of the same document have the same references. -/
theorem references_eq {levels levels' : Nat}
    (compiled : (site.compileWithin levels source).outcome cache = (.ok schema, after))
    (compiled' : (site.compileWithin levels' source).outcome cache' = (.ok schema', after')) :
    schema.references = schema'.references := by
  induction levels generalizing levels' source schema schema' cache cache' after after' with
  | zero => cases compiled
  | succ below ih =>
      obtain ⟨below', rfl, compiled'⟩ := compileWithin_ok compiled'
      obtain ⟨entries, _, _, references, isObject, ran, rfl⟩ := compileWith_ok compiled
      obtain ⟨entries', _, _, references', isObject', ran', rfl⟩ := compileWith_ok compiled'
      rw [isObject] at isObject'
      cases isObject'
      exact (Context.steady_bindAll (site.context source entries)).run
        (fun _ _ _ _ _ _ _ answered answered' => ih answered answered') ran ran'

end Site

end Conformance
