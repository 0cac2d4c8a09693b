import Conformance.Proofs.Cache.Keeping
import Conformance.Proofs.Compilation.Constraints
import Conformance.Proofs.Compilation.Shape
import Conformance.Proofs.Compilation.Spelling
import Conformance.Proofs.Compilation.Subschemas
import Conformance.Proofs.Conversion.Inspection
import Conformance.Proofs.Satisfaction.Document
/-!
Documents without repairs. Over a built-in registry, a schema whose documents use none of the constraints
that repair instances converts what it lets pass to itself and refuses everything else, for the constraint
that its report names first (`Environment.Reachable.converts_iff_valid`). This passes from the schemas
that a document names to its own, so that it holds of all schemas that were ever cached.
-/

namespace Conformance

/-- Whether something holds of the document of a schema and of the documents of all schemas inside, those
that were asked for by name among them. -/
inductive Schema.EachDocument (holds : List (String × Value) → Prop) : Schema → Prop
  | mk {schema : Schema} (here : ∀ entries, schema.document = .object entries → holds entries)
      (inside : ∀ bound ∈ schema.constraints, bound.rule.BuiltOf (EachDocument holds)) :
      EachDocument holds schema

/-- Whether the constraints of a schema only look at instances. -/
def Schema.Inspects (schema : Schema) : Prop :=
  ∀ bound ∈ schema.constraints, bound.step.behaviour.Inspects

namespace Schema.Inspects

variable {schema : Schema}

theorem behaviour (inspects : schema.Inspects) : schema.behaviour.Inspects := by
  obtain ⟨header, constraints⟩ := schema
  unfold Schema.behaviour
  rw [stepsOf_eq_map]
  exact Step.inspects_sequence (List.forall_mem_map.mpr inspects)

theorem head?_of_refused (inspects : schema.Inspects) {subject : Value} {isPartial : Bool}
    {failure : Failure} (refused : schema.convert subject isPartial = .error failure) :
    ∃ name, ((schema.validate subject isPartial).outcomes.find? fun outcome =>
        outcome.2.isSome).map Prod.fst = some name ∧
      failure.path.head? = some (.constraint name) := by
  obtain ⟨header, constraints⟩ := schema
  unfold Schema.convert Schema.behaviour at refused
  have steps : ∀ step ∈ stepsOf constraints, step.behaviour.Inspects := by
    rw [stepsOf_eq_map]
    exact List.forall_mem_map.mpr inspects
  exact Step.head?_of_refused steps refused

end Schema.Inspects

/-- Whether a constraint is bound to checks that repair instances. -/
def Meaning.repairs : Meaning → Bool
  | .ofKinds => true
  | .constant => true
  | .maximum => true
  | .minimum => true
  | .maxLength => true
  | .maxSize => true
  | .uniqueItems => true
  | _ => false

namespace Registry

/-- The constraints that repair instances, by their names in the base registry. -/
def repairing : List String :=
  ["type", "const", "maximum", "minimum", "max_length", "max_items", "unique_items"]

/-- Whether no key of a document denotes a constraint that repairs instances. -/
def RepairsNothing (registry : Registry) (entries : List (String × Value)) : Prop :=
  ∀ entry ∈ entries, ∀ name ∈ repairing, registry.spells name entry.1 = false

instance (registry : Registry) (entries : List (String × Value)) :
    Decidable (registry.RepairsNothing entries) :=
  inferInstanceAs (Decidable
    (∀ entry ∈ entries, ∀ name ∈ repairing, registry.spells name entry.1 = false))

/-- Whether the constraints that are bound to repairing checks are listed as such, but for the bounds on
the size of something else than arrays. -/
def ListsRepairs (registry : Registry) : Prop :=
  ∀ entry ∈ registry.definitions, entry.2.meaning.repairs = true →
    (∃ name ∈ repairing, registry.resolve name = some entry.1) ∨
      entry.2.meaning = .maxSize ∧ ¬ Kind.array ∈ entry.2.applicableKinds

instance (registry : Registry) : Decidable registry.ListsRepairs :=
  inferInstanceAs (Decidable (∀ entry ∈ registry.definitions, entry.2.meaning.repairs = true →
    (∃ name ∈ repairing, registry.resolve name = some entry.1) ∨
      entry.2.meaning = .maxSize ∧ ¬ Kind.array ∈ entry.2.applicableKinds))

theorem listsRepairs_base : base.ListsRepairs := by
  rw [base_eq]
  decide +kernel

theorem listsRepairs_jsonSchema : jsonSchema.ListsRepairs := by
  rw [jsonSchema_eq]
  decide +kernel

variable {registry : Registry} {entries : List (String × Value)}

/-- Of the constraints of a document that repairs nothing, those that are bound to repairing checks are
bounds on sizes. -/
theorem maxSize_of_repairs (canonical : registry.IsCanonical) (lists : registry.ListsRepairs)
    (nothing : registry.RepairsNothing entries) {entry : String × Value} (member : entry ∈ entries)
    {name : String} (resolved : registry.resolve entry.1 = some name) {definition : Definition}
    (defined : registry.get name = some definition) (repairs : definition.meaning.repairs = true) :
    definition.meaning = .maxSize ∧ ¬ Kind.array ∈ definition.applicableKinds := by
  have listed := Table.mem_of_lookup (canonical.lookup_of_get resolved defined)
  rcases lists (name, definition) listed repairs with
    ⟨repairing, listed, spelled⟩ | maxSize
  · have apart := nothing entry member repairing listed
    unfold spells at apart
    rw [spelled] at apart
    exact absurd resolved (beq_eq_false_iff_ne.mp apart)
  · exact maxSize

theorem RepairsNothing.find?_type (nothing : registry.RepairsNothing entries) :
    registry.find? entries "type" = none := by
  rw [find?_eq, Option.map_eq_none_iff, List.find?_eq_none]
  intro entry member
  rw [nothing entry member "type" List.mem_cons_self]
  exact Bool.false_ne_true

end Registry

namespace Rule

variable {rule : Rule}

theorem inspects_demandsOf {demands : List (String × Dependency)}
    (made : (Rule.dependencies demands).MadeOf Behaviour.Inspects) :
    ∀ demand ∈ demandsOf demands, ∀ behaviour, demand.2 = .whole behaviour →
      behaviour.Inspects := by
  rw [demandsOf_eq_map]
  intro demand member behaviour whole
  obtain ⟨⟨name, dependency⟩, listed, rfl⟩ := List.mem_map.mp member
  cases dependency with
  | peers names => cases whole
  | whole schema =>
      cases whole
      exact made schema (List.mem_flatMap.mpr ⟨_, listed, List.mem_singleton.mpr rfl⟩)

/-- A rule that is made of behaviours that only look, and is no check that repairs, only looks. -/
theorem inspects (made : rule.MadeOf Behaviour.Inspects)
    (plain : ∀ check, rule = .check check → check.repairs = false) : rule.behaviour.Inspects := by
  unfold MadeOf at made
  cases rule with
  | check check => exact Behaviour.inspects_ofRule (plain check rfl)
  | items positional rest =>
      obtain ⟨each, others⟩ := List.forall_mem_append.mp made
      exact Behaviour.inspects_items (forall_behavioursOf each) (others rest List.mem_cons_self)
  | contains item => exact Behaviour.inspects_ofCheck _
  | entries listed => exact Behaviour.inspects_entries (forall_entryBehavioursOf made)
  | patternEntries listed => exact Behaviour.inspects_patternEntries (forall_patternBehavioursOf made)
  | additionalEntries listed patterns entry =>
      exact Behaviour.inspects_additionalEntries (made entry List.mem_cons_self) listed patterns
  | dependencies demands => exact Behaviour.inspects_dependencies (inspects_demandsOf made)
  | entryNames name => exact Behaviour.inspects_ofCheck _
  | allOf branches => exact Behaviour.inspects_allOf (forall_behavioursOf made)
  | anyOf branches => exact Behaviour.inspects_anyOf (forall_behavioursOf made)
  | oneOf branches => exact Behaviour.inspects_oneOf (forall_behavioursOf made)
  | negation excluded => exact Behaviour.inspects_ofCheck _
  | conditional condition positive negative =>
      obtain ⟨_, branches⟩ := List.forall_mem_cons.mp made
      obtain ⟨first, second⟩ := List.forall_mem_append.mp branches
      exact Behaviour.inspects_conditional (forall_behaviourOf? first) (forall_behaviourOf? second)
  | apply whole => exact Behaviour.inspects_under (made whole List.mem_cons_self) _

/-- A bound on sizes only looks at what is no array, and arrays are kept from it. -/
theorem inspects_guarded (made : rule.MadeOf Behaviour.Inspects) {applicable : KindSet}
    (strict : Bool) (plain : ∀ check, rule = .check check → check.repairs = true →
      ¬ Kind.array ∈ applicable ∧ ∃ limit, check = .maxSize limit) :
    (rule.behaviour.guarded applicable strict).Inspects := by
  refine Behaviour.inspects_guarded strict fun subject applies => ?_
  by_cases repairing : ∃ check, rule = .check check ∧ check.repairs = true
  · obtain ⟨check, rfl, repairs⟩ := repairing
    obtain ⟨noArray, limit, rfl⟩ := plain check rfl repairs
    exact Behaviour.inspectsAt_maxSize limit fun isArray => noArray (isArray ▸ applies)
  · refine inspects made (fun check same => ?_) subject
    exact Bool.eq_false_iff.mpr fun repairs => repairing ⟨check, same, repairs⟩

end Rule

namespace Context

variable {context : Context} {good : Schema → Prop}

/-- A repairing check is what a repairing constraint is read as. -/
theorem repairs_of_check {meaning : Meaning} {value : Value} {check : Check}
    (read : context.check meaning value = .ok (some check)) (repairs : check.repairs = true) :
    meaning.repairs = true ∧ (meaning = .maxSize → ∃ limit, check = .maxSize limit) := by
  unfold Context.check at read
  split at read
  all_goals grind [map_eq_ok, Meaning.repairs, Check.repairs]

/-- Whether a rule is made of good schemas, for a constraint that an entry of a document denotes. -/
def Makes (context : Context) (good : Schema → Prop) (name : String) (definition : Definition)
    (rule : Rule) : Prop :=
  rule.BuiltOf good ∧ ∃ entry ∈ context.entries,
    context.settings.constraints.resolve entry.1 = some name ∧
    context.settings.constraints.get name = some definition ∧
    ∃ inside : Context, rule.IsOf inside definition.meaning entry.2

/-- What is bound for a document that is made of good schemas. -/
theorem yields_made_bindAll
    (typed : ((context.settings.constraints.resolve "type").bind
      context.settings.constraints.get).map Definition.meaning = some .ofKinds) :
    EndsBuilt good (fun bound => ∃ others : List Bound,
      (bound = (none, others) ∨ ∃ name kinds, bound = (some kinds, .ofType name kinds :: others)) ∧
      ∀ other ∈ others, { context with declared := bound.1 }.BoundFor (context.Makes good) other)
      context.bindAll := by
  refine (yields_constraints_bindAll typed fun declared entry name definition introduces => ?_).mono
    fun bound ⟨others, isType, _, made⟩ => ⟨others, isType, made⟩
  have built := @yields_subschemas_rule
    { context with declared := declared, constraint := name } good definition.meaning entry.2
  refine (built.and (yields_shape_rule _ definition.meaning entry.2)).mono ?_
  exact fun rule? both rule same => ⟨both.1 rule same, entry, introduces.mem, introduces.resolved,
    introduces.defined, _, both.2 rule same⟩

theorem yields_untyped_bindAll {known : Value → Schema → Prop} {named : String → Schema → Prop}
    (untyped : context.sibling? "type" = none) :
    context.bindAll.Yields known named fun bound => bound.1 = none := by
  have bindType : context.bindType.Yields known named fun bound => bound = (none, []) := by
    unfold bindType
    rw [untyped]
    cases context.typeName? <;> rfl
  refine bindType.bind fun bound untyped => ?_
  subst untyped
  exact (Binding.yields_trivial _).bind fun others _ => rfl

end Context

namespace Site

variable {site : Site} {source : Source} {schema : Schema} {cache after : Cache}
  {holds : List (String × Value) → Prop}

/-- Whether a schema only looks at instances if none of its documents repairs anything. -/
def Inspects (site : Site) (schema : Schema) : Prop :=
  site.settings.constraints.Regular → site.settings.constraints.IsCanonical →
    site.settings.constraints.ListsRepairs →
    schema.EachDocument site.settings.constraints.RepairsNothing → schema.Inspects

/-- A schema only looks if those that its document asks for do. Since the document has no type, every
constraint is guarded by its kinds. -/
theorem inherits_inspects (site : Site) : site.Inherits site.Inspects := by
  intro source entries isObject
  by_cases plain : site.settings.constraints.Regular ∧ site.settings.constraints.IsCanonical ∧
    site.settings.constraints.ListsRepairs ∧ site.settings.constraints.RepairsNothing entries
  · obtain ⟨regular, canonical, lists, nothing⟩ := plain
    have made := @Context.yields_made_bindAll (site.context source entries) site.Inspects regular.typed
    have untyped : (site.context source entries).sibling? "type" = none := nothing.find?_type
    refine (made.and (Context.yields_untyped_bindAll untyped)).mono ?_
    rintro ⟨_, bounds⟩ ⟨⟨others, isType, made⟩, rfl⟩ references _ _ _ ⟨_, inside⟩
    have same : bounds = others := by
      rcases isType with untyped | ⟨name, kinds, typed⟩
      · exact congrArg Prod.snd untyped
      · cases typed
    subst same
    intro other member
    obtain ⟨definition, rule, isRule, built, entry, listed, resolved, defined, _, isOf⟩ :=
      made other member
    have documents := inside other member
    rw [isRule] at documents ⊢
    have inspects : rule.BuiltOf fun inner => inner.behaviour.Inspects :=
      fun part position inner isInner =>
        (built part position inner isInner regular canonical lists
          (documents part position inner isInner)).behaviour
    refine Rule.inspects_guarded (inspects.madeOf Behaviour.inspects_pass Behaviour.inspects_refuse)
      _ fun check isCheck repairs => ?_
    subst isCheck
    obtain ⟨repairing, isMaxSize⟩ := Context.repairs_of_check isOf repairs
    have maxSize := Registry.maxSize_of_repairs canonical lists nothing listed resolved defined repairing
    exact ⟨maxSize.2, isMaxSize maxSize.1⟩
  · refine (Binding.yields_trivial _).mono fun bound _ references regular canonical lists
      documents => ?_
    cases documents with
    | mk here _ => exact absurd ⟨regular, canonical, lists, here entries isObject⟩ plain

/-- What holds of all documents that stand in a document, and of those of the schemas that it names,
holds of all documents of the schema that it compiles to. -/
theorem eachDocument_of_compileWithin (regular : site.settings.constraints.Regular)
    (allFresh : site.AllFresh cache) {levels : Nat}
    (throughout : site.settings.constraints.Throughout (fun entries => holds entries ∧
      ∀ name, .string name ∈ site.settings.constraints.subschemas entries →
        ∀ cached, Table.lookup cache name = some cached → cached.EachDocument holds) source.document)
    (compiled : (site.compileWithin levels source).outcome cache = (.ok schema, after)) :
    schema.EachDocument holds := by
  induction levels generalizing source schema after with
  | zero => cases compiled
  | succ below ih =>
      obtain ⟨entries, declared, constraints, references, isObject, ran, rfl⟩ :=
        compileWith_ok compiled
      rw [isObject] at throughout
      have yields := @Context.yields_made_bindAll (site.context source entries)
        (Schema.EachDocument holds) regular.typed
      have made := (Binding.yielded_of_run (fun between => between = cache) ?onInner ?onNamed
        (yields.asked (site.context source entries).asksAmong_bindAll) [] rfl).2 _ (congrArg Prod.fst ran)
      case onInner =>
        rintro document _ rfl
        refine ⟨compileWithin_of_allFresh rfl allFresh, fun schema answered member => ?_⟩
        exact ih (throughout.inside member) (Prod.ext answered rfl)
      case onNamed =>
        rintro name _ rfl
        rw [outcome_resolve_of_allFresh _ _ allFresh]
        refine ⟨rfl, fun schema answered member => ?_⟩
        cases found : Table.lookup _ name with
        | none =>
            rw [found] at answered
            cases answered
        | some cached =>
            rw [found] at answered
            cases answered
            exact throughout.here.2 name member _ found
      obtain ⟨others, isType, made⟩ := made
      have behind : ∀ other ∈ others, other.rule.BuiltOf (Schema.EachDocument holds) := by
        intro other member
        obtain ⟨definition, rule, isRule, built, _⟩ := made other member
        rw [isRule]
        exact built
      refine .mk (fun inner same => ?_) ?_
      · cases isObject.symm.trans same
        exact throughout.here.1
      · rcases isType with untyped | ⟨name, kinds, typed⟩
        · cases untyped
          exact behind
        · cases typed
          exact List.forall_mem_cons.mpr ⟨List.forall_mem_nil _, behind⟩

end Site

namespace Environment

variable {environment : Environment} {source : Source} {schema : Schema} {after : Cache}

/-- Whether something holds of a document and of the documents inside it, at any depth, and of all
documents of the schemas that these ask for by name. -/
def Throughout (environment : Environment) (holds : List (String × Value) → Prop) (document : Value) :
    Prop :=
  environment.settings.constraints.Throughout (fun entries => holds entries ∧
    ∀ name, .string name ∈ environment.settings.constraints.subschemas entries →
      ∀ cached, environment.get name = some cached → cached.EachDocument holds) document

/-- Over a built-in registry, a schema whose documents repair nothing converts an instance just if its
report is a success, and then to itself. If it refuses an instance, the path of the failure begins with
the first constraint of the report that failed. -/
theorem Reachable.converts_iff_valid (reached : Reachable environment)
    (builtin : environment.settings.constraints = Registry.base ∨
      environment.settings.constraints = Registry.jsonSchema)
    (nothing : environment.Throughout environment.settings.constraints.RepairsNothing source.document)
    (compiled : (environment.site.compile source).outcome environment.cache = (.ok schema, after))
    (subject : Value) (isPartial : Bool) :
    (∀ value, schema.convert subject isPartial = .ok value ↔
      (schema.validate subject isPartial).success = true ∧ subject = value) ∧
    ∀ failure, schema.convert subject isPartial = .error failure →
      ∃ name, ((schema.validate subject isPartial).outcomes.find? fun outcome =>
          outcome.2.isSome).map Prod.fst = some name ∧
        failure.path.head? = some (.constraint name) := by
  have regular := Registry.of_builtin Registry.regular_base Registry.regular_jsonSchema builtin
  have canonical := Registry.of_builtin Registry.isCanonical_base Registry.isCanonical_jsonSchema
    builtin
  have lists := Registry.of_builtin Registry.listsRepairs_base Registry.listsRepairs_jsonSchema builtin
  have cached := reached.keeps Site.inherits_inspects
  have own := Site.Keeps.good_of_compile (Site.inherits_inspects _) cached compiled
  have documents := Site.eachDocument_of_compileWithin regular reached.sound.fresh nothing compiled
  have inspects := own regular canonical lists documents
  refine ⟨fun value => ?_, fun failure refused => inspects.head?_of_refused refused⟩
  rw [schema.success_iff]
  exact inspects.behaviour subject isPartial value

/-- An environment with a schema of words that are not too short. -/
def wordy : Environment :=
  (native 0).perform .listed
    (.build (.document (.object [("min_length", .ofNat 2)])) (some "word") none)

/-- A document that asks for an entry and names the schema of words for it. -/
def labelled : Value :=
  .object [("entries", .object [("label", .string "word")]),
    ("any_of", .array [.object [("required", .array [.string "label"])], .bool false])]

/-- Whether a schema has no others inside, and its document repairs nothing. -/
def looksAlone (schema : Schema) : Bool :=
  schema.constraints.all (fun bound => bound.rule.subschemas.isEmpty) &&
    match schema.document with
    | .object entries => decide (Registry.base.RepairsNothing entries)
    | _ => true

theorem eachDocument_of_looksAlone (alone : looksAlone schema = true) :
    schema.EachDocument Registry.base.RepairsNothing := by
  obtain ⟨flat, own⟩ := Bool.and_eq_true_iff.mp alone
  refine .mk (fun entries same => ?_) fun bound member part position => ?_
  · rw [same] at own
    exact of_decide_eq_true own
  · rw [List.isEmpty_iff.mp (List.all_eq_true.mp flat bound member)] at position
    cases position

/-- Whether a sub-schema is the schema of words or has no name. -/
def isWordOrInner : Value → Bool
  | .string name => name == "word"
  | _ => true

theorem constraints_wordy : wordy.settings.constraints = Registry.base := by
  rcases site_perform (native 0) .listed
    (.build (.document (.object [("min_length", .ofNat 2)])) (some "word") none) with
    same | ⟨change, isChange, _⟩
  · exact congrArg (fun site => site.settings.constraints) same
  · cases isChange

theorem throughout_labelled :
    wordy.Throughout wordy.settings.constraints.RepairsNothing labelled := by
  have tests : Registry.base.passesWithin (fun entries =>
      decide (Registry.base.RepairsNothing entries) &&
        (Registry.base.subschemas entries).all isWordOrInner) 3 labelled = true ∧
      (wordy.get "word").map looksAlone = some true := by decide +kernel
  obtain ⟨passes, alone⟩ := tests
  unfold Environment.Throughout
  rw [constraints_wordy]
  refine (Registry.throughout_of_passesWithin passes).mono fun entries both => ?_
  obtain ⟨nothing, names⟩ := Bool.and_eq_true_iff.mp both
  refine ⟨of_decide_eq_true nothing, fun name member cached found => ?_⟩
  have same : name = "word" := eq_of_beq (List.all_eq_true.mp names _ member)
  rw [← same, found] at alone
  exact eachDocument_of_looksAlone (Option.some.inj alone)

/-- A label that is long enough, and one that is not. -/
def label (text : String) : Value := .object [("label", .string text)]

theorem Reachable.converts_iff_valid_labelled :
    ∃ schema after failure,
      Reachable wordy ∧ wordy.settings.constraints = Registry.base ∧
      wordy.Throughout wordy.settings.constraints.RepairsNothing labelled ∧
      (wordy.site.compile ⟨labelled, none, true, 0⟩).outcome wordy.cache = (.ok schema, after) ∧
      schema.convert (label "oak") false = .ok (label "oak") ∧
      schema.convert (label "x") false = .error failure ∧
      failure.path.head? = some (.constraint "entries") := by
  have reached : Reachable wordy := .perform _ _ (.initial 0 "native" _ _ _)
  obtain ⟨schema, after, compiled, seen⟩ := Compiling.exists_of_observed
    (show ((wordy.site.compile ⟨labelled, none, true, 0⟩).outcome wordy.cache).1.toOption.map
      (fun schema => ((schema.validate (label "oak") false).success,
        (schema.validate (label "x") false).success,
        ((schema.validate (label "x") false).outcomes.find? fun outcome =>
          outcome.2.isSome).map Prod.fst)) = some (true, false, some "entries") by decide +kernel)
  obtain ⟨valid, seen⟩ := Prod.mk.inj seen
  obtain ⟨invalid, first⟩ := Prod.mk.inj seen
  have agree := reached.converts_iff_valid (.inl constraints_wordy) throughout_labelled compiled
  obtain ⟨converts, refuses⟩ := agree (label "x") false
  cases converted : schema.convert (label "x") false with
  | ok value =>
      obtain ⟨success, _⟩ := (converts value).mp converted
      cases invalid.symm.trans success
  | error failure =>
      obtain ⟨name, found, head⟩ := refuses failure converted
      cases first.symm.trans found
      exact ⟨schema, after, failure, reached, constraints_wordy, throughout_labelled, compiled,
        ((agree _ false).1 _).mpr ⟨valid, rfl⟩, converted, head⟩

end Environment

end Conformance
