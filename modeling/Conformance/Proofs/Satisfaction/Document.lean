import Conformance.Environment
import Conformance.Proofs.Satisfaction.Rule
/-!
Compiled documents against the relation of documents. The constraints that are bound for a document
let pass what satisfies it, by one lemma for the type, one for a constraint and one for the entries in
turn. By induction on the levels of a compilation, a schema without references accepts an instance
exactly if the instance satisfies the document that the schema was compiled from
(`Site.success_iff_satisfies`).
-/

namespace Conformance

/-- What is asked of the definitions in a registry: that the type of a document has its meaning, and
that what applies to integers applies to floats, since a whole float is of type integer. -/
structure Registry.Regular (registry : Registry) : Prop where
  typed : ((registry.resolve "type").bind registry.get).map Definition.meaning = some .ofKinds
  uniform : ∀ entry ∈ registry.definitions,
    Kind.integer ∈ entry.2.applicableKinds → Kind.float ∈ entry.2.applicableKinds

namespace Registry

theorem regular_iff (registry : Registry) : registry.Regular ↔
    ((registry.resolve "type").bind registry.get).map Definition.meaning = some .ofKinds ∧
    ∀ entry ∈ registry.definitions,
      Kind.integer ∈ entry.2.applicableKinds → Kind.float ∈ entry.2.applicableKinds :=
  ⟨fun regular => ⟨regular.typed, regular.uniform⟩, fun both => ⟨both.1, both.2⟩⟩

instance (registry : Registry) : Decidable registry.Regular :=
  decidable_of_iff' _ (regular_iff registry)

theorem regular_base : base.Regular := by
  rw [base_eq]
  decide +kernel

theorem regular_jsonSchema : jsonSchema.Regular := by
  rw [jsonSchema_eq]
  decide +kernel

theorem Regular.float_of_integer {registry : Registry} (regular : registry.Regular) {name : String}
    {definition : Definition} (found : registry.get name = some definition)
    (integer : Kind.integer ∈ definition.applicableKinds) :
    Kind.float ∈ definition.applicableKinds := by
  obtain ⟨target, _, present⟩ := Option.bind_eq_some_iff.mp found
  exact regular.uniform (target, definition) (Table.mem_of_lookup present) integer

end Registry

/-- Whether an instance meets what a constraint of a document asks for. -/
def Reading.Meets (reading : Reading) (entries : List (String × Value)) (definition : Definition)
    (value subject : Value) : Prop :=
  reading.Binds entries value definition.meaning →
    if subject.kind ∈ definition.applicableKinds then
      reading.Upholds entries definition.meaning value subject
    else ¬ (reading.declared? entries = none ∧ reading.strict = true)

/-- Whether an instance meets what an entry of a document asks for. -/
def Reading.Heeds (reading : Reading) (entries : List (String × Value)) (subject : Value)
    (entry : String × Value) : Prop :=
  ∀ definition, reading.Governs entries entry.1 definition →
    reading.Meets entries definition entry.2 subject

theorem Reading.satisfies_object (reading : Reading) (entries : List (String × Value))
    (subject : Value) : reading.Satisfies (.object entries) subject ↔
      reading.Admits entries subject ∧ ∀ entry ∈ entries, reading.Heeds entries subject entry := by
  have pairs := Prod.forall (p := fun entry => entry ∈ entries → reading.Heeds entries subject entry)
  rw [Reading.Satisfies, pairs]
  rfl

theorem Reading.heeds_iff {reading : Reading} {entries : List (String × Value)} {key name : String}
    {definition : Definition} {value subject : Value}
    (resolved : reading.settings.constraints.resolve key = some name)
    (notType : reading.settings.constraints.resolve "type" ≠ some name)
    (found : reading.settings.constraints.get name = some definition) :
    reading.Heeds entries subject (key, value) ↔
      (reading.Reaches entries definition → reading.Meets entries definition value subject) := by
  constructor
  · exact fun heeds reaches => heeds definition ⟨name, resolved, notType, found, reaches⟩
  · rintro meets _ ⟨_, resolved', _, found', reaches⟩
    cases resolved.symm.trans resolved'
    cases found.symm.trans found'
    exact meets reaches

/-- Whether all of some bound constraints let an instance pass. -/
def AllAccept (bounds : List Bound) (isPartial : Bool) (subject : Value) : Prop :=
  ∀ bound ∈ bounds, bound.step.behaviour.accepts isPartial subject = true

theorem allAccept_nil (isPartial : Bool) (subject : Value) : AllAccept [] isPartial subject :=
  List.forall_mem_nil _

theorem allAccept_append (first others : List Bound) (isPartial : Bool) (subject : Value) :
    AllAccept (first ++ others) isPartial subject ↔
      AllAccept first isPartial subject ∧ AllAccept others isPartial subject :=
  List.forall_mem_append

theorem allAccept_toList (name : String) (terminal : Bool) (restriction : Option Guard)
    (rule? : Option Rule) (isPartial : Bool) (subject : Value) :
    AllAccept (rule?.map (Bound.mk name terminal restriction)).toList isPartial subject ↔
      ∀ rule, rule? = some rule →
        (Bound.mk name terminal restriction rule).step.behaviour.accepts isPartial subject = true := by
  cases rule? with
  | none => simp [AllAccept]
  | some rule => simp [AllAccept]

/-- Where all kinds that a type admits are applicable, its instances are of an applicable kind: a whole float
is, if integers are. -/
theorem IsOfKinds.mem_of_isSubset {kinds applicable : KindSet} {subject : Value}
    (isOf : IsOfKinds kinds subject) (spared : kinds.isSubset applicable = true)
    (uniform : Kind.integer ∈ applicable → Kind.float ∈ applicable) : subject.kind ∈ applicable := by
  have included := (KindSet.isSubset_iff _ _).mp spared
  rcases isOf with ofKind | ⟨double, rfl, integer, _⟩
  · exact included _ ofKind
  · exact uniform (included _ integer)

namespace Context

variable {context : Context}

theorem isExcluded_iff (known : ∀ isPartial,
    (context.reading isPartial).declared? context.entries = context.declared)
    (definition : Definition) (isPartial : Bool) :
    context.isExcluded definition.applicableKinds = true ↔
      ¬ (context.reading isPartial).Reaches context.entries definition := by
  unfold isExcluded Reading.Reaches
  rw [known isPartial]
  cases context.declared with
  | none => simp
  | some declared =>
      have shared := KindSet.intersects_iff declared definition.applicableKinds
      simp only [Bool.not_eq_true', ← Bool.not_eq_true, shared, Option.some.injEq]
      exact not_congr ⟨fun shared _ same => same ▸ shared, fun all => all declared rfl⟩

theorem ensures_bindType (regular : context.settings.constraints.Regular) :
    context.bindType.Ensures context.IsGood fun bound =>
      ∀ isPartial, (context.reading isPartial).declared? context.entries = bound.1 ∧
        ∀ subject, AllAccept bound.2 isPartial subject ↔
          (context.reading isPartial).Admits context.entries subject := by
  obtain ⟨definition, found, isType⟩ := Option.map_eq_some_iff.mp regular.typed
  obtain ⟨name, resolved, defined⟩ := Option.bind_eq_some_iff.mp found
  unfold bindType typeName?
  rw [resolved]
  cases sibling : context.sibling? "type" with
  | none =>
      intro isPartial
      have undeclared : (context.reading isPartial).declared? context.entries = none :=
        congrArg (Option.map _) sibling
      refine ⟨undeclared, fun subject => ?_⟩
      unfold Reading.Admits
      rw [undeclared]
      simp [AllAccept]
  | some value =>
      dsimp only
      rw [defined]
      refine (Binding.ensures_ofExcept fun kinds read => read).bind fun kinds read => ?_
      refine (ensures_rule { context with constraint := name } definition.meaning value).bind
        fun rule? interprets isPartial => ?_
      have declared : (context.reading isPartial).declared? context.entries = some kinds := by
        change (context.sibling? "type").map (context.reading isPartial).kinds = some kinds
        rw [sibling]
        exact congrArg some (kinds_of_kinds read isPartial)
      refine ⟨declared, fun subject => ?_⟩
      unfold Reading.Admits
      rw [isType] at interprets
      rw [declared, allAccept_toList]
      cases rule? with
      | none => exact absurd trivial (interprets isPartial)
      | some rule =>
          have upholds := (interprets isPartial).2 subject
          rw [Reading.Upholds, kinds_of_kinds read] at upholds
          simp only [Option.some.injEq, forall_eq']
          exact upholds

/-- A guard lets a constraint run on the instances that it applies to. One that is spared lets it run
on the others too, but those are not of the type of the document. -/
theorem accepts_guard (known : ∀ isPartial,
      (context.reading isPartial).declared? context.entries = context.declared)
    {definition : Definition} (uniform : Kind.integer ∈ definition.applicableKinds →
      Kind.float ∈ definition.applicableKinds)
    {isPartial : Bool} {subject : Value}
    (admitted : (context.reading isPartial).Admits context.entries subject)
    (name : String) (rule : Rule) :
    (Bound.mk name false (context.restriction definition.applicableKinds) rule).step.behaviour.accepts
        isPartial subject = true ↔
      if subject.kind ∈ definition.applicableKinds then
        rule.behaviour.accepts isPartial subject = true
      else ¬ ((context.reading isPartial).declared? context.entries = none ∧
        (context.reading isPartial).strict = true) := by
  unfold Reading.Admits at admitted
  rw [known isPartial] at admitted ⊢
  unfold restriction
  cases declared : context.declared with
  | none =>
      refine (Behaviour.accepts_guarded _ _).trans ?_
      simp [reading]
  | some kinds =>
      by_cases spared : kinds.isSubset definition.applicableKinds = true
      · have applies : subject.kind ∈ definition.applicableKinds :=
          (admitted kinds declared).mem_of_isSubset spared uniform
        simp only [if_pos spared, if_pos applies]
        rfl
      · simp only [if_neg spared]
        refine (Behaviour.accepts_guarded _ _).trans ?_
        simp

theorem ensures_bindConstraint (known : ∀ isPartial,
      (context.reading isPartial).declared? context.entries = context.declared)
    {definition : Definition} (uniform : Kind.integer ∈ definition.applicableKinds →
      Kind.float ∈ definition.applicableKinds) (name : String) (value : Value) :
    (context.bindConstraint definition name value).Ensures context.IsGood fun bounds =>
      ∀ isPartial subject, (context.reading isPartial).Admits context.entries subject →
        (AllAccept bounds isPartial subject ↔
          ((context.reading isPartial).Reaches context.entries definition →
            (context.reading isPartial).Meets context.entries definition value subject)) := by
  unfold bindConstraint
  split
  · rename_i excluded
    split
    · trivial
    · intro isPartial subject _
      have missed := (isExcluded_iff known definition isPartial).mp excluded
      exact iff_of_true (allAccept_nil isPartial subject) fun reaches => absurd reaches missed
  · rename_i included
    refine (ensures_rule { context with constraint := name } definition.meaning value).bind
      fun rule? interprets isPartial subject admitted => ?_
    have reaches := not_not.mp (mt (isExcluded_iff known definition isPartial).mpr included)
    rw [allAccept_toList, imp_iff_right reaches]
    unfold Reading.Meets
    cases rule? with
    | none =>
        refine iff_of_true ?_ fun binds => absurd binds (interprets isPartial)
        intro rule same
        cases same
    | some rule =>
        change context.Interprets definition.meaning value (some rule) at interprets
        obtain ⟨binds, upholds⟩ := interprets isPartial
        simp only [Option.some.injEq, forall_eq']
        rw [accepts_guard known uniform admitted, imp_iff_right binds, upholds]

theorem ensures_bindEntries (regular : context.settings.constraints.Regular)
    (known : ∀ isPartial,
      (context.reading isPartial).declared? context.entries = context.declared)
    (seen : List String) (entries : List (String × Value)) :
    (context.bindEntries seen entries).Ensures context.IsGood fun bounds =>
      ∀ isPartial subject, (context.reading isPartial).Admits context.entries subject →
        (AllAccept bounds isPartial subject ↔
          ∀ entry ∈ entries, (context.reading isPartial).Heeds context.entries subject entry) := by
  induction entries generalizing seen with
  | nil =>
      intro isPartial subject _
      exact iff_of_true (allAccept_nil isPartial subject) (List.forall_mem_nil _)
  | cons entry entries ih =>
      obtain ⟨key, value⟩ := entry
      -- An entry that governs nothing binds nothing and asks for nothing.
      have skipped (idle : ∀ isPartial definition,
          ¬ (context.reading isPartial).Governs context.entries key definition) (seen : List String) :
          (context.bindEntries seen entries).Ensures context.IsGood fun bounds =>
            ∀ isPartial subject, (context.reading isPartial).Admits context.entries subject →
              (AllAccept bounds isPartial subject ↔ ∀ entry ∈ (key, value) :: entries,
                (context.reading isPartial).Heeds context.entries subject entry) := by
        refine (ih seen).mono fun bounds rest isPartial subject admitted => ?_
        rw [rest isPartial subject admitted, List.forall_mem_cons]
        exact (and_iff_right fun definition governs =>
          absurd governs (idle isPartial definition)).symm
      unfold bindEntries
      split
      · rename_i unresolved
        split
        · trivial
        · apply skipped
          rintro isPartial definition ⟨name, resolved, _⟩
          cases unresolved.symm.trans resolved
      · rename_i name resolved
        split
        · trivial
        · split
          · rename_i isType
            refine (skipped ?_ (name :: seen)).bind fun bounds rest => rest
            rintro isPartial definition ⟨_, resolved', notType, _⟩
            cases resolved.symm.trans resolved'
            exact notType isType.symm
          · rename_i notType
            split
            · rename_i definition found
              have uniform := regular.float_of_integer found
              refine (ensures_bindConstraint known uniform name value).bind fun first head => ?_
              refine (ih (name :: seen)).bind fun others tail isPartial subject admitted => ?_
              rw [allAccept_append, head isPartial subject admitted, tail isPartial subject admitted,
                List.forall_mem_cons]
              refine and_congr_left fun _ => (Reading.heeds_iff ?_ ?_ found).symm
              · exact resolved
              · exact fun isType => notType isType.symm
            · rename_i undefined
              refine (skipped ?_ (name :: seen)).bind fun bounds rest => rest
              rintro isPartial definition ⟨_, resolved', _, found, _⟩
              cases resolved.symm.trans resolved'
              cases undefined.symm.trans found

/-- The constraints that are bound for a document let pass what satisfies it. -/
theorem ensures_bindAll (regular : context.settings.constraints.Regular) :
    context.bindAll.Ensures context.IsGood fun bound => ∀ isPartial subject,
      AllAccept bound.2 isPartial subject ↔
        (context.reading isPartial).Satisfies (.object context.entries) subject := by
  refine (ensures_bindType regular).bind ?_
  rintro ⟨declared, first⟩ bound
  have known : ∀ isPartial,
      (context.reading isPartial).declared? context.entries = declared :=
    fun isPartial => (bound isPartial).1
  have entries := @ensures_bindEntries { context with declared := declared } regular known []
    context.entries
  refine entries.bind fun others rest isPartial subject => ?_
  rw [allAccept_append, (bound isPartial).2, Reading.satisfies_object]
  exact and_congr_right fun admitted => rest isPartial subject admitted

end Context

namespace Site

variable {site : Site} {source : Source} {schema : Schema} {cache after : Cache}

/-- A schema without references accepts the instances that satisfy its document. The induction is on
the levels of the compilation: the documents inside are compiled one level below. -/
theorem accepts_iff_satisfies (regular : site.settings.constraints.Regular) {levels : Nat}
    (compiled : (site.compileWithin levels source).outcome cache = (.ok schema, after))
    (unreferring : schema.references = []) (isPartial : Bool) (subject : Value) :
    schema.behaviour.accepts isPartial subject = true ↔
      (Reading.mk site.settings source.strict isPartial).Satisfies source.document subject := by
  induction levels generalizing source schema cache after isPartial subject with
  | zero => cases compiled
  | succ below ih =>
      obtain ⟨entries, declared, constraints, references, isObject, ran, rfl⟩ :=
        compileWith_ok compiled
      have agreed := @Context.ensures_bindAll (site.context source entries) regular
      rw [isObject, Schema.accepts_iff]
      rw [show references = [] from unreferring] at ran
      refine Binding.ensured_of_run ?_ agreed ran isPartial subject
      intro document cache inner after answered unreferring isPartial subject
      exact ih answered unreferring isPartial subject

/-- Validation is the naive reading of a document: over a built-in registry, a schema that was compiled
without references to other schemas reports success on exactly the instances that satisfy its
document. -/
theorem success_iff_satisfies (builtin : site.settings.constraints = Registry.base ∨
      site.settings.constraints = Registry.jsonSchema)
    (compiled : (site.compile source).outcome cache = (.ok schema, after))
    (unreferring : schema.references = []) (subject : Value) (isPartial : Bool) :
    (schema.validate subject isPartial).success = true ↔
      (Reading.mk site.settings source.strict isPartial).Satisfies source.document subject := by
  have regular := Registry.of_builtin Registry.regular_base Registry.regular_jsonSchema builtin
  rw [Schema.success_iff]
  exact accepts_iff_satisfies regular compiled unreferring isPartial subject

/-- A document in which the entry `n` is bounded from below. -/
def bounded : Value :=
  .object [("type", .string "dict"), ("entries", .object [("n", .object [("minimum", .ofNat 3)])])]

theorem success_iff_satisfies_bounded :
    ∃ schema after,
      ((Environment.native 0).site.compile ⟨bounded, none, true, 0⟩).outcome [] =
        (.ok schema, after) ∧
      schema.references = [] ∧
      (Reading.mk (Environment.native 0).settings true false).Satisfies bounded
        (.object [("n", .ofNat 5)]) ∧
      ¬ (Reading.mk (Environment.native 0).settings true false).Satisfies bounded
        (.object [("n", .ofNat 2)]) := by
  obtain ⟨schema, after, compiled, seen⟩ := Compiling.exists_of_observed
    (show (((Environment.native 0).site.compile ⟨bounded, none, true, 0⟩).outcome []).1.toOption.map
      (fun schema => (schema.references,
        (schema.validate (.object [("n", .ofNat 5)]) false).success,
        (schema.validate (.object [("n", .ofNat 2)]) false).success)) = some ([], true, false) by
          decide +kernel)
  obtain ⟨unreferring, results⟩ := Prod.mk.inj seen
  obtain ⟨accepted, refused⟩ := Prod.mk.inj results
  refine ⟨schema, after, compiled, unreferring, ?_, ?_⟩
  · exact (success_iff_satisfies (.inl rfl) compiled unreferring _ _).mp accepted
  · intro satisfied
    have success := (success_iff_satisfies (.inl rfl) compiled unreferring _ _).mpr satisfied
    cases refused.symm.trans success

end Site

end Conformance
