import Conformance.Environment
import Conformance.Proofs.Dialect.Scripts
/-!
The two dialects agree. The constraints that are bound for a document and for its counterpart mirror
each other, one by one. By induction on the levels of a compilation, both documents fail to compile,
or they compile to schemas that accept the same instances, refuse the others for the same reasons at
the same places, and convert alike (`Site.dialects_agree`).
-/

namespace Conformance

open Registry (publicName sharedNames)

namespace Bound

/-- Whether a constraint that is bound treats instances like another. -/
def Mirrors (bound bound' : Bound) : Prop := bound.step.Mirrors publicName bound'.step

theorem mirrors_toList {rule rule' : Option Rule} (rules : Option.Rel Rule.Mirrors rule rule')
    (name : String) (terminal : Bool) (restriction : Option Guard) :
    List.Forall₂ Mirrors (rule.map (Bound.mk name terminal restriction)).toList
      (rule'.map (Bound.mk (publicName name) terminal restriction)).toList :=
  forall₂_toList (rel_map rules fun _ _ rules => step_mirrors rules name terminal restriction)

end Bound

theorem Definition.applicableKinds_renamed (definition : Definition) (name : String) :
    Definition.applicableKinds { definition with name := name } = definition.applicableKinds := rfl

namespace Context.Mirrors

open Binding

variable {context context' : Context} {value value' : Value}
  {entries entries' : List (String × Value)} {name : String} {definition : Definition}

theorem at_constraint (mirrors : context.Mirrors context') (name name' : String) :
    Context.Mirrors { context with constraint := name } { context' with constraint := name' } :=
  ⟨mirrors.settings, mirrors.strict, mirrors.declared, mirrors.entries⟩

theorem declaring (mirrors : context.Mirrors context') (declared : Option KindSet) :
    Context.Mirrors { context with declared := declared } { context' with declared := declared } :=
  ⟨mirrors.settings, mirrors.strict, rfl, mirrors.entries⟩

theorem typeName? (mirrors : context.Mirrors context') :
    context.typeName? = some "type" ∧ context'.typeName? = some (publicName "type") := by
  have listed : ("type", Layout.kinds) ∈ Registry.siblingLayouts := by decide
  obtain ⟨definition, shares⟩ := Registry.exists_shares (Registry.shared_of_sibling listed).1
  unfold Context.typeName?
  rw [mirrors.settings.base, mirrors.settings.jsonSchema]
  exact ⟨shares.resolve_base, shares.resolve_kept⟩

theorem bindType (mirrors : context.Mirrors context') :
    context.InStep context' (AtKey (List.Forall₂ Bound.Mirrors))
      context.bindType context'.bindType := by
  have listed : ("type", Layout.kinds) ∈ Registry.siblingLayouts := by decide
  obtain ⟨shared, laidOut⟩ := Registry.shared_of_sibling listed
  obtain ⟨definition, shares⟩ := Registry.exists_shares shared
  have rel := mirrors.sibling listed
  unfold Context.bindType
  rw [mirrors.typeName?.1, mirrors.typeName?.2]
  generalize context.sibling? "type" = found at rel ⊢
  generalize context'.sibling? "type" = found' at rel ⊢
  cases rel with
  | none => exact .done ⟨rfl, .nil⟩
  | some values =>
      have within := mirrors.at_constraint "type" (publicName "type")
      have kinds := rel_of_eq (@toOption_kinds { context with constraint := "type" }
        { context' with constraint := publicName "type" } _ _ values)
      refine (mirrors_ofExcept kinds).bind fun kinds _ same => ?_
      cases same
      obtain ⟨defined, defined'⟩ := mirrors.settings.get shares
      dsimp only
      rw [defined, defined']
      have read := shares.reads (laidOut ▸ values)
      refine (within.rule shares.notProbe read).bind fun _ _ rules => ?_
      exact .done ⟨rfl, Bound.mirrors_toList rules _ _ _⟩

theorem restriction (mirrors : context.Mirrors context') (applicable : KindSet) :
    context.restriction applicable = context'.restriction applicable := by
  unfold Context.restriction
  rw [mirrors.declared, mirrors.strict]

theorem isExcluded (mirrors : context.Mirrors context') (applicable : KindSet) :
    context.isExcluded applicable = context'.isExcluded applicable := by
  unfold Context.isExcluded
  rw [mirrors.declared]

theorem bindConstraint (mirrors : context.Mirrors context')
    (shares : Registry.Shares name definition)
    (values : context.Counterparts context' (Registry.layoutOf name) value value') :
    context.InStep context' (List.Forall₂ Bound.Mirrors)
      (context.bindConstraint definition name value)
      (context'.bindConstraint { definition with name := publicName name } (publicName name)
        value') := by
  have within := mirrors.at_constraint name (publicName name)
  unfold Context.bindConstraint
  rw [Definition.applicableKinds_renamed definition (publicName name), mirrors.isExcluded,
    mirrors.restriction]
  split
  · rw [mirrors.strict]
    split
    · exact .failed _ _
    · exact .done .nil
  · refine (within.rule shares.notProbe (shares.reads values)).bind fun _ _ rules => ?_
    exact .done (Bound.mirrors_toList rules _ _ _)

/-- The constraints under the keys of two documents are bound in turn. Names that were seen in the
one were seen in the other under their public names. -/
theorem bindEntries (mirrors : context.Mirrors context') {seen : List String}
    (known : ∀ name ∈ seen, name ∈ sharedNames)
    (each : List.Forall₂ (EntryCounterpart context.settings.types context'.settings.types) entries
      entries') :
    context.InStep context' (List.Forall₂ Bound.Mirrors) (context.bindEntries seen entries)
      (context'.bindEntries (seen.map publicName) entries') := by
  induction each generalizing seen with
  | nil => exact .done .nil
  | @cons entry entry' entries entries' first rest ih =>
      obtain ⟨resolved, resolved'⟩ := mirrors.settings.resolve first
      obtain @⟨name, key, value, value', shared, spelled, values⟩ := first
      obtain ⟨definition, shares⟩ := Registry.exists_shares shared
      have listed : ("type", Layout.kinds) ∈ Registry.siblingLayouts := by decide
      have typeShared := (Registry.shared_of_sibling listed).1
      have repeats : publicName name ∈ seen.map publicName ↔ name ∈ seen := by
        rw [List.mem_map]
        constructor
        · rintro ⟨other, member, same⟩
          exact (Registry.publicName_inj (known other member) shared).mp same ▸ member
        · exact fun member => ⟨name, member, rfl⟩
      obtain ⟨defined, defined'⟩ := mirrors.settings.get shares
      dsimp only at resolved resolved'
      unfold Context.bindEntries
      rw [resolved, resolved']
      dsimp only
      by_cases repeated : name ∈ seen
      · rw [if_pos repeated, if_pos (repeats.mpr repeated)]
        exact .failed _ _
      · rw [if_neg repeated, if_neg fun member => repeated (repeats.mp member)]
        have known' : ∀ other ∈ name :: seen, other ∈ sharedNames :=
          List.forall_mem_cons.mpr ⟨shared, known⟩
        have others := ih known'
        have isType : some (publicName name) = context'.typeName? ↔
            some name = context.typeName? := by
          rw [mirrors.typeName?.1, mirrors.typeName?.2, Option.some.injEq, Option.some.injEq]
          exact Registry.publicName_inj shared typeShared
        by_cases type : some name = context.typeName?
        · rw [if_pos type, if_pos (isType.mpr type)]
          exact others.bind fun _ _ others => .done others
        · rw [if_neg type, if_neg fun same => type (isType.mp same), defined, defined']
          refine (mirrors.bindConstraint shares values).bind fun _ _ first => ?_
          exact others.bind fun _ _ others => .done (List.rel_append first others)

theorem bindAll (mirrors : context.Mirrors context') :
    context.InStep context' (fun bound bound' => List.Forall₂ Bound.Mirrors bound.2 bound'.2)
      context.bindAll context'.bindAll := by
  refine mirrors.bindType.bind ?_
  rintro ⟨declared, first⟩ ⟨_, first'⟩ ⟨rfl, both⟩
  have within := mirrors.declaring declared
  have others := @bindEntries _ _ _ _ within [] (List.forall_mem_nil _) mirrors.entries
  exact others.bind fun _ _ others => .done (List.rel_append both others)

end Context.Mirrors

/-- Documents to compile, of which one is the counterpart of the other. A document that is no
mapping is its own counterpart. -/
structure Source.Mirrors (types types' : TypeTable) (source source' : Source) : Prop where
  strict : source.strict = source'.strict
  document : Counterpart types types' .whole source.document source'.document ∨
    source.document.kind ≠ .object ∧ source.document = source'.document

namespace Site

variable {site site' : Site} {source source' : Source}

/-- Of two mappings, either both compile one level further, or neither does. -/
theorem compileWith_mirrors {compile compile' : Source → Compiling Schema}
    (settings : site.settings.Mirrors site'.settings) (strict : source.strict = source'.strict)
    {entries entries' : List (String × Value)} (isObject : source.document = .object entries)
    (isObject' : source'.document = .object entries')
    (each : List.Forall₂ (EntryCounterpart site.settings.types site'.settings.types) entries
      entries')
    (below : ∀ source source' : Source, source.strict = source'.strict →
      Counterpart site.settings.types site'.settings.types .whole source.document source'.document →
      ∀ cache cache', Option.Rel Schema.Mirrors ((compile source).outcome cache).1.toOption
        ((compile' source').outcome cache').1.toOption) (cache cache' : Cache) :
    Option.Rel Schema.Mirrors ((site.compileWith compile source).outcome cache).1.toOption
      ((site'.compileWith compile' source').outcome cache').1.toOption := by
  have contexts : (site.context source entries).Mirrors (site'.context source' entries') :=
    ⟨settings, strict, rfl, each⟩
  unfold compileWith
  rw [isObject, isObject']
  refine Compiling.rel_bind (contexts.bindAll.run ?_ [] [] cache cache') ?_
  · exact fun document document' cache cache' documents =>
      below ⟨document, none, source.strict, 0⟩ ⟨document', none, source'.strict, 0⟩ strict documents
        cache cache'
  · rintro ⟨⟨declared, constraints⟩, references⟩ ⟨⟨declared', constraints'⟩, references'⟩ _ _ both
    exact .some (Schema.behaviour_mirrors both)

/-- What compiles in the one dialect compiles in the other to a schema that treats instances alike.
The induction is on the levels of the compilation. -/
theorem compileWithin_mirrors (settings : site.settings.Mirrors site'.settings) (levels : Nat)
    (sources : source.Mirrors site.settings.types site'.settings.types source')
    (cache cache' : Cache) :
    Option.Rel Schema.Mirrors ((site.compileWithin levels source).outcome cache).1.toOption
      ((site'.compileWithin levels source').outcome cache').1.toOption := by
  induction levels generalizing source source' cache cache' with
  | zero => exact .none
  | succ levels ih =>
      obtain ⟨strict, documents⟩ := sources
      rcases documents.elim Counterpart.whole_cases .inr with
        ⟨entries, entries', isObject, isObject', each⟩ | ⟨noMapping, same⟩
      · refine compileWith_mirrors settings strict isObject isObject' each ?_ cache cache'
        exact fun source source' strict documents cache cache' =>
          ih ⟨strict, .inl documents⟩ cache cache'
      · have failed := @compileWith_error site (site.compileWithin levels) source noMapping cache
        have failed' := @compileWith_error site' (site'.compileWithin levels) source'
          (same ▸ noMapping) cache'
        unfold compileWithin
        rw [failed, failed']
        exact .none

/-- The two dialects agree. A document over the base registry, in which keys are names of
constraints that JSON Schema has and no schema is named, and its counterpart over the registry of
JSON Schema both fail to compile, or both compile. In the latter case they pass the same instances,
report the same causes at the same leaves with constraints under their public names, and make the
same of every instance that either converts. -/
theorem dialects_agree (settings : site.settings.Mirrors site'.settings)
    (sources : source.Mirrors site.settings.types site'.settings.types source')
    (cache cache' : Cache) :
    Option.Rel (fun schema schema' : Schema => ∀ subject isPartial,
        (schema.validate subject isPartial).success = (schema'.validate subject isPartial).success ∧
        (schema'.validate subject isPartial).leaves =
          (schema.validate subject isPartial).leaves.map (Failure.renamedLeaf publicName) ∧
        (schema.convert subject isPartial).toOption = (schema'.convert subject isPartial).toOption)
      ((site.compile source).outcome cache).1.toOption
      ((site'.compile source').outcome cache').1.toOption := by
  unfold compile
  rw [← settings.depth]
  have mirrors := compileWithin_mirrors settings (site.settings.config.maxDepth + 1) sources cache
    cache'
  generalize ((site.compileWithin _ source).outcome cache).1.toOption = schema at mirrors ⊢
  generalize ((site'.compileWithin _ source').outcome cache').1.toOption = schema' at mirrors ⊢
  cases mirrors with
  | none => exact .none
  | some both =>
      exact .some fun subject isPartial => ⟨Schema.success_of_mirrors both subject isPartial,
        Schema.leaves_of_mirrors both subject isPartial,
        Schema.toOption_convert_of_mirrors both subject isPartial⟩

/-- A document in which one entry is a number below a bound and others are refused. -/
def limited : Value :=
  .object [("type", .string "dict"),
    ("entries", .object [
      ("n", .object [("maximum", .ofNat 9), ("exclusive_maximum", .bool true)])]),
    ("additional_entries", .bool false)]

/-- Its counterpart, in which one key keeps its name. -/
def limited' : Value :=
  .object [("type", .string "object"),
    ("properties", .object [
      ("n", .object [("maximum", .ofNat 9), ("exclusiveMaximum", .bool true)])]),
    ("additional_entries", .bool false)]

theorem counterpart_limited :
    Counterpart TypeTable.native TypeTable.jsonSchema .whole limited limited' := by
  have names : (∀ sibling ∈ [("type", Layout.kinds), ("entries", .table), ("maximum", .data),
        ("exclusive_maximum", .data), ("additional_entries", .whole)],
        sibling.1 ∈ sharedNames ∧ Registry.layoutOf sibling.1 = sibling.2) ∧
      publicName "entries" = "properties" ∧
      publicName "exclusive_maximum" = "exclusiveMaximum" := by
    unfold publicName
    rw [Registry.jsonSchema_eq]
    decide +kernel
  obtain ⟨laidOut, entries, exclusive⟩ := names
  have entry {name key : String} {layout : Layout} {value value' : Value}
      (listed : (name, layout) ∈ [("type", Layout.kinds), ("entries", .table), ("maximum", .data),
        ("exclusive_maximum", .data), ("additional_entries", .whole)])
      (spelled : key = name ∨ key = publicName name)
      (values : Counterpart TypeTable.native TypeTable.jsonSchema layout value value') :
      EntryCounterpart TypeTable.native TypeTable.jsonSchema (name, value) (key, value') := by
    obtain ⟨shared, same⟩ := laidOut (name, layout) listed
    exact .mk shared spelled (same ▸ values)
  have type := @entry "type" "type" .kinds (.string "dict") (.string "object") (by decide)
    (.inl rfl) (.typeName rfl)
  have maximum := @entry "maximum" "maximum" .data (.ofNat 9) (.ofNat 9) (by decide) (.inl rfl)
    (.inert rfl)
  have bound := @entry "exclusive_maximum" "exclusiveMaximum" .data (.bool true) (.bool true)
    (by decide) (.inr exclusive.symm) (.inert rfl)
  have others := @entry "additional_entries" "additional_entries" .whole (.bool false) (.bool false)
    (by decide) (.inl rfl) (.inert rfl)
  have number := Counterpart.mapping (.cons maximum (.cons bound .nil))
  have listed := @entry "entries" "properties" .table _ _ (by decide) (.inr entries.symm)
    (.table (.cons (.mk "n" number) .nil))
  exact .mapping (.cons type (.cons listed (.cons others .nil)))

theorem dialects_agree_limited :
    ∃ schema schema' after after',
      ((Environment.native 0).site.compile ⟨limited, none, true, 0⟩).outcome [] =
        (.ok schema, after) ∧
      ((Environment.jsonSchema 0).site.compile ⟨limited', none, true, 0⟩).outcome [] =
        (.ok schema', after') ∧
      (schema.validate (.object [("n", .ofNat 9)]) false).success = false ∧
      (schema'.validate (.object [("n", .ofNat 9)]) false).success = false ∧
      (schema'.validate (.object [("n", .ofNat 9)]) false).leaves =
        (schema.validate (.object [("n", .ofNat 9)]) false).leaves.map
          (Failure.renamedLeaf publicName) := by
  obtain ⟨schema, after, compiled, refused⟩ := Compiling.exists_of_observed
    (show (((Environment.native 0).site.compile ⟨limited, none, true, 0⟩).outcome []).1.toOption.map
      (fun schema => (schema.validate (.object [("n", .ofNat 9)]) false).success) = some false by
        decide +kernel)
  have settings : Settings.Mirrors (Environment.native 0).site.settings
      (Environment.jsonSchema 0).site.settings := by
    unfold Environment.native Environment.jsonSchema Environment.ofTables Environment.site
    exact ⟨by with_reducible rfl, by with_reducible rfl, by with_reducible rfl, fun _ => rfl, rfl⟩
  have agree := @dialects_agree (Environment.native 0).site (Environment.jsonSchema 0).site
    ⟨limited, none, true, 0⟩ ⟨limited', none, true, 0⟩ settings
    ⟨rfl, .inl counterpart_limited⟩ [] []
  generalize ((Environment.jsonSchema 0).site.compile ⟨limited', none, true, 0⟩).outcome [] =
    outcome at agree ⊢
  obtain ⟨result, after'⟩ := outcome
  rw [compiled] at agree
  rcases rel_toOption agree with ⟨_, _, failed, _⟩ | ⟨_, schema', found, found', both⟩
  · cases failed
  · cases found
    cases found'
    obtain ⟨success, leaves, _⟩ := both (.object [("n", .ofNat 9)]) false
    exact ⟨schema, schema', after, after', compiled, rfl, refused, success.symm.trans refused,
      leaves⟩

end Site

end Conformance
