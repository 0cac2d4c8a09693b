import Conformance.Environment
import Conformance.Operation
import Conformance.Proofs.Compilation.Stability
import Conformance.Proofs.Inlining.Scripts
/-!
Named schemas are transparent. A schema that names nothing is made alike wherever its document is compiled.
By induction on the levels of a compilation, a document that names it and the same with its document in the
place of the name act alike, if both compile (`Environment.Reachable.alike_of_inlined`).
-/

namespace Conformance

def Bound.ActsLike (bound bound' : Bound) : Prop := bound.step.Mirrors id bound'.step

theorem Bound.actsLike_toList {rule rule' : Option Rule}
    (rules : Option.Rel (Rule.Beside Subschema.ActsLike) rule rule') (name : String) (terminal : Bool)
    (restriction : Option Guard) :
    List.Forall₂ Bound.ActsLike (rule.map (Bound.mk name terminal restriction)).toList
      (rule'.map (Bound.mk name terminal restriction)).toList :=
  forall₂_toList (rel_map rules fun _ _ beside =>
    step_mirrors beside.mirrors name terminal restriction)

namespace Context

open Binding

variable {inner : Value → Option Schema} {named : String → Option Schema} {context context' : Context}
  {name : String} {target value value' : Value} {definition : Definition} {entry entry' : String × Value}
  {entries entries' : List (String × Value)}

namespace Inlines

section

variable (inlines : context.Inlines context' name target)

include inlines

theorem at_constraint (constraint : String) : Context.Inlines { context with constraint := constraint }
    { context' with constraint := constraint } name target :=
  ⟨inlines.settings, inlines.strict, inlines.declared, inlines.separates, inlines.isObject,
    inlines.entries⟩

theorem declaring (declared : Option KindSet) : Context.Inlines { context with declared := declared }
    { context' with declared := declared } name target :=
  ⟨inlines.settings, inlines.strict, rfl, inlines.separates, inlines.isObject, inlines.entries⟩

theorem typeName? : context.typeName? = context'.typeName? := by
  unfold Context.typeName?
  rw [inlines.settings]

theorem restriction (applicable : KindSet) :
    context.restriction applicable = context'.restriction applicable := by
  unfold Context.restriction
  rw [inlines.declared, inlines.strict]

theorem isExcluded (applicable : KindSet) :
    context.isExcluded applicable = context'.isExcluded applicable := by
  unfold Context.isExcluded
  rw [inlines.declared]

end

variable (inlines : context.Inlines context' name target)
  (interchanges : Interchanges context.settings.constraints name target inner named)

include inlines interchanges

theorem bindType : Alongside inner named (AtKey (List.Forall₂ Bound.ActsLike)) context.bindType
    context'.bindType := by
  have rel := inlines.sibling "type"
  have types : context.settings.types = context'.settings.types := by rw [inlines.settings]
  unfold Context.bindType
  rw [← inlines.typeName?]
  cases resolved : context.typeName? with
  | none => exact alongside_done ⟨rfl, .nil⟩
  | some typeName =>
      generalize context.sibling? "type" = found at rel ⊢
      generalize context'.sibling? "type" = found' at rel ⊢
      cases rel with
      | none => exact alongside_done ⟨rfl, .nil⟩
      | @some value value' both =>
          obtain ⟨key, _, values⟩ := both
          have within := inlines.at_constraint typeName
          -- If both values are read as kinds, no name stands in the one of them.
          have read : Alongside inner named (fun kinds kinds' => value = value' ∧ kinds = kinds')
              (Binding.ofExcept ({ context with constraint := typeName }.kinds value))
              (Binding.ofExcept ({ context' with constraint := typeName }.kinds value')) := by
            refine alongside_ofExcept fun kinds kinds' read read' => ?_
            have same := eq_of_kinds inlines.isObject values read read'
            subst same
            have kinds := @toOption_kinds_of_types { context with constraint := typeName }
              { context' with constraint := typeName } types value
            rw [read, read'] at kinds
            exact ⟨rfl, Option.some.inj kinds⟩
          refine read.bind ?_
          rintro kinds _ ⟨rfl, rfl⟩
          have gets : context'.settings.constraints.get typeName =
              context.settings.constraints.get typeName := by rw [inlines.settings]
          dsimp only
          rw [gets]
          cases defined : context.settings.constraints.get typeName with
          | none => exact alongside_done ⟨rfl, .nil⟩
          | some definition =>
              have notProbe := inlines.separates.notProbe typeName definition defined
              refine (within.rule interchanges notProbe (.inr (.same _ value))).bind fun _ _ rules => ?_
              exact alongside_done ⟨rfl, Bound.actsLike_toList rules typeName true none⟩

theorem bindConstraint (notProbe : definition.meaning ≠ .probe) (constraint : String)
    (values : definition.meaning = .remark ∨
      Inlined context.settings.constraints name target definition.meaning.layout value value') :
    Alongside inner named (List.Forall₂ Bound.ActsLike) (context.bindConstraint definition constraint value)
      (context'.bindConstraint definition constraint value') := by
  have within := inlines.at_constraint constraint
  unfold Context.bindConstraint
  rw [inlines.isExcluded, inlines.restriction]
  split
  · rw [inlines.strict]
    split
    · exact alongside_failed _
    · exact alongside_done .nil
  · refine (within.rule interchanges notProbe values).bind fun _ _ rules => alongside_done ?_
    exact Bound.actsLike_toList rules constraint false _

theorem bindEntry (values : EntryInlined context.settings.constraints name target
      context.settings.constraints.layoutAt entry entry') :
    Alongside inner named (List.Forall₂ Bound.ActsLike) (context.bindEntry entry)
      (context'.bindEntry entry') := by
  unfold Context.bindEntry
  rw [← values.key_eq, ← inlines.settings, ← inlines.strict, ← inlines.typeName?]
  cases resolved : context.settings.constraints.resolve entry.1 with
  | none =>
      dsimp only
      split
      · exact alongside_failed _
      · exact alongside_done .nil
  | some constraint =>
      dsimp only
      split
      · exact alongside_done .nil
      · cases defined : context.settings.constraints.get constraint with
        | none => exact alongside_done .nil
        | some definition =>
            exact inlines.bindConstraint interchanges
              (inlines.separates.notProbe constraint definition defined) constraint
              (values.values.at_meaning inlines.separates resolved defined)

theorem bindEntries (seen : List String) (each : List.Forall₂ (EntryInlined context.settings.constraints
      name target context.settings.constraints.layoutAt) entries entries') :
    Alongside inner named (List.Forall₂ Bound.ActsLike) (context.bindEntries seen entries)
      (context'.bindEntries seen entries') := by
  induction each generalizing seen with
  | nil => exact alongside_done .nil
  | @cons entry entry' entries entries' first rest ih =>
      have same : context'.settings.constraints.resolve entry'.1 =
          context.settings.constraints.resolve entry.1 := by
        rw [← first.key_eq, inlines.settings]
      cases resolved : context.settings.constraints.resolve entry.1 with
      | none =>
          rw [bindEntries_of_unknown resolved, bindEntries_of_unknown (same.trans resolved),
            ← inlines.strict]
          split
          · exact alongside_failed _
          · exact ih seen
      | some constraint =>
          rw [bindEntries_of_resolved resolved, bindEntries_of_resolved (same.trans resolved)]
          split
          · exact alongside_failed _
          · refine (inlines.bindEntry interchanges first).bind fun _ _ bound => ?_
            exact (ih _).bind fun _ _ others => alongside_done (List.rel_append bound others)

theorem bindAll : Alongside inner named
    (fun bound bound' => List.Forall₂ Bound.ActsLike bound.2 bound'.2) context.bindAll
    context'.bindAll := by
  refine (inlines.bindType interchanges).bind ?_
  rintro ⟨declared, first⟩ ⟨_, first'⟩ ⟨rfl, both⟩
  have within := inlines.declaring declared
  refine (within.bindEntries interchanges [] within.entries).bind fun _ _ others => ?_
  exact alongside_done (List.rel_append both others)

end Inlines

end Context

namespace Site

variable {site : Site} {source source' : Source} {schema schema' : Schema} {cache after after' : Cache}
  {name : String} {target : Value}

/-- A document is made into the same constraints, whatever the name and the revision of its schema. -/
theorem constraints_eq (source source' : Source) {levels levels' : Nat}
    (document : source.document = source'.document) (strict : source.strict = source'.strict)
    (compiled : (site.compileWithin levels source).outcome cache = (.ok schema, after))
    (compiled' : (site.compileWithin levels' source').outcome cache = (.ok schema', after')) :
    schema.constraints = schema'.constraints := by
  have deeper := compileWithin_add levels' compiled
  have deeper' := compileWithin_add levels compiled'
  rw [Nat.add_comm] at deeper'
  obtain ⟨below, same, compiled⟩ := compileWithin_ok deeper
  rw [same] at deeper'
  obtain ⟨entries, declared, constraints, references, isObject, ran, rfl⟩ := compileWith_ok compiled
  obtain ⟨entries', declared', constraints', references', isObject', ran', rfl⟩ := compileWith_ok deeper'
  obtain ⟨document, name, strict, revision⟩ := source
  obtain ⟨document', name', strict', revision'⟩ := source'
  cases document
  cases strict
  cases isObject.symm.trans isObject'
  cases ran.symm.trans ran'
  rfl

/-- The induction is on the levels of the compilation. -/
theorem actsLike_of_inlined (separates : site.settings.constraints.SeparatesSubschemas)
    (allFresh : site.AllFresh cache) (isObject : target.kind = .object) (strict : Bool)
    (reference : ∀ levels schema schema', Table.lookup cache name = some schema →
      site.compiled? cache levels ⟨target, none, strict, 0⟩ = some schema' → schema.ActsLike schema')
    (levels : Nat) (source source' : Source) {schema schema' : Schema} (isStrict : source.strict = strict)
    (isStrict' : source'.strict = strict)
    (inlined : Inlined site.settings.constraints name target .whole source.document source'.document)
    (compiled : site.compiled? cache levels source = some schema)
    (compiled' : site.compiled? cache levels source' = some schema') : schema.ActsLike schema' := by
  induction levels generalizing source source' schema schema' with
  | zero => cases compiled
  | succ levels ih =>
      have noMapping (apart : source.document.kind ≠ .object) : schema.ActsLike schema' := by
        have failed := @compileWith_error site (site.compileWithin levels) source apart cache
        cases failed.symm.trans compiled
      rcases inlined.whole_cases with ⟨isName, _⟩ | ⟨entries, entries', isMapping, isMapping', each⟩ |
        ⟨apart, _⟩
      · refine noMapping ?_
        rw [isName]
        exact Kind.noConfusion
      · obtain ⟨bound, came, references, rfl⟩ := exists_of_rel (rel_compiled? allFresh levels isMapping)
          compiled
        obtain ⟨bound', came', references', rfl⟩ := exists_of_rel
          (rel_compiled? allFresh levels isMapping') compiled'
        rw [isStrict] at came
        rw [isStrict'] at came'
        have contexts : (site.context source entries).Inlines (site.context source' entries') name
            target :=
          ⟨rfl, isStrict.trans isStrict'.symm, rfl, separates, isObject, each⟩
        have interchanges : Context.Interchanges site.settings.constraints name target
            (fun document => site.compiled? cache levels ⟨document, none, strict, 0⟩)
            (Table.lookup cache) :=
          ⟨isObject, fun document document' documents schema schema' => ih _ _ rfl rfl documents,
            reference levels⟩
        exact Schema.behaviour_mirrors (contexts.bindAll interchanges bound bound' came came')
      · exact noMapping apart

end Site

namespace Environment

variable {environment : Environment} {name : String} {cached schema schema' : Schema}
  {document document' : Value} {after after' : Cache}

/-- A cached schema that names nothing acts like what its document compiles to. -/
theorem Reachable.actsLike_of_get (reached : Reachable environment)
    (found : environment.get name = some cached) (closed : cached.references = []) {levels : Nat}
    (compiled : environment.site.compiled? environment.cache levels
      ⟨cached.document, none, cached.strict, 0⟩ = some schema) : cached.ActsLike schema := by
  have fresh := reached.sound.fresh name cached found
  obtain ⟨depth, past, future, made⟩ := (reached.sound.belong name cached found).made fresh
  have unread : AgreeOn cached.references future environment.cache := by
    rw [closed]
    exact fun _ member => absurd member List.not_mem_nil
  have again := (Site.stable_compileWithin _ depth _ _ cached future made).2.2 _ unread
  have within : (environment.site.compileWithin levels ⟨cached.document, none, cached.strict, 0⟩).outcome
      environment.cache = (.ok schema, _) := Prod.ext (toOption_eq_some.mp compiled) rfl
  have same : cached.constraints = schema.constraints := Site.constraints_eq cached.source
    ⟨cached.document, none, cached.strict, 0⟩ rfl rfl again within
  refine Schema.behaviour_mirrors ?_
  rw [← same]
  exact List.forall₂_same.mpr fun bound _ => ⟨rfl, rfl, Behaviour.mirrors_id _⟩

/-- Named schemas are transparent. Let a document name a cached schema at some sub-schema positions, and
another have that schema's document, which names nothing itself, in those places. If both compile, as
strictly as the cached schema, they pass the same instances, report the same causes at the same leaves and
make the same of every instance that either converts. What constraints read of their siblings has to be
apart from the sub-schemas. -/
theorem Reachable.alike_of_inlined (reached : Reachable environment)
    (separates : environment.settings.constraints.SeparatesSubschemas)
    (found : environment.get name = some cached) (closed : cached.references = [])
    (inlined : Inlined environment.settings.constraints name cached.document .whole document document')
    (given given' : Option String) (revision revision' : Nat)
    (compiled : (environment.site.compile ⟨document, given, cached.strict, revision⟩).outcome
      environment.cache = (.ok schema, after))
    (compiled' : (environment.site.compile ⟨document', given', cached.strict, revision'⟩).outcome
      environment.cache = (.ok schema', after')) (subject : Value) (isPartial : Bool) :
    (schema.validate subject isPartial).success = (schema'.validate subject isPartial).success ∧
      (schema.validate subject isPartial).leaves = (schema'.validate subject isPartial).leaves ∧
      (schema.convert subject isPartial).toOption = (schema'.convert subject isPartial).toOption := by
  have isObject : cached.document.kind = .object := by
    obtain ⟨_, _, _, made⟩ := (reached.sound.belong name cached found).made
      (reached.sound.fresh name cached found)
    obtain ⟨_, _, made⟩ := Site.compileWithin_ok made
    obtain ⟨entries, _, _, _, isMapping, _⟩ := Site.compileWith_ok made
    exact congrArg Value.kind isMapping
  have reference : ∀ levels schema schema', Table.lookup environment.cache name = some schema →
      environment.site.compiled? environment.cache levels ⟨cached.document, none, cached.strict, 0⟩ =
        some schema' → schema.ActsLike schema' := by
    intro levels schema schema' named inside
    cases found.symm.trans named
    exact reached.actsLike_of_get found closed inside
  have acts : schema.ActsLike schema' := by
    refine Site.actsLike_of_inlined separates reached.sound.fresh isObject cached.strict reference
      (environment.settings.config.maxDepth + 1) ⟨document, given, cached.strict, revision⟩
      ⟨document', given', cached.strict, revision'⟩ rfl rfl inlined ?_ ?_
    · exact toOption_eq_some.mpr (congrArg Prod.fst compiled)
    · exact toOption_eq_some.mpr (congrArg Prod.fst compiled')
  have leaves := Schema.leaves_of_mirrors acts subject isPartial
  rw [Failure.renamedLeaf_id, List.map_id] at leaves
  exact ⟨Schema.success_of_mirrors acts subject isPartial, leaves.symm,
    Schema.toOption_convert_of_mirrors acts subject isPartial⟩

/-- An environment with a schema of small numbers. -/
def bounding : Environment :=
  (native 0).perform .listed (.build (.document (.object [("maximum", .ofNat 9)])) (some "n") none)

/-- A document that names it at two positions, one of them inside a document inside. -/
def naming : Value :=
  .object [("entries", .object [("a", .string "n")]),
    ("additional_entries", .object [("items", .string "n")])]

/-- The same with the document of the schema in those places. -/
def spelledOut : Value :=
  .object [("entries", .object [("a", .object [("maximum", .ofNat 9)])]),
    ("additional_entries", .object [("items", .object [("maximum", .ofNat 9)])])]

theorem inlined_naming :
    Inlined Registry.base "n" (.object [("maximum", .ofNat 9)]) .whole naming spelledOut := by
  have laidOut : Registry.base.layoutAt "entries" = .table ∧
      Registry.base.layoutAt "additional_entries" = .whole ∧
      Registry.base.layoutAt "items" = .items := by
    rw [Registry.base_eq]
    decide +kernel
  obtain ⟨entries, additional, items⟩ := laidOut
  have named {layout : Layout} (isWhole : layout = .whole ∨ layout = .items) :
      Inlined Registry.base "n" (.object [("maximum", .ofNat 9)]) layout (.string "n")
        (.object [("maximum", .ofNat 9)]) := by
    rcases isWhole with rfl | rfl
    · exact .reference
    · exact .single .reference Kind.noConfusion
  refine .mapping (.cons (.mk "entries" ?_) (.cons (.mk "additional_entries" ?_) .nil))
  · rw [entries]
    exact .table (.cons (.mk "a" (named (.inl rfl))) .nil)
  · rw [additional]
    exact .mapping (.cons (.mk "items" (named (.inr items))) .nil)

theorem Reachable.alike_of_inlined_naming :
    ∃ schema schema' after after',
      (bounding.site.compile ⟨naming, none, true, 0⟩).outcome bounding.cache = (.ok schema, after) ∧
      (bounding.site.compile ⟨spelledOut, none, true, 0⟩).outcome bounding.cache =
        (.ok schema', after') ∧
      (schema.validate (.object [("a", .ofNat 10), ("b", .array [.ofNat 10])]) false).leaves.length = 2 ∧
      (schema.validate (.object [("a", .ofNat 10), ("b", .array [.ofNat 10])]) false).leaves =
        (schema'.validate (.object [("a", .ofNat 10), ("b", .array [.ofNat 10])]) false).leaves := by
  have reached : Reachable bounding := .perform _ _ (.initial 0 "native" _ _ _)
  have registry : bounding.settings.constraints = Registry.base := by
    unfold bounding native ofTables
    rfl
  have stored : (bounding.get "n").map (fun cached =>
      (cached.references, cached.strict, cached.document)) =
        some ([], true, .object [("maximum", .ofNat 9)]) := by rfl
  obtain ⟨cached, found, same⟩ := Option.map_eq_some_iff.mp stored
  obtain ⟨closed, strict, document⟩ : cached.references = [] ∧ cached.strict = true ∧
      cached.document = .object [("maximum", .ofNat 9)] := by simpa only [Prod.mk.injEq] using same
  obtain ⟨schema, after, compiled, refused⟩ := Compiling.exists_of_observed
    (show ((bounding.site.compile ⟨naming, none, true, 0⟩).outcome bounding.cache).1.toOption.map
      (fun schema => (schema.validate (.object [("a", .ofNat 10), ("b", .array [.ofNat 10])])
        false).leaves.length) = some 2 by decide +kernel)
  obtain ⟨schema', after', compiled', _⟩ := Compiling.exists_of_observed
    (show ((bounding.site.compile ⟨spelledOut, none, true, 0⟩).outcome bounding.cache).1.toOption.map
      (fun _ => ()) = some () by decide +kernel)
  have separates := Registry.laysOut_base.separatesSubschemas Registry.isCanonical_base
  have alike := reached.alike_of_inlined (registry ▸ separates) found closed
    (registry ▸ document ▸ inlined_naming) none none 0 0 (strict ▸ compiled) (strict ▸ compiled')
    (.object [("a", .ofNat 10), ("b", .array [.ofNat 10])]) false
  exact ⟨schema, schema', after, after', compiled, compiled', refused, alike.2.1⟩

/-- An environment in which a negation goes by the name of the constraint on entries. -/
def negating : Environment :=
  ((native 0).perform .listed
    (.change (.constraint (.general "entries" "is excluded" .negation) true))).perform .listed
      (.build (.document (.object [("min_entries", .ofNat 5)])) (some "n") none)

/-- There the sub-schema to be excluded is read for names of entries, too: a document has some and a name
has none. -/
theorem unlike_of_inlined_negating :
    Reachable negating ∧ ∃ cached schema schema' after after',
      negating.get "n" = some cached ∧ cached.references = [] ∧ cached.strict = true ∧
      Inlined negating.settings.constraints "n" cached.document .whole
        (.object [("entries", .string "n"), ("additional_entries", .bool false)])
        (.object [("entries", .object [("min_entries", .ofNat 5)]), ("additional_entries", .bool false)]) ∧
      (negating.site.compile ⟨.object [("entries", .string "n"), ("additional_entries", .bool false)],
        none, true, 0⟩).outcome negating.cache = (.ok schema, after) ∧
      (negating.site.compile ⟨.object [("entries", .object [("min_entries", .ofNat 5)]),
        ("additional_entries", .bool false)], none, true, 0⟩).outcome negating.cache =
          (.ok schema', after') ∧
      (schema.validate (.object [("min_entries", .ofNat 1)]) false).success = false ∧
      (schema'.validate (.object [("min_entries", .ofNat 1)]) false).success = true := by
  have stored : (negating.get "n").map (fun cached =>
      (cached.references, cached.strict, cached.document)) =
        some ([], true, .object [("min_entries", .ofNat 5)]) := by rfl
  obtain ⟨cached, found, same⟩ := Option.map_eq_some_iff.mp stored
  obtain ⟨closed, strict, document⟩ : cached.references = [] ∧ cached.strict = true ∧
      cached.document = .object [("min_entries", .ofNat 5)] := by simpa only [Prod.mk.injEq] using same
  have laidOut : negating.settings.constraints.layoutAt "entries" = .whole := by decide +kernel
  have inlined : Inlined negating.settings.constraints "n" (.object [("min_entries", .ofNat 5)]) .whole
      (.object [("entries", .string "n"), ("additional_entries", .bool false)])
      (.object [("entries", .object [("min_entries", .ofNat 5)]), ("additional_entries", .bool false)]) := by
    refine .mapping (.cons (.mk "entries" ?_) (.cons (.mk "additional_entries" (.same _ _)) .nil))
    rw [laidOut]
    exact .reference
  obtain ⟨schema, after, compiled, refused⟩ := Compiling.exists_of_observed
    (show ((negating.site.compile ⟨.object [("entries", .string "n"), ("additional_entries", .bool false)],
      none, true, 0⟩).outcome negating.cache).1.toOption.map (fun schema =>
        (schema.validate (.object [("min_entries", .ofNat 1)]) false).success) = some false by decide +kernel)
  obtain ⟨schema', after', compiled', passed⟩ := Compiling.exists_of_observed
    (show ((negating.site.compile ⟨.object [("entries", .object [("min_entries", .ofNat 5)]),
      ("additional_entries", .bool false)], none, true, 0⟩).outcome negating.cache).1.toOption.map
      (fun schema => (schema.validate (.object [("min_entries", .ofNat 1)]) false).success) =
        some true by decide +kernel)
  exact ⟨.perform _ _ (.perform _ _ (.initial 0 "native" _ _ _)), cached, schema, schema', after, after',
    found, closed, strict, document ▸ inlined, compiled, compiled', refused, passed⟩

end Environment

end Conformance
