import Conformance.Environment
import Conformance.Proofs.Compilation.Uniformity
import Conformance.Proofs.Inlining.Scripts
/-!
Keys that denote nothing. A lenient document skips them, and nothing else that reads the document sees
them: siblings are found by keys that denote them (`Padded.find?`). By induction on the levels of a
compilation, a document and the same with such keys in it, at any depth, end with the same error or act
alike (`Site.alike_of_padded`).
-/

namespace Conformance

/-- Documents of which one has further keys, which denote nothing, among its own and among those of the
documents inside it, at any depth. -/
inductive Padded (registry : Registry) : Value → Value → Prop
  | same (document : Value) : Padded registry document document
  | mapping {entries entries' : List (String × Value)}
      (each : Inserted (fun entry => registry.resolve entry.1 = none)
        (Value.EntryLaidOut registry.layoutAt (Padded registry)) entries entries') :
      Padded registry (.object entries) (.object entries')

namespace Padded

variable {registry : Registry} {document document' : Value} {entries entries' : List (String × Value)}

theorem mapping_or_same (padded : Padded registry document document') :
    (∃ entries entries', document = .object entries ∧ document' = .object entries' ∧
      Inserted (fun entry => registry.resolve entry.1 = none)
        (Value.EntryLaidOut registry.layoutAt (Padded registry)) entries entries') ∨
    document.kind ≠ .object ∧ document = document' := by
  cases padded with
  | mapping each => exact .inl ⟨_, _, rfl, rfl, each⟩
  | same =>
      by_cases mapping : document.kind = .object
      · obtain ⟨entries, rfl⟩ := Value.exists_object_of_kind mapping
        exact .inl ⟨entries, entries, rfl, rfl,
          .of_forall₂ (List.forall₂_same.mpr fun entry _ => .mk entry.1 (.refl _ _))⟩
      · exact .inr ⟨mapping, rfl⟩

/-- What stands under the name of a sibling is found at a key that denotes it. -/
theorem find? (canonical : registry.IsCanonical) (lays : registry.LaysOut)
    (each : Inserted (fun entry => registry.resolve entry.1 = none)
      (Value.EntryLaidOut registry.layoutAt (Padded registry)) entries entries')
    {name : String} {layout : Layout} (listed : (name, layout) ∈ Registry.siblingLayouts) :
    Option.Rel (Value.LaidOut (Padded registry) layout) (registry.find? entries name)
      (registry.find? entries' name) := by
  obtain ⟨target, resolved, _⟩ := Option.map_eq_some_iff.mp (lays.siblings _ listed)
  have passes (entry : String × Value) (unknown : registry.resolve entry.1 = none) :
      registry.spells name entry.1 = false := by
    unfold Registry.spells
    rw [resolved, unknown]
    rfl
  have found := each.rel_find? (fun _ _ values => congrArg (registry.spells name) values.key_eq) passes
  rw [Registry.find?_eq, Registry.find?_eq]
  refine rel_map (rel_imp found fun entry isFound entry' _ values => ?_) fun _ _ held => held
  have spelled := List.find?_some isFound
  cases values with
  | mk key values =>
      rw [lays.layoutAt_of_spells canonical listed spelled] at values
      exact values

end Padded

/-- An entry that is laid out as its key says is read alike. -/
theorem Registry.LaysOut.readsEntry {registry : Registry} (lays : registry.LaysOut)
    {related : Value → Value → Prop} {entry entry' : String × Value}
    (values : Value.EntryLaidOut registry.layoutAt related entry entry') :
    registry.ReadsEntry related entry entry' := by
  cases values with
  | mk key values =>
      refine ⟨rfl, fun definition found => (lays.layout_of_found found).imp_right fun same => ?_⟩
      rw [same] at values
      exact values

/-- Whether two schemas have the same constraints by name, refer to the same schemas and treat every
instance alike. -/
structure Schema.Interchangeable (schema schema' : Schema) : Prop where
  constraintNames : schema.constraintNames = schema'.constraintNames
  references : schema.references = schema'.references
  acts : schema.ActsLike schema'

theorem Schema.Interchangeable.refl (schema : Schema) : schema.Interchangeable schema :=
  ⟨rfl, rfl, Behaviour.mirrors_id _⟩

theorem Bound.Beside.name_eq {answers : Schema → Schema → Prop} {bound bound' : Bound}
    (beside : Bound.Beside answers bound bound') : bound.name = bound'.name := by
  cases beside
  rfl

theorem Bound.Beside.step_mirrors {bound bound' : Bound}
    (beside : Bound.Beside Schema.Interchangeable bound bound') : bound.step.Mirrors id bound'.step := by
  cases beside with
  | mk name terminal restriction beside =>
      have parts := beside.mono fun _ _ part => part.behaviour (Behaviour.mirrors_id _)
        (Behaviour.mirrors_id _) fun _ _ both => Schema.Interchangeable.acts both
      exact Bound.step_mirrors parts.mirrors name terminal restriction

namespace Site

open Compiling

variable {site : Site} {source source' : Source} {document document' : Value} {cache : Cache}

/-- Constraints that differ in interchangeable schemas only make interchangeable schemas. -/
theorem interchangeable_schema {constraints constraints' : List Bound}
    (each : List.Forall₂ (Bound.Beside Schema.Interchangeable) constraints constraints')
    (declared : Option KindSet) (references : NameSet) :
    (site.schema source declared constraints references).Interchangeable
      (site.schema source' declared constraints' references) where
  constraintNames := by
    have names : List.Forall₂ Eq (constraints.map Bound.name) (constraints'.map Bound.name) :=
      List.rel_map (fun _ _ beside => Bound.Beside.name_eq beside) each
    rwa [List.forall₂_eq_eq_eq] at names
  -- The schemas themselves differ, in the digests of their documents.
  references := Eq.trans (b := references) rfl rfl
  acts := Schema.behaviour_mirrors (each.imp fun _ _ beside => beside.step_mirrors)

theorem readsBeside_of_padded (canonical : site.settings.constraints.IsCanonical)
    (lays : site.settings.constraints.LaysOut) {entries entries' : List (String × Value)}
    (each : Inserted (fun entry => site.settings.constraints.resolve entry.1 = none)
      (Value.EntryLaidOut site.settings.constraints.layoutAt (Padded site.settings.constraints)) entries
      entries')
    (strict : source.strict = source'.strict) :
    (site.context source entries).ReadsBeside (Padded site.settings.constraints)
      (site.context source' entries') where
  self := .same
  constraint := rfl
  strict := strict
  declared := rfl
  types := rfl
  formats := rfl
  ignores := fun _ => rfl
  finds := ⟨fun _ => rfl, fun _ => rfl⟩
  siblings := fun _ listed => Padded.find? canonical lays each listed
  probed := fun _ _ defined isProbe => absurd isProbe (lays.notProbe_of_get defined)

/-- A lenient document and the same with further keys that denote nothing compile alike. The induction is on
the levels of the compilation; the schemas of names are made of the same documents on both sides. -/
theorem compileWithin_padded (canonical : site.settings.constraints.IsCanonical)
    (lays : site.settings.constraints.LaysOut) (levels : Nat)
    (padded : Padded site.settings.constraints source.document source'.document)
    (lenient : source.strict = false) (lenient' : source'.strict = false) :
    EndsAlike Schema.Interchangeable Eq ((site.compileWithin levels source).outcome cache)
      ((site.compileWithin levels source').outcome cache) := by
  induction levels generalizing source source' cache with
  | zero => exact .error _ rfl
  | succ levels ih =>
      unfold compileWithin
      rcases padded.mapping_or_same with ⟨entries, entries', isMapping, isMapping', each⟩ |
        ⟨noMapping, same⟩
      · have inner (document document' : Value) (before before' : Cache)
            (padded : Padded site.settings.constraints document document') (kept : before = before') :
            EndsAlike Schema.Interchangeable Eq
              ((site.compileWithin levels ⟨document, none, source.strict, 0⟩).outcome before)
              ((site.compileWithin levels ⟨document', none, source'.strict, 0⟩).outcome before') := by
          rw [← kept]
          exact ih padded lenient lenient'
        have named (name : String) (before before' : Cache) (kept : before = before') :
            EndsAlike Schema.Interchangeable Eq
              ((site.resolve (site.compileWithin levels) name).outcome before)
              ((site.resolve (site.compileWithin levels) name).outcome before') := by
          rw [← kept]
          exact endsAlike_self .refl _
        exact compileWith_alike isMapping isMapping'
          (readsBeside_of_padded canonical lays each (lenient.trans lenient'.symm))
          (each.mono (fun _ unknown => ⟨lenient, unknown⟩) fun _ _ => lays.readsEntry)
          (fun _ _ => Schema.Interchangeable.references) inner named
          (fun declared _ _ references each => interchangeable_schema each declared references) rfl
      · unfold compileWith
        rw [← same]
        cases isDocument : source.document with
        | object entries => exact absurd (congrArg Value.kind isDocument) noMapping
        | _ => exact .error _ rfl

/-- Keys that denote nothing are inert in lenient documents. If a document gets any number of them, at any
place of itself or of the documents inside it, it compiles as before, or fails with the same error. The
schema has the same constraints, passes the same instances, reports the same causes at the same leaves and
makes the same of every instance that it converts. -/
theorem alike_of_padded (builtin : site.settings.constraints = Registry.base ∨
      site.settings.constraints = Registry.jsonSchema)
    (padded : Padded site.settings.constraints document document') (name name' : Option String)
    (revision revision' : Nat) (cache : Cache) :
    EndsAlike (fun schema schema' => schema.constraintNames = schema'.constraintNames ∧
        ∀ subject isPartial,
          (schema.validate subject isPartial).success = (schema'.validate subject isPartial).success ∧
          (schema.validate subject isPartial).leaves = (schema'.validate subject isPartial).leaves ∧
          (schema.convert subject isPartial).toOption = (schema'.convert subject isPartial).toOption) Eq
      ((site.compile ⟨document, name, false, revision⟩).outcome cache)
      ((site.compile ⟨document', name', false, revision'⟩).outcome cache) := by
  have canonical := Registry.of_builtin Registry.isCanonical_base Registry.isCanonical_jsonSchema builtin
  have lays := Registry.of_builtin Registry.laysOut_base Registry.laysOut_jsonSchema builtin
  have ends := @compileWithin_padded site ⟨document, name, false, revision⟩
    ⟨document', name', false, revision'⟩ cache canonical lays (site.settings.config.maxDepth + 1) padded
    rfl rfl
  refine ends.mono fun schema schema' both => ⟨both.constraintNames, fun subject isPartial => ?_⟩
  have leaves := Schema.leaves_of_mirrors both.acts subject isPartial
  rw [Failure.renamedLeaf_id, List.map_id] at leaves
  exact ⟨Schema.success_of_mirrors both.acts subject isPartial, leaves.symm,
    Schema.toOption_convert_of_mirrors both.acts subject isPartial⟩

/-- A document on the entries of a table and on the lists among the others. -/
def tabulated : Value :=
  .object [("entries", .object [("a", .object [("maximum", .ofNat 9)])]),
    ("additional_entries", .object [("items", .object [("maximum", .ofNat 9)])])]

/-- The same with notes, one of which looks like a document that is not well formed. -/
def annotated : Value :=
  .object [("note", .object [("maximum", .string "none")]),
    ("entries", .object [("a", .object [("maximum", .ofNat 9), ("note", .null)])]),
    ("additional_entries", .object [("items", .object [("note", .null), ("maximum", .ofNat 9)]),
      ("note", .array [])])]

theorem padded_annotated : Padded Registry.base tabulated annotated := by
  have laidOut : Registry.base.layoutAt "entries" = .table ∧
      Registry.base.layoutAt "additional_entries" = .whole ∧
      Registry.base.layoutAt "items" = .items ∧ Registry.base.resolve "note" = none := by
    rw [Registry.base_eq]
    decide +kernel
  obtain ⟨entries, additional, items, unknown⟩ := laidOut
  have bound : Value.EntryLaidOut Registry.base.layoutAt (Padded Registry.base) ("maximum", .ofNat 9)
      ("maximum", .ofNat 9) := .mk "maximum" (.refl _ _)
  have behind : Padded Registry.base (.object [("maximum", .ofNat 9)])
      (.object [("maximum", .ofNat 9), ("note", .null)]) := .mapping (.cons bound (.insert unknown .nil))
  have ahead : Padded Registry.base (.object [("maximum", .ofNat 9)])
      (.object [("note", .null), ("maximum", .ofNat 9)]) := .mapping (.insert unknown (.cons bound .nil))
  refine .mapping (.insert unknown (.cons (.mk "entries" ?_) (.cons (.mk "additional_entries" ?_) .nil)))
  · rw [entries]
    exact .table (.cons (.mk "a" (.document behind)) .nil)
  · rw [additional]
    refine .whole (.document (.mapping (.cons (.mk "items" ?_) (.insert unknown .nil))))
    rw [items]
    exact .single Kind.noConfusion (.document ahead)

theorem alike_of_padded_annotated :
    ∃ schema schema' after after',
      ((Environment.native 0).site.compile ⟨tabulated, none, false, 0⟩).outcome [] = (.ok schema, after) ∧
      ((Environment.native 0).site.compile ⟨annotated, none, false, 0⟩).outcome [] = (.ok schema', after') ∧
      (schema.validate (.object [("a", .ofNat 10), ("b", .array [.ofNat 10])]) false).leaves.length = 2 ∧
      (schema.validate (.object [("a", .ofNat 10), ("b", .array [.ofNat 10])]) false).leaves =
        (schema'.validate (.object [("a", .ofNat 10), ("b", .array [.ofNat 10])]) false).leaves := by
  have registry : (Environment.native 0).settings.constraints = Registry.base := by
    unfold Environment.native Environment.ofTables
    rfl
  obtain ⟨schema, after, compiled, refused⟩ := Compiling.exists_of_observed
    (show (((Environment.native 0).site.compile ⟨tabulated, none, false, 0⟩).outcome []).1.toOption.map
      (fun schema => (schema.validate (.object [("a", .ofNat 10), ("b", .array [.ofNat 10])])
        false).leaves.length) = some 2 by decide +kernel)
  have alike := @alike_of_padded (Environment.native 0).site tabulated annotated (.inl registry)
    (registry ▸ padded_annotated) none none 0 0 []
  generalize ((Environment.native 0).site.compile ⟨annotated, none, false, 0⟩).outcome [] = outcome
    at alike ⊢
  rw [compiled] at alike
  cases alike with
  | @ok _ schema' _ after' both _ =>
      exact ⟨schema, schema', after, after', compiled, rfl, refused, (both.2 _ false).2.1⟩

end Site

end Conformance
