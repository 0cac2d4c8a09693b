import Conformance.Environment
import Conformance.Proofs.Order.Scripts
/-!
The order of keys does not matter. The type of a document is bound in front wherever it stands, and the
other constraints are bound one by one and never end validation. By induction on the levels of a
compilation, a document and the same with its keys in another order both fail to compile, or they compile
to schemas that report alike.
-/

namespace Conformance

section

variable {registry : Registry} {key name : String} {definition : Definition} {value value' : Value}

/-- Values that are laid out as their key says are laid out as their constraint reads them, if it has a
rule of its own. -/
theorem Reordered.at_meaning (lays : registry.LaysOut)
    (resolved : registry.resolve key = some name) (defined : registry.get name = some definition)
    (values : Reordered registry (registry.layoutAt key) value value') :
    definition.meaning = .remark ∨ Reordered registry definition.meaning.layout value value' := by
  have found : (registry.resolve key).bind registry.get = some definition := by
    rw [resolved, Option.bind_some, defined]
  refine (lays.layout_of_found found).imp_right fun same => ?_
  rw [same] at values
  exact values

end

theorem Bound.alike_toList {rule rule' : Option Rule} (rules : Option.Rel Rule.Alike rule rule')
    (name : String) (terminal : Bool) (restriction : Option Guard) :
    List.Forall₂ Bound.Alike (rule.map (Bound.mk name terminal restriction)).toList
      (rule'.map (Bound.mk name terminal restriction)).toList :=
  forall₂_toList (rel_map rules fun _ _ rules => Bound.alike_mk rules name terminal restriction)

namespace Context

open Binding

variable {inner : Value → Option Schema} {named : String → Option Schema}
  {context context' : Context} {value value' : Value} {entry entry' : String × Value} {name : String}
  {definition : Definition}

/-- A document in which two keys denote one constraint comes to nothing. -/
theorem answered_bindAll_of_repeated (repeated : ¬ (context.denoted context.entries).Nodup) :
    context.bindAll.answered inner named = none := by
  unfold bindAll
  rw [answered_bind]
  refine Option.bind_eq_none_iff.mpr fun bound _ => ?_
  rw [answered_map, answered_bindEntries, if_neg fun apart => repeated apart.1]
  rfl

theorem areApart_nil (distinct : (context.denoted context.entries).Nodup) :
    context.AreApart [] context.entries :=
  ⟨distinct, fun _ _ => List.not_mem_nil⟩

/-- The keys of a document and of the same in another order denote the same constraints. -/
theorem perm_denoted (settings : context.settings = context'.settings) {layouts : String → Layout}
    (shuffled : Shuffled (EntryReordered context.settings.constraints layouts) context.entries
      context'.entries) :
    (context.denoted context.entries).Perm (context'.denoted context'.entries) := by
  have denoted (context : Context) : context.denoted context.entries =
      (Table.names context.entries).filterMap context.settings.constraints.resolve := by
    unfold denoted Table.names
    rw [List.filterMap_map]
    rfl
  rw [denoted context, denoted context', ← settings]
  exact (perm_of_reordered shuffled).filterMap _

namespace Reorders

section

variable (reorders : context.Reorders context')

include reorders

theorem at_constraint (name : String) :
    Context.Reorders { context with constraint := name } { context' with constraint := name } :=
  ⟨reorders.settings, reorders.strict, reorders.declared, reorders.canonical, reorders.lays,
    reorders.distinct, reorders.entries⟩

theorem declaring (declared : Option KindSet) :
    Context.Reorders { context with declared := declared } { context' with declared := declared } :=
  ⟨reorders.settings, reorders.strict, rfl, reorders.canonical, reorders.lays, reorders.distinct,
    reorders.entries⟩

theorem typeName? : context.typeName? = context'.typeName? := by
  unfold Context.typeName?
  rw [reorders.settings]

theorem restriction (applicable : KindSet) :
    context.restriction applicable = context'.restriction applicable := by
  unfold Context.restriction
  rw [reorders.declared, reorders.strict]

theorem isExcluded (applicable : KindSet) :
    context.isExcluded applicable = context'.isExcluded applicable := by
  unfold Context.isExcluded
  rw [reorders.declared]

theorem distinct_right : (context'.denoted context'.entries).Nodup :=
  (perm_denoted reorders.settings reorders.entries).nodup_iff.mp reorders.distinct

end

variable (reorders : context.Reorders context')
  (alike : AnswersAlike context.settings.constraints inner)

include reorders alike

theorem bindType : Agree inner named (AtKey (List.Forall₂ Bound.Alike)) context.bindType
    context'.bindType := by
  have rel := reorders.sibling (show ("type", Layout.kinds) ∈ _ by decide)
  have types : context.settings.types = context'.settings.types := by rw [reorders.settings]
  unfold Context.bindType
  rw [← reorders.typeName?]
  cases resolved : context.typeName? with
  | none => exact agree_done ⟨rfl, .nil⟩
  | some name =>
      generalize context.sibling? "type" = found at rel ⊢
      generalize context'.sibling? "type" = found' at rel ⊢
      cases rel with
      | none => exact agree_done ⟨rfl, .nil⟩
      | @some value _ values =>
          cases values.eq_of_kinds
          have within := reorders.at_constraint name
          have kinds := @toOption_kinds_of_types { context with constraint := name }
            { context' with constraint := name } types value
          refine (agree_ofExcept (rel_of_eq kinds)).bind ?_
          rintro kinds _ rfl
          have gets : context'.settings.constraints.get name =
              context.settings.constraints.get name := by rw [reorders.settings]
          dsimp only
          rw [gets]
          cases defined : context.settings.constraints.get name with
          | none => exact agree_done ⟨rfl, .nil⟩
          | some definition =>
              have notProbe := reorders.lays.notProbe_of_get defined
              refine (within.rule alike notProbe (.inr (.same _ value))).bind fun _ _ rules => ?_
              exact agree_done ⟨rfl, Bound.alike_toList rules name true none⟩

theorem bindConstraint (notProbe : definition.meaning ≠ .probe)
    (values : definition.meaning = .remark ∨
      Reordered context.settings.constraints definition.meaning.layout value value') :
    Agree inner named (Shuffled Bound.AlikeGoingOn) (context.bindConstraint definition name value)
      (context'.bindConstraint definition name value') := by
  have within := reorders.at_constraint name
  unfold Context.bindConstraint
  rw [reorders.isExcluded, reorders.restriction]
  split
  · rw [reorders.strict]
    split
    · exact agree_failed _ _
    · exact agree_done (.of_parallel .nil)
  · refine (within.rule alike notProbe values).bind fun _ _ rules => agree_done (.of_parallel ?_)
    cases rules with
    | none => exact .nil
    | some rules => exact .cons ⟨Bound.alike_mk rules name false _, rfl⟩ .nil

theorem bindEntry (values : EntryReordered context.settings.constraints
      context.settings.constraints.layoutAt entry entry') :
    Agree inner named (Shuffled Bound.AlikeGoingOn) (context.bindEntry entry)
      (context'.bindEntry entry') := by
  have nothing : Agree inner named (Shuffled Bound.AlikeGoingOn) (pure []) (pure []) :=
    agree_done (.of_parallel .nil)
  unfold Context.bindEntry
  rw [← values.key_eq, ← reorders.settings, ← reorders.strict, ← reorders.typeName?]
  cases resolved : context.settings.constraints.resolve entry.1 with
  | none =>
      dsimp only
      split
      · exact agree_failed _ _
      · exact nothing
  | some name =>
      dsimp only
      split
      · exact nothing
      · cases defined : context.settings.constraints.get name with
        | none => exact nothing
        | some definition =>
            exact reorders.bindConstraint alike (reorders.lays.notProbe_of_get defined)
              (values.values.at_meaning reorders.lays resolved defined)

theorem bindEntries : Agree inner named (Shuffled Bound.AlikeGoingOn)
    (context.bindEntries [] context.entries) (context'.bindEntries [] context'.entries) := by
  unfold Agree
  rw [answered_bindEntries, answered_bindEntries, if_pos (areApart_nil reorders.distinct),
    if_pos (areApart_nil reorders.distinct_right)]
  refine rel_map (reorders.entries.rel_mapM ?_) fun _ _ both => both.flatten
  exact fun _ _ values => reorders.bindEntry alike values

theorem bindAll : Agree inner named
    (fun bound bound' => ∀ header header', (Schema.mk header bound.2).Alike (.mk header' bound'.2))
    context.bindAll context'.bindAll := by
  refine (reorders.bindType alike).bind ?_
  rintro ⟨declared, first⟩ ⟨_, first'⟩ ⟨rfl, both⟩
  refine ((reorders.declaring declared).bindEntries alike).bind fun _ _ others => ?_
  exact agree_done fun _ _ => Schema.alike_mk both others

end Reorders

end Context

namespace Site

variable {site : Site} {cache : Cache}

/-- With its keys in another order a document compiles to a schema that reports alike, or neither
compiles. The induction is on the levels of the compilation. -/
theorem compiled?_alike (canonical : site.settings.constraints.IsCanonical)
    (lays : site.settings.constraints.LaysOut) (allFresh : site.AllFresh cache) (levels : Nat)
    {source source' : Source} (strict : source.strict = source'.strict)
    (reordered : Reordered site.settings.constraints .whole source.document source'.document) :
    Option.Rel Schema.Alike (site.compiled? cache levels source)
      (site.compiled? cache levels source') := by
  induction levels generalizing source source' with
  | zero => exact .none
  | succ levels ih =>
      rcases reordered.whole_cases with ⟨entries, entries', isObject, isObject', shuffled⟩ |
        ⟨noMapping, same⟩
      · have own := rel_compiled? allFresh levels isObject
        have own' := rel_compiled? allFresh levels isObject'
        rw [← strict] at own'
        let context := site.context source entries
        let context' := site.context source' entries'
        -- If two keys denote one constraint, the siblings found may differ, but neither compiles.
        have bound : Binding.Agree
            (fun document => site.compiled? cache levels ⟨document, none, source.strict, 0⟩)
            (Table.lookup cache) (fun bound bound' => ∀ header header',
              (Schema.mk header bound.2).Alike (.mk header' bound'.2))
            context.bindAll context'.bindAll := by
          by_cases distinct : (context.denoted context.entries).Nodup
          · have reorders : context.Reorders context' :=
              ⟨rfl, strict, rfl, canonical, lays, distinct, shuffled⟩
            exact reorders.bindAll fun _ _ documents => ih rfl documents
          · have perm : (context.denoted context.entries).Perm (context'.denoted context'.entries) :=
              Context.perm_denoted rfl shuffled
            unfold Binding.Agree
            rw [Context.answered_bindAll_of_repeated distinct,
              Context.answered_bindAll_of_repeated fun apart => distinct (perm.nodup_iff.mpr apart)]
            exact .none
        refine rel_imp (rel_comp (rel_comp own bound) (rel_flip own')) ?_
        rintro _ _ _ _ ⟨_, ⟨_, ⟨_, rfl⟩, both⟩, ⟨_, rfl⟩⟩
        exact both _ _
      · have failed := @compileWith_error site (site.compileWithin levels) source noMapping cache
        have failed' := @compileWith_error site (site.compileWithin levels) source'
          (same ▸ noMapping) cache
        unfold compiled? compileWithin
        rw [failed, failed']
        exact .none

end Site

namespace Environment

variable {environment : Environment} {document document' : Value}

/-- The order of keys does not matter. A document over a built-in registry and the same with the keys of
its mappings in another order, at any depth, both fail to compile, or both compile. In the latter case
they pass the same instances, and report the same causes at the same leaves, but for their order. -/
theorem Reachable.reports_alike_of_reordered (reached : Reachable environment)
    (builtin : environment.settings.constraints = Registry.base ∨
      environment.settings.constraints = Registry.jsonSchema)
    (reordered : Reordered environment.settings.constraints .whole document document')
    (name : Option String) (strict : Bool) (revision : Nat) :
    Option.Rel (fun schema schema' : Schema => ∀ subject isPartial,
        (schema.validate subject isPartial).success = (schema'.validate subject isPartial).success ∧
        (schema.validate subject isPartial).leaves.Perm (schema'.validate subject isPartial).leaves)
      ((environment.site.compile ⟨document, name, strict, revision⟩).outcome
        environment.cache).1.toOption
      ((environment.site.compile ⟨document', name, strict, revision⟩).outcome
        environment.cache).1.toOption := by
  have canonical := Registry.of_builtin Registry.isCanonical_base Registry.isCanonical_jsonSchema
    builtin
  have lays := Registry.of_builtin Registry.laysOut_base Registry.laysOut_jsonSchema builtin
  have alike := @Site.compiled?_alike _ _ canonical lays reached.sound.fresh
    (environment.settings.config.maxDepth + 1) ⟨document, name, strict, revision⟩
    ⟨document', name, strict, revision⟩ rfl reordered
  refine rel_imp alike fun schema _ schema' _ both subject isPartial => ?_
  exact ⟨both.success subject isPartial, both.leaves subject isPartial⟩

/-- A document on an object with two numbers in bounds, its type at the end. -/
def bounds : Value :=
  .object [
    ("entries", .object [
      ("n", .object [("maximum", .ofNat 9), ("exclusive_maximum", .bool true)]),
      ("m", .object [("minimum", .ofNat 5)])]),
    ("additional_entries", .bool false),
    ("type", .string "dict")]

/-- The same with its keys in another order, at each depth. -/
def reorderedBounds : Value :=
  .object [
    ("type", .string "dict"),
    ("additional_entries", .bool false),
    ("entries", .object [
      ("m", .object [("minimum", .ofNat 5)]),
      ("n", .object [("exclusive_maximum", .bool true), ("maximum", .ofNat 9)])])]

theorem reordered_bounds : Reordered Registry.base .whole bounds reorderedBounds := by
  have laidOut : Registry.base.layoutAt "entries" = .table := by
    rw [Registry.base_eq]
    decide +kernel
  have number : Reordered Registry.base .whole
      (.object [("maximum", .ofNat 9), ("exclusive_maximum", .bool true)])
      (.object [("exclusive_maximum", .bool true), ("maximum", .ofNat 9)]) :=
    .of_perm (.swap _ _ [])
  have entries : Reordered Registry.base .table
      (.object [("n", .object [("maximum", .ofNat 9), ("exclusive_maximum", .bool true)]),
        ("m", .object [("minimum", .ofNat 5)])])
      (.object [("m", .object [("minimum", .ofNat 5)]),
        ("n", .object [("exclusive_maximum", .bool true), ("maximum", .ofNat 9)])]) :=
    .table (.swap _ _ []) (.cons (.mk "m" (.same _ _)) (.cons (.mk "n" number) .nil))
  refine .mapping (List.reverse_perm _).symm ?_
  exact .cons (.mk "type" (.same _ _)) (.cons (.mk "additional_entries" (.same _ _))
    (.cons (.mk "entries" (laidOut ▸ entries)) .nil))

theorem Reachable.reports_alike_of_reordered_bounds :
    ∃ schema schema' after after',
      Reachable (native 0) ∧ (native 0).settings.constraints = Registry.base ∧
      Reordered (native 0).settings.constraints .whole bounds reorderedBounds ∧
      ((native 0).site.compile ⟨bounds, none, false, 0⟩).outcome (native 0).cache =
        (.ok schema, after) ∧
      ((native 0).site.compile ⟨reorderedBounds, none, false, 0⟩).outcome (native 0).cache =
        (.ok schema', after') ∧
      (schema.validate (.object [("n", .ofNat 9), ("m", .ofNat 1)]) false).leaves.length = 2 ∧
      (schema.validate (.object [("n", .ofNat 9), ("m", .ofNat 1)]) false).leaves.Perm
        (schema'.validate (.object [("n", .ofNat 9), ("m", .ofNat 1)]) false).leaves := by
  have reached : Reachable (native 0) := .initial 0 "native" _ _ _
  have builtin : (native 0).settings.constraints = Registry.base := by
    unfold native ofTables
    with_reducible rfl
  obtain ⟨schema, after, compiled, seen⟩ := Compiling.exists_of_observed
    (show (((native 0).site.compile ⟨bounds, none, false, 0⟩).outcome
      (native 0).cache).1.toOption.map (fun schema => (schema.validate
        (.object [("n", .ofNat 9), ("m", .ofNat 1)]) false).leaves.length) = some 2 by decide +kernel)
  have reordered : Reordered (native 0).settings.constraints .whole bounds reorderedBounds :=
    builtin ▸ reordered_bounds
  have alike := reached.reports_alike_of_reordered (.inl builtin) reordered none false 0
  generalize ((native 0).site.compile ⟨reorderedBounds, none, false, 0⟩).outcome (native 0).cache =
    outcome at alike ⊢
  obtain ⟨result, after'⟩ := outcome
  rw [compiled] at alike
  rcases rel_toOption alike with ⟨_, _, failed, _⟩ | ⟨_, schema', found, found', both⟩
  · cases failed
  · cases found
    cases found'
    exact ⟨schema, schema', after, after', reached, builtin, reordered, compiled, rfl, seen,
      (both _ false).2⟩

end Environment

end Conformance
