import Conformance.Proofs.Compilation.Answers
import Conformance.Proofs.Compilation.Constraints
import Conformance.Proofs.Order.Document
import Conformance.Proofs.Relaxation.Following
import Conformance.Proofs.Satisfaction.Document
/-!
Lenient compilation. What compiles strictly compiles leniently, to a schema with the same constraints at
every level. It lets pass what the strict one lets pass, where no refusal lets instances pass, and it makes
the same of what the strict one converts, where no alternatives are tried (`Site.lenient_of_strict`).
-/

namespace Conformance

/-- What a schema says of itself: the kinds that its type admits, and the constraints that it has. -/
def Schema.level (schema : Schema) : Option KindSet × List String :=
  (schema.declared, schema.constraintNames)

/-- The schema at the end of a path: each step goes to a constraint, by its position, and on to a
sub-schema of its rule. -/
def Schema.inside? : Schema → List (Nat × Nat) → Option Schema
  | schema, [] => some schema
  | schema, step :: path =>
    match (schema.constraints[step.1]?).bind fun bound => bound.rule.subschemas[step.2]? with
    | some (.schema inner) => inner.inside? path
    | _ => none

namespace Schema

variable {schema schema' : Schema}

/-- Whether two schemas have the same kinds and constraints at the end of every path. -/
def LevelsWith (schema schema' : Schema) : Prop :=
  ∀ path, (schema.inside? path).map level = (schema'.inside? path).map level

theorem LevelsWith.refl (schema : Schema) : schema.LevelsWith schema := fun _ => rfl

theorem levelsWith_of_softens {held : Schema → Schema → Prop}
    (declared : schema.declared = schema'.declared)
    (each : List.Forall₂ (Bound.Softens held) schema.constraints schema'.constraints)
    (inside : ∀ inner inner', held inner inner' → inner.LevelsWith inner') :
    schema.LevelsWith schema' := by
  intro path
  cases path with
  | nil =>
      have names : List.Forall₂ Eq schema.constraintNames schema'.constraintNames := by
        refine List.rel_map ?_ each
        rintro _ _ ⟨name, terminal, guards, beside⟩
        rfl
      rw [List.forall₂_eq_eq_eq] at names
      unfold inside?
      exact congrArg some (Prod.ext declared names)
  | cons step path =>
      have parts : Option.Rel (Subschema.Beside held)
          ((schema.constraints[step.1]?).bind fun bound => bound.rule.subschemas[step.2]?)
          ((schema'.constraints[step.1]?).bind fun bound => bound.rule.subschemas[step.2]?) := by
        refine rel_bind (rel_getElem?_of_parallel each step.1) ?_
        rintro _ _ ⟨name, terminal, guards, beside⟩
        exact rel_getElem?_of_parallel beside.subschemas step.2
      unfold inside?
      generalize ((schema.constraints[step.1]?).bind fun bound =>
        bound.rule.subschemas[step.2]?) = part? at parts ⊢
      generalize ((schema'.constraints[step.1]?).bind fun bound =>
        bound.rule.subschemas[step.2]?) = part?' at parts ⊢
      cases parts with
      | none => rfl
      | some part =>
          cases part with
          | accept => rfl
          | reject => rfl
          | schema both => exact inside _ _ both path

end Schema

namespace Context

open Binding

section

variable {context context' : Context}

namespace Softens

theorem declaring (softens : context.Softens context') (declared : Option KindSet) :
    { context with declared := declared }.Softens { context' with declared := declared } :=
  ⟨softens.settings, softens.entries, rfl, softens.milder⟩

theorem typeName? (softens : context.Softens context') : context.typeName? = context'.typeName? := by
  unfold Context.typeName?
  rw [softens.settings]

theorem isExcluded (softens : context.Softens context') (applicable : KindSet) :
    context.isExcluded applicable = context'.isExcluded applicable := by
  unfold Context.isExcluded
  rw [softens.declared]

theorem restriction (softens : context.Softens context') (applicable : KindSet) :
    Option.Rel Guard.Softens (context.restriction applicable) (context'.restriction applicable) := by
  unfold Context.restriction
  rw [← softens.declared]
  split
  · split
    · exact .none
    · exact .some ⟨rfl, id⟩
  · exact .some ⟨rfl, softens.milder⟩

end Softens

end

section

variable {context context' : Context} {held : Schema → Schema → Prop}
  (same : ∀ schema, held schema schema) (lays : context.settings.constraints.LaysOut)
  (softens : context.Softens context')

include same lays softens

theorem follows_bindType :
    Follow held (fun bound bound' => bound.1 = bound'.1 ∧
      List.Forall₂ (Bound.Softens held) bound.2 bound'.2) context.bindType context'.bindType := by
  have types : context.settings.types = context'.settings.types := by rw [softens.settings]
  unfold bindType
  rw [← softens.typeName?, ← softens.sibling?]
  cases context.typeName? with
  | none => exact .done ⟨rfl, .nil⟩
  | some name =>
      cases context.sibling? "type" with
      | none => exact .done ⟨rfl, .nil⟩
      | some value =>
          have kinds := @toOption_kinds_of_types { context with constraint := name }
            { context' with constraint := name } types value
          have gets : context'.settings.constraints.get name =
              context.settings.constraints.get name := by rw [softens.settings]
          refine (follows_ofExcept_of_toOption kinds).bind ?_
          rintro kinds _ rfl
          dsimp only
          rw [gets]
          cases defined : context.settings.constraints.get name with
          | none => exact .done ⟨rfl, .nil⟩
          | some definition =>
              have rules := follows_rule same (softens.at_constraint name) definition.meaning
                (lays.notProbe_of_get defined) value
              refine rules.map fun rule? rule?' beside => ⟨rfl, ?_⟩
              cases beside with
              | none => exact .nil
              | some beside => exact .cons (.mk name true .none beside) .nil

theorem follows_bindConstraint {name : String} {definition : Definition}
    (defined : context.settings.constraints.get name = some definition) (value : Value) :
    Follow held (List.Forall₂ (Bound.Softens held)) (context.bindConstraint definition name value)
      (context'.bindConstraint definition name value) := by
  unfold bindConstraint
  rw [← softens.isExcluded]
  split
  · cases strict : context.strict with
    | true => exact .failed _ _
    | false =>
        rw [softens.milder strict]
        exact .done .nil
  · have rules := follows_rule same (softens.at_constraint name) definition.meaning
      (lays.notProbe_of_get defined) value
    refine rules.map fun rule? rule?' beside => ?_
    cases beside with
    | none => exact .nil
    | some beside => exact .cons (.mk name false (softens.restriction _) beside) .nil

theorem follows_bindEntry (entry : String × Value) :
    Follow held (List.Forall₂ (Bound.Softens held)) (context.bindEntry entry)
      (context'.bindEntry entry) := by
  unfold bindEntry
  rw [← softens.settings, ← softens.typeName?]
  split
  · cases strict : context.strict with
    | true => exact .failed _ _
    | false =>
        rw [softens.milder strict]
        exact .done .nil
  · split
    · exact .done .nil
    · split
      · rename_i definition defined
        exact follows_bindConstraint same lays softens defined entry.2
      · exact .done .nil

theorem follows_bindEntries (seen : List String) (entries : List (String × Value)) :
    Follow held (List.Forall₂ (Bound.Softens held)) (context.bindEntries seen entries)
      (context'.bindEntries seen entries) := by
  induction entries generalizing seen with
  | nil => exact .done .nil
  | cons entry entries ih =>
      cases resolved : context.settings.constraints.resolve entry.1 with
      | none =>
          have resolved' : context'.settings.constraints.resolve entry.1 = none :=
            softens.settings ▸ resolved
          rw [bindEntries_of_unknown resolved, bindEntries_of_unknown resolved']
          cases strict : context.strict with
          | true => exact .failed _ _
          | false =>
              rw [softens.milder strict]
              exact ih seen
      | some name =>
          have resolved' : context'.settings.constraints.resolve entry.1 = some name :=
            softens.settings ▸ resolved
          rw [bindEntries_of_resolved resolved, bindEntries_of_resolved resolved']
          split
          · exact .failed _ _
          · refine (follows_bindEntry same lays softens entry).bind fun _ _ first => ?_
            exact (ih (name :: seen)).map fun _ _ others => List.rel_append first others

/-- The lenient script asks for what the strict one asks for, and ends with the same constraints. -/
theorem follows_bindAll :
    Follow held (fun bound bound' => bound.1 = bound'.1 ∧
      List.Forall₂ (Bound.Softens held) bound.2 bound'.2) context.bindAll context'.bindAll := by
  refine (follows_bindType same lays softens).bind ?_
  rintro ⟨declared, first⟩ ⟨_, first'⟩ ⟨rfl, both⟩
  have entries := @follows_bindEntries { context with declared := declared }
    { context' with declared := declared } held same lays (softens.declaring declared) [] context.entries
  have listed : { context' with declared := declared }.bindEntries [] context.entries =
      { context' with declared := declared }.bindEntries [] context'.entries :=
    congrArg _ softens.entries
  rw [listed] at entries
  exact entries.map fun _ _ others => ⟨rfl, List.rel_append both others⟩

end

end Context

/-- What a schema that was compiled strictly has in common with the one that was compiled leniently of the
same document. -/
structure Registry.Softens (registry : Registry) (document : Value) (schema schema' : Schema) : Prop where
  levels : schema.LevelsWith schema'
  eases : registry.Throughout (registry.Lacks Rule.decidingNames) document →
    schema.behaviour.EasesEither schema'.behaviour
  completes : registry.Throughout (registry.Lacks ("any_of" :: Rule.decidingNames)) document →
    schema.behaviour.Completes schema'.behaviour

namespace Context

variable {context : Context}

/-- The rules of a document without the constraints that decide by refusing, or choose, do neither. -/
theorem yields_plain_bindAll (regular : context.settings.constraints.Regular)
    (canonical : context.settings.constraints.IsCanonical)
    (meanings : context.settings.constraints.NamesMeanings) :
    context.bindAll.Yields (fun _ _ => True) (fun _ _ => True) fun bound => ∀ other ∈ bound.2,
      (context.settings.constraints.Lacks Rule.decidingNames context.entries →
        other.rule.deciding = []) ∧
      (context.settings.constraints.Lacks ["any_of"] context.entries →
        other.rule.alternatives = []) := by
  refine (@yields_constraints_bindAll context _ _ (fun _ _ rule =>
    (context.settings.constraints.Lacks Rule.decidingNames context.entries → rule.deciding = []) ∧
    (context.settings.constraints.Lacks ["any_of"] context.entries → rule.alternatives = []))
    regular.typed fun declared entry name definition introduces => ?_).mono ?_
  · refine (yields_shape_rule _ definition.meaning entry.2).mono fun rule? isOf rule found => ?_
    constructor
    · intro lacks
      refine List.eq_nil_iff_forall_not_mem.mpr fun part member => ?_
      obtain ⟨spelling, listed, named⟩ := (isOf rule found).named_of_deciding member
      exact lacks.meaning_ne canonical meanings introduces.mem introduces.resolved introduces.defined
        named listed rfl
    · intro lacks
      refine List.eq_nil_iff_forall_not_mem.mpr fun part member => ?_
      have named := (isOf rule found).named_of_alternatives member
      exact lacks.meaning_ne canonical meanings introduces.mem introduces.resolved introduces.defined
        named List.mem_cons_self rfl
  · rintro bound ⟨others, isType, _, held⟩
    have behind : ∀ other ∈ others,
        (context.settings.constraints.Lacks Rule.decidingNames context.entries →
          other.rule.deciding = []) ∧
        (context.settings.constraints.Lacks ["any_of"] context.entries →
          other.rule.alternatives = []) := by
      intro other member
      obtain ⟨definition, rule, isRule, plain⟩ := held other member
      rw [isRule]
      exact plain
    rcases isType with rfl | ⟨name, kinds, rfl⟩
    · exact behind
    · exact List.forall_mem_cons.mpr ⟨⟨fun _ => rfl, fun _ => rfl⟩, behind⟩

end Context

namespace Site

variable {site : Site} {source : Source} {schema : Schema} {cache after : Cache}

/-- What compiles strictly compiles leniently within the same levels, and renews the same schemas of the
cache. The induction is on the levels. -/
theorem softens_of_compileWithin (regular : site.settings.constraints.Regular)
    (canonical : site.settings.constraints.IsCanonical)
    (meanings : site.settings.constraints.NamesMeanings) (lays : site.settings.constraints.LaysOut)
    {levels : Nat}
    (compiled : (site.compileWithin levels source).outcome cache = (.ok schema, after)) :
    ∃ mild, (site.compileWithin levels { source with strict := false }).outcome cache =
        (.ok mild, after) ∧ site.settings.constraints.Softens source.document schema mild := by
  induction levels generalizing source schema cache after with
  | zero => cases compiled
  | succ below ih =>
      obtain ⟨entries, declared, constraints, references, isObject, ran, rfl⟩ :=
        compileWith_ok compiled
      let documents := site.settings.constraints.subschemas entries
      let held : Schema → Schema → Prop := fun inner inner' => inner = inner' ∨
        ∃ document ∈ documents, site.settings.constraints.Softens document inner inner'
      have follows := @Context.follows_bindAll (site.context source entries)
        (site.context { source with strict := false } entries) held (fun _ => .inl rfl) lays
        ⟨rfl, rfl, rfl, fun _ => rfl⟩
      have among : Binding.Follows site.settings.constraints.Softens _ _ _ :=
        (follows.and_yields (Context.yields_plain_bindAll regular canonical meanings)).among
          (site.context source entries).asksAmong_bindAll
          fun document member inner inner' softens => .inr ⟨document, member, softens⟩
      obtain ⟨⟨declared', constraints'⟩, references', ran', ⟨same, each⟩, plain⟩ :=
        among.run (fun answered => ih answered) ran
      have both := (List.forall₂_and_left _ _).mpr ⟨plain, each⟩
      have eases (lacks : site.settings.constraints.Throughout
          (site.settings.constraints.Lacks Rule.decidingNames) (.object entries)) :
          ∀ inner inner', held inner inner' → inner.behaviour.EasesEither inner'.behaviour := by
        rintro inner inner' (rfl | ⟨document, member, softens⟩)
        · exact .refl _
        · exact softens.eases (lacks.inside member)
      refine ⟨_, compileWith_of_bound isObject ran', ?_⟩
      rw [isObject]
      refine ⟨Schema.levelsWith_of_softens same each ?_, fun lacks => ?_, fun lacks => ?_⟩
      · rintro inner inner' (rfl | ⟨document, member, softens⟩)
        · exact .refl inner
        · exact softens.levels
      · intro isPartial
        exact Schema.eases (both.imp fun bound bound' ⟨plain, softens⟩ =>
          softens.eases (plain.1 lacks.here) (eases lacks) isPartial)
      · have undecided := lacks.mono fun entries lacks =>
          lacks.mono fun name listed => List.mem_cons_of_mem "any_of" listed
        have unchosen := lacks.here.mono fun name (listed : name ∈ ["any_of"]) =>
          List.mem_singleton.mp listed ▸ List.mem_cons_self
        refine Schema.completes (both.imp fun bound bound' ⟨plain, softens⟩ =>
          softens.completes (plain.1 undecided.here) (plain.2 unchosen) (eases undecided) ?_)
        rintro inner inner' (rfl | ⟨document, member, softens⟩)
        · exact .refl _
        · exact softens.completes (lacks.inside member)

/-- Over a built-in registry, a document that compiles strictly compiles leniently, with the same cache at
hand and to the same kinds and constraints at every level. Without negations, choices of exactly one and
conditions the lenient schema lets pass what the strict one does, and without alternatives it makes the
same of what the strict one converts. -/
theorem lenient_of_strict (builtin : site.settings.constraints = Registry.base ∨
      site.settings.constraints = Registry.jsonSchema) {document : Value} {name : Option String}
    {revision : Nat} (compiled : (site.compile ⟨document, name, true, revision⟩).outcome cache =
      (.ok schema, after)) :
    ∃ mild, (site.compile ⟨document, name, false, revision⟩).outcome cache = (.ok mild, after) ∧
      (∀ path, (schema.inside? path).map Schema.level = (mild.inside? path).map Schema.level) ∧
      (site.settings.constraints.Throughout
          (site.settings.constraints.Lacks ["not", "one_of", "if"]) document →
        ∀ subject isPartial, (schema.validate subject isPartial).success = true →
          (mild.validate subject isPartial).success = true) ∧
      (site.settings.constraints.Throughout
          (site.settings.constraints.Lacks ["any_of", "not", "one_of", "if"]) document →
        ∀ subject isPartial value, schema.convert subject isPartial = .ok value →
          mild.convert subject isPartial = .ok value) := by
  obtain ⟨mild, compiled', softens⟩ := softens_of_compileWithin
    (Registry.of_builtin Registry.regular_base Registry.regular_jsonSchema builtin)
    (Registry.of_builtin Registry.isCanonical_base Registry.isCanonical_jsonSchema builtin)
    (Registry.of_builtin Registry.namesMeanings_base Registry.namesMeanings_jsonSchema builtin)
    (Registry.of_builtin Registry.laysOut_base Registry.laysOut_jsonSchema builtin) compiled
  refine ⟨mild, compiled', softens.levels, fun lacks subject isPartial accepted => ?_,
    fun lacks subject isPartial value => softens.completes lacks isPartial subject value⟩
  rw [Schema.success_iff] at accepted ⊢
  exact softens.eases lacks isPartial subject accepted

/-- A document in which the entry `n` is bounded from above. -/
def limiting : Value := .object [("entries", .object [("n", .object [("maximum", .ofNat 5)])])]

theorem lacks_limiting : Registry.base.Throughout
    (Registry.base.Lacks ["any_of", "not", "one_of", "if"]) limiting := by
  have passes : Registry.base.passesWithin (fun entries =>
      decide (Registry.base.Lacks ["any_of", "not", "one_of", "if"] entries)) 3 limiting = true := by
    decide +kernel
  exact (Registry.throughout_of_passesWithin passes).mono fun _ decided => of_decide_eq_true decided

theorem lenient_of_strict_limiting :
    ∃ schema after mild value,
      ((Environment.native 0).site.compile ⟨limiting, none, true, 0⟩).outcome [] = (.ok schema, after) ∧
      Registry.base.Throughout (Registry.base.Lacks ["any_of", "not", "one_of", "if"]) limiting ∧
      ((Environment.native 0).site.compile ⟨limiting, none, false, 0⟩).outcome [] = (.ok mild, after) ∧
      (mild.inside? [(0, 0)]).map Schema.level = some (none, ["maximum"]) ∧
      (mild.validate (.object [("n", .ofNat 3)]) false).success = true ∧
      mild.convert (.object [("n", .ofNat 9)]) false = .ok value ∧
      (value == .object [("n", .ofNat 5)]) = true := by
  obtain ⟨schema, after, compiled, seen⟩ := Compiling.exists_of_observed
    (show (((Environment.native 0).site.compile ⟨limiting, none, true, 0⟩).outcome []).1.toOption.map
      (fun schema => ((schema.inside? [(0, 0)]).map Schema.level,
        (schema.validate (.object [("n", .ofNat 3)]) false).success,
        (schema.convert (.object [("n", .ofNat 9)]) false).toOption.map
          (· == .object [("n", .ofNat 5)]))) =
        some (some (none, ["maximum"]), true, some true) by decide +kernel)
  obtain ⟨level, seen⟩ := Prod.mk.inj seen
  obtain ⟨valid, converted⟩ := Prod.mk.inj seen
  obtain ⟨value, made, equal⟩ := Option.map_eq_some_iff.mp converted
  obtain ⟨mild, compiled', levels, eases, completes⟩ := lenient_of_strict (.inl rfl) compiled
  have fewer := lacks_limiting.mono fun entries lacks =>
    lacks.mono fun name listed => List.mem_cons_of_mem "any_of" listed
  exact ⟨schema, after, mild, value, compiled, lacks_limiting, compiled', levels _ ▸ level,
    eases fewer _ _ valid, completes lacks_limiting _ _ _ (toOption_eq_some.mp made), equal⟩

end Site

end Conformance
