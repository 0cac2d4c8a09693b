import Conformance.Proofs.Compilation.Constraints
import Conformance.Proofs.Compilation.Shape
import Conformance.Proofs.Compilation.Subschemas
import Conformance.Proofs.Conversion.Faithful
import Conformance.Proofs.Satisfaction.Document
/-!
Conversion of valid instances. Over a document of the base registry without named schemas and without a
choice of any branch, what validation lets pass converts to an equal value, as long as there are no
doubles in the document and in the instance (`Site.converted_equal_of_valid`).
-/

namespace Conformance

namespace Rule

/-- Whether a rule is put together of sub-schemas otherwise than as a choice of any branch. -/
def isComposite : Rule → Bool
  | .check _ => false
  | .anyOf _ => false
  | _ => true

/-- Whether a rule is put together of sub-schemas, or looks for nothing but plain values. -/
def LooksPlain (rule : Rule) : Prop :=
  rule.isComposite = true ∨
    ∃ check, rule = .check check ∧ ∀ choice ∈ check.choices, choice.IsPlain

theorem faithful_demandsOf {demands : List (String × Dependency)}
    (made : (Rule.dependencies demands).MadeOf Behaviour.Faithful) :
    ∀ demand ∈ demandsOf demands, ∀ behaviour, demand.2 = .whole behaviour →
      behaviour.Faithful := by
  rw [demandsOf_eq_map]
  intro demand member behaviour whole
  obtain ⟨⟨name, dependency⟩, listed, rfl⟩ := List.mem_map.mp member
  cases dependency with
  | peers names => cases whole
  | whole schema =>
      cases whole
      exact made schema (List.mem_flatMap.mpr ⟨_, listed, List.mem_singleton.mpr rfl⟩)

/-- A rule that is made of faithful behaviours and looks for plain values is faithful. -/
theorem faithful {rule : Rule} (made : rule.MadeOf Behaviour.Faithful) (plain : rule.LooksPlain) :
    rule.behaviour.Faithful := by
  unfold MadeOf at made
  cases rule with
  | check check =>
      rcases plain with composite | ⟨_, same, plain⟩
      · cases composite
      · cases same
        exact Behaviour.faithful_ofRule plain
  | items positional rest =>
      obtain ⟨each, others⟩ := List.forall_mem_append.mp made
      unfold Rule.behaviour
      rw [behavioursOf_eq_map]
      exact Behaviour.faithful_items (List.forall_mem_map.mpr each) (others rest List.mem_cons_self)
  | contains item => exact Behaviour.faithful_contains (made item List.mem_cons_self)
  | entries listed =>
      have each : ∀ entry ∈ listed, entry.2.behaviour.Faithful :=
        fun entry member => made entry.2 (List.mem_map_of_mem member)
      unfold Rule.behaviour
      rw [entryBehavioursOf_eq_map]
      exact Behaviour.faithful_entries (List.forall_mem_map.mpr each)
  | patternEntries listed =>
      have each : ∀ entry ∈ listed, entry.2.behaviour.Faithful :=
        fun entry member => made entry.2 (List.mem_map_of_mem member)
      unfold Rule.behaviour
      rw [patternBehavioursOf_eq_map]
      exact Behaviour.faithful_patternEntries (List.forall_mem_map.mpr each)
  | additionalEntries listed patterns entry =>
      exact Behaviour.faithful_additionalEntries (made entry List.mem_cons_self) listed patterns
  | dependencies demands => exact Behaviour.faithful_dependencies (faithful_demandsOf made)
  | entryNames name => exact Behaviour.faithful_entryNames
  | allOf branches =>
      unfold Rule.behaviour
      rw [behavioursOf_eq_map]
      exact Behaviour.faithful_allOf (List.forall_mem_map.mpr made)
  | anyOf branches =>
      rcases plain with composite | ⟨_, same, _⟩
      · cases composite
      · cases same
  | oneOf branches =>
      unfold Rule.behaviour
      rw [behavioursOf_eq_map]
      exact Behaviour.faithful_oneOf (List.forall_mem_map.mpr made)
  | negation excluded => exact Behaviour.faithful_negation (made excluded List.mem_cons_self)
  | conditional condition positive negative =>
      obtain ⟨first, branches⟩ := List.forall_mem_cons.mp made
      unfold Rule.behaviour
      rw [behaviourOf?_eq_map, behaviourOf?_eq_map]
      refine Behaviour.faithful_conditional first fun choice isChoice => ?_
      rcases isChoice with found | found
      · obtain ⟨schema, rfl, rfl⟩ := Option.map_eq_some_iff.mp found
        exact branches schema (List.mem_append_left _ (Option.mem_toList.mpr rfl))
      · obtain ⟨schema, rfl, rfl⟩ := Option.map_eq_some_iff.mp found
        exact branches schema (List.mem_append_right _ (Option.mem_toList.mpr rfl))
  | apply whole => exact Behaviour.faithful_under (made whole List.mem_cons_self) _

end Rule

theorem Bound.faithful {name : String} {terminal : Bool} {restriction : Option Guard} {rule : Rule}
    (faithful : rule.behaviour.Faithful) :
    (Bound.mk name terminal restriction rule).step.behaviour.Faithful := by
  cases restriction with
  | none => exact faithful
  | some guard => exact Behaviour.faithful_guarded faithful guard.applicable guard.strict

namespace Context

variable {context : Context} {good : Value → Schema → Prop} {meaning : Meaning} {value : Value}

theorem isPlain_of_mem_choices {check : Check} (plain : value.IsPlain)
    (read : context.check meaning value = .ok (some check)) :
    ∀ choice ∈ check.choices, choice.IsPlain := by
  intro choice member
  cases check with
  | among choices =>
      cases value_of_among read
      exact plain.item member
  | constant expected =>
      cases value_of_constant read
      rwa [List.mem_singleton.mp member]
  | _ => cases member

/-- The rule of a constraint other than the choice of any branch looks for nothing but plain values, if
the constraint's value is plain. -/
theorem ensures_looksPlain_rule (plain : value.IsPlain) (notAny : meaning ≠ .anyOf) :
    (context.rule meaning value).Ensures good fun rule? =>
      ∀ rule, rule? = some rule → rule.LooksPlain := by
  refine (context.ensures_shape_rule meaning value).mono fun rule? shape rule same => ?_
  have isOf := shape rule same
  cases rule with
  | check check => exact .inr ⟨check, rfl, isPlain_of_mem_choices plain isOf⟩
  | anyOf branches => exact absurd isOf.1 notAny
  | _ => exact .inl rfl

end Context

namespace Registry

/-- No aliases, and the choice of any branch under its own name only. -/
theorem base_anyOf : base.aliases = [] ∧ ∀ name ∈ base.names,
    (base.get name).map Definition.meaning = some .anyOf → name = "any_of" := by
  rw [base_eq]
  decide +kernel

end Registry

namespace Site

variable {site : Site} {source : Source} {schema : Schema} {cache after : Cache}

theorem faithful_schema {entries : List (String × Value)}
    (base : site.settings.constraints = Registry.base)
    (plain : (Value.object entries).IsPlain)
    (avoids : ∀ entry ∈ entries, Registry.base.resolve entry.1 ≠ some "any_of") :
    Context.EndsWith Behaviour.Faithful
      (fun bound => ∀ references,
        (site.schema source bound.1 bound.2 references).behaviour.Faithful)
      (site.context source entries).bindAll := by
  have typed := Registry.regular_base.typed
  rw [← base] at typed
  have each : ∀ declared entry name definition,
      { site.context source entries with declared := declared }.Introduces entry name definition →
      Context.EndsWith Behaviour.Faithful
        (fun rule? => ∀ rule, rule? = some rule → rule.behaviour.Faithful)
        ({ site.context source entries with declared := declared, constraint := name }.rule
          definition.meaning entry.2) := by
    intro declared entry name definition introduces
    have resolved : site.settings.constraints.resolve entry.1 = some name := introduces.resolved
    have defined : site.settings.constraints.get name = some definition := introduces.defined
    have notAny : definition.meaning ≠ .anyOf := by
      intro isAny
      rw [base] at resolved defined
      have unaliased : ∀ entry ∈ Registry.base.aliases, entry.2 ∈ Registry.base.names := by
        rw [Registry.base_anyOf.1]
        exact List.forall_mem_nil _
      have named := Registry.mem_names_of_resolve unaliased resolved
      have meaning : (Registry.base.get name).map Definition.meaning = some .anyOf := by
        rw [defined, Option.map_some, isAny]
      rw [Registry.base_anyOf.2 name named meaning] at resolved
      exact avoids entry introduces.mem resolved
    have value : entry.2.IsPlain :=
      plain.part (Value.mem_parts.mpr (.inr ⟨entry, introduces.mem, rfl⟩))
    have made := Context.ensures_subschemas_rule
      { site.context source entries with declared := declared, constraint := name }
      Behaviour.faithful_pass Behaviour.faithful_refuse definition.meaning entry.2
    refine (made.and (Context.ensures_looksPlain_rule value notAny)).mono ?_
    exact fun rule? both rule same => Rule.faithful (both.1 rule same) (both.2 rule same)
  refine (Context.ensures_constraints_bindAll typed each).mono ?_
  intro bound ⟨others, typed, _, made⟩ references
  have first : ∀ other ∈ others, other.step.behaviour.Faithful := by
    intro other member
    obtain ⟨definition, rule, same, faithful⟩ := made other member
    rw [same]
    exact Bound.faithful faithful
  have all : ∀ other ∈ bound.2, other.step.behaviour.Faithful := by
    rcases typed with rfl | ⟨name, kinds, rfl⟩
    · exact first
    · refine List.forall_mem_cons.mpr ⟨Bound.faithful ?_, first⟩
      exact Behaviour.faithful_ofRule (List.forall_mem_nil _)
  unfold schema Schema.behaviour
  rw [stepsOf_eq_map]
  exact Step.faithful_sequence _ (List.forall_mem_map.mpr all)

/-- What is valid over a document of the base registry converts to an equal value, if the document names no
schemas, offers no choice of any branch and holds no doubles, and neither does the instance. -/
theorem converted_equal_of_valid (base : site.settings.constraints = Registry.base)
    (closed : Registry.base.IsClosed source.document)
    (avoids : Registry.base.Avoids "any_of" source.document) (plain : source.document.IsPlain)
    (compiled : (site.compile source).outcome cache = (.ok schema, after)) {subject : Value}
    {isPartial : Bool} (plainSubject : subject.IsPlain)
    (valid : (schema.validate subject isPartial).success = true) :
    ∃ value, schema.convert subject isPartial = .ok value ∧ (value == subject) = true := by
  rw [← base] at closed avoids
  have throughout := (avoids.and (Registry.throughout_of_everywhere plain.keyed)).and
    (Registry.throughout_of_everywhere plain.floatless)
  have step : ∀ source entries, source.document = .object entries →
      (((∀ entry ∈ entries, site.settings.constraints.resolve entry.1 ≠ some "any_of") ∧
        (Value.object entries).isKeyed = true) ∧ (Value.object entries).isFloatless = true) →
      Context.EndsWith Behaviour.Faithful
        (fun bound => ∀ references,
          (site.schema source bound.1 bound.2 references).behaviour.Faithful)
        (site.context source entries).bindAll := by
    rintro source entries _ ⟨⟨avoids, keyed⟩, floatless⟩
    rw [base] at avoids
    exact faithful_schema base ⟨keyed, floatless⟩ avoids
  have faithful := good_of_compileWithin step compiled closed throughout
  obtain ⟨value, made, copied⟩ := faithful.keeps plainSubject (schema.success_iff.mp valid)
  exact ⟨value, made, copied.equal⟩

/-- A document that asks for one of a constant and an entry, and for more than one entry. -/
def chosen : Value :=
  .object [("type", .string "dict"),
    ("one_of", .array [.object [("const", .object [("n", .ofNat 1), ("tag", .string "x")])],
      .object [("required", .array [.string "other"])]]),
    ("not", .object [("max_entries", .ofNat 1)])]

/-- An instance that equals the constant, with its entries in another order. -/
def reversed : Value := .object [("tag", .string "x"), ("n", .ofNat 1)]

theorem isClosed_chosen : Registry.base.IsClosed chosen :=
  Registry.isClosed_of_passesWithin
    (show Registry.base.passesWithin _ 3 chosen = true by decide +kernel)

theorem avoids_chosen : Registry.base.Avoids "any_of" chosen := by
  have passes : Registry.base.passesWithin
      (fun entries => entries.all (fun entry => Registry.base.resolve entry.1 != some "any_of")) 3
      chosen = true := by
    rw [Registry.base_eq]
    decide +kernel
  refine (Registry.throughout_of_passesWithin passes).mono fun entries each entry member => ?_
  exact bne_iff_ne.mp (List.all_eq_true.mp each entry member)

theorem converted_equal_of_valid_chosen :
    ∃ schema after value,
      Registry.base.IsClosed chosen ∧ Registry.base.Avoids "any_of" chosen ∧ chosen.IsPlain ∧
      ((Environment.native 0).site.compile ⟨chosen, none, true, 0⟩).outcome [] =
        (.ok schema, after) ∧
      reversed.IsPlain ∧ (schema.validate reversed false).success = true ∧
      schema.convert reversed false = .ok value ∧ (value == reversed) = true := by
  obtain ⟨schema, after, compiled, valid⟩ := Compiling.exists_of_observed
    (show (((Environment.native 0).site.compile ⟨chosen, none, true, 0⟩).outcome []).1.toOption.map
      (fun schema => (schema.validate reversed false).success) = some true by decide +kernel)
  have plain : chosen.IsPlain := ⟨by decide +kernel, by decide +kernel⟩
  have plainReversed : reversed.IsPlain := ⟨by decide +kernel, by decide +kernel⟩
  obtain ⟨value, made, equal⟩ := converted_equal_of_valid rfl isClosed_chosen avoids_chosen plain
    compiled plainReversed valid
  exact ⟨schema, after, value, isClosed_chosen, avoids_chosen, plain, compiled, plainReversed, valid,
    made, equal⟩

end Site

end Conformance
