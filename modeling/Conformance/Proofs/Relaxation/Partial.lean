import Conformance.Proofs.Compilation.Constraints
import Conformance.Proofs.Relaxation.Keywords
import Conformance.Proofs.Relaxation.Presence
import Conformance.Proofs.Satisfaction.Document
/-!
Partial instances. That an instance is partial only ever helps it. Over a built-in registry, a document
that requires no entries treats partial instances like all others; one that requires entries, but not where
a refusal may let an instance pass, lets pass every partial instance that it lets pass otherwise
(`Site.partial_relaxes`).
-/

namespace Conformance

namespace Registry

/-- Whether a document requires no entries to be present, neither by themselves nor beside others. -/
def AsksNoPresence (registry : Registry) (entries : List (String × Value)) : Prop :=
  registry.Lacks ["required"] entries ∧
    ∀ entry ∈ entries, registry.spells "dependencies" entry.1 = true →
      ∀ field ∈ entry.2.fields, field.2.kind ≠ .array

instance (registry : Registry) (entries : List (String × Value)) :
    Decidable (registry.AsksNoPresence entries) :=
  inferInstanceAs (Decidable (registry.Lacks ["required"] entries ∧
    ∀ entry ∈ entries, registry.spells "dependencies" entry.1 = true →
      ∀ field ∈ entry.2.fields, field.2.kind ≠ .array))

/-- Whether no entries are required, at any depth, where a refusal may let an instance pass. -/
def ShieldsPresence (registry : Registry) (entries : List (String × Value)) : Prop :=
  ∀ entry ∈ entries, ∀ name ∈ Rule.decidingNames, registry.spells name entry.1 = true →
    ∀ document ∈ registry.positions entry, registry.Throughout registry.AsksNoPresence document

end Registry

namespace Context

section

variable (context : Context) {good : Value → Schema → Prop}

theorem ensures_peers_dependency (key : String) (value : Value) :
    (context.dependency key value).Ensures good fun demand =>
      ∀ names, demand = .peers names → value.kind = .array := by
  unfold dependency
  split
  · exact (Binding.ensures_trivial _).bind fun names _ _ _ => rfl
  · exact (Binding.ensures_trivial _).bind fun part _ names same => nomatch same
  · exact (Binding.ensures_trivial _).bind fun part _ names same => nomatch same
  · trivial

theorem ensures_peers_dependencies (entries : List (String × Value)) :
    (context.dependenciesOfEntries entries).Ensures good fun demands =>
      ∀ demand ∈ demands, ∀ names, demand.2 = .peers names →
        ∃ entry ∈ entries, entry.2.kind = .array := by
  induction entries with
  | nil => exact List.forall_mem_nil _
  | cons entry entries ih =>
      refine (context.ensures_peers_dependency entry.1 entry.2).bind fun demand first => ?_
      refine ih.bind fun demands others => List.forall_mem_cons.mpr ⟨fun names peers => ?_, ?_⟩
      · exact ⟨entry, List.mem_cons_self, first names peers⟩
      · intro other member names peers
        obtain ⟨found, listed, isArray⟩ := others other member names peers
        exact ⟨found, List.mem_cons_of_mem _ listed, isArray⟩

/-- Peers are asked for by a list of names in the constraint's value. -/
theorem ensures_peers_rule (value : Value) :
    (context.rule .dependencies value).Ensures good fun rule? =>
      ∀ demands, rule? = some (.dependencies demands) → ∀ demand ∈ demands, ∀ names,
        demand.2 = .peers names → ∃ field ∈ value.fields, field.2.kind = .array := by
  have inside : (context.dependencies value).Ensures good fun rule =>
      ∀ demands, rule = .dependencies demands → ∀ demand ∈ demands, ∀ names,
        demand.2 = .peers names → ∃ field ∈ value.fields, field.2.kind = .array := by
    unfold Context.dependencies
    split
    · refine (context.ensures_peers_dependencies _).bind fun demands held => ?_
      rintro _ ⟨⟩
      exact held
    · trivial
  refine inside.bind fun rule held demands same => ?_
  exact held demands (Option.some.inj same)

end

variable {context : Context} {meaning : Meaning} {value : Value} {good : Value → Schema → Prop}

theorem meaning_of_required {names : List String}
    (read : context.check meaning value = .ok (some (.required names))) : meaning = .required := by
  unfold Context.check at read
  split at read
  all_goals grind [map_eq_ok]

theorem ensures_asksNoPresence_rule (notRequired : meaning ≠ .required)
    (noPeers : meaning = .dependencies → ∀ field ∈ value.fields, field.2.kind ≠ .array) :
    (context.rule meaning value).Ensures good fun rule? =>
      ∀ rule, rule? = some rule → rule.AsksNoPresence := by
  have shape := @ensures_shape_rule context good meaning value
  have peers : (context.rule meaning value).Ensures good fun rule? =>
      ∀ demands, rule? = some (.dependencies demands) → ∀ demand ∈ demands, ∀ names,
        demand.2 ≠ .peers names := by
    by_cases same : meaning = .dependencies
    · subst same
      refine (context.ensures_peers_rule value).mono fun rule? held demands found => ?_
      intro demand member names asked
      obtain ⟨field, listed, isArray⟩ := held demands found demand member names asked
      exact noPeers rfl field listed isArray
    · exact shape.mono fun rule? isOf demands found => absurd (isOf _ found) same
  refine (shape.and peers).mono fun rule? ⟨isOf, apart⟩ rule found => ?_
  cases rule with
  | check check =>
      cases check with
      | required names => exact notRequired (meaning_of_required (isOf _ found))
      | _ => trivial
  | dependencies demands => exact apart demands found
  | _ => trivial

end Context

/-- What being partial changes for instances, by what a document requires: nothing if it requires nothing,
and otherwise nothing to their disadvantage if it requires nothing where a refusal lets instances pass. -/
structure Registry.Relaxes (registry : Registry) (document : Value) (behaviour : Behaviour) : Prop where
  ignores : registry.Throughout registry.AsksNoPresence document → behaviour.IgnoresPartial
  eases : registry.Throughout registry.ShieldsPresence document →
    Behaviour.Eases false true behaviour behaviour

/-- Whether all constraints of a schema treat partial instances as its document asks for. -/
def Registry.RelaxesEach (registry : Registry) (document : Value) (schema : Schema) : Prop :=
  ∀ bound ∈ schema.constraints, registry.Relaxes document bound.step.behaviour

namespace Registry

variable {registry : Registry} {document : Value}

theorem relaxes_ofRule {check : Check} (other : ∀ names, check ≠ .required names) :
    registry.Relaxes document (.ofRule check) where
  ignores _ := Behaviour.ignoresPartial_ofRule other
  eases _ := Behaviour.eases_ofRule (fun _ => rfl) check

theorem Relaxes.step {rule : Rule} (relaxes : registry.Relaxes document rule.behaviour) (name : String)
    (terminal : Bool) (restriction : Option Guard) :
    registry.Relaxes document (Bound.mk name terminal restriction rule).step.behaviour := by
  cases restriction with
  | none => exact relaxes
  | some guard =>
      exact ⟨fun absent => Behaviour.ignoresPartial_guarded (relaxes.ignores absent) _ _,
        fun shielded => Behaviour.eases_guarded (relaxes.eases shielded) _ id⟩

theorem RelaxesEach.behaviour {schema : Schema} (each : registry.RelaxesEach document schema) :
    registry.Relaxes document schema.behaviour where
  ignores absent := Schema.IgnoresPartial.behaviour fun bound member => (each bound member).ignores absent
  eases shielded :=
    Schema.eases (List.forall₂_same.mpr fun bound member => (each bound member).eases shielded)

end Registry

namespace Context

variable {context : Context}

/-- A rule treats partial instances as the document asks for, if the schemas do that it gets for the
documents inside. -/
theorem ensures_relaxes_rule (canonical : context.settings.constraints.IsCanonical)
    (meanings : context.settings.constraints.NamesMeanings) {entry : String × Value} {name : String}
    {definition : Definition} (introduces : context.Introduces entry name definition) :
    ({ context with constraint := name }.rule definition.meaning entry.2).Ensures
      context.settings.constraints.RelaxesEach fun rule? => ∀ rule : Rule, rule? = some rule →
        context.settings.constraints.Relaxes (.object context.entries) rule.behaviour := by
  let inside : Context := { context with constraint := name }
  have spelled {spelling : String}
      (named : (spelling, definition.meaning) ∈ Registry.namedMeanings) :
      context.settings.constraints.spells spelling entry.1 = true :=
    Registry.spells_of_meaning canonical meanings introduces.resolved introduces.defined named
  have own : ∀ document ∈ definition.meaning.layout.subschemas entry.2,
      document ∈ context.settings.constraints.positions entry :=
    fun document => Registry.mem_positions_of_layout introduces.resolved introduces.defined
  have located := @ensures_located_rule inside context.settings.constraints.RelaxesEach
    definition.meaning entry.2 fun document member =>
      Registry.mem_subschemas introduces.mem (own document member)
  have shape := @ensures_shape_rule inside context.settings.constraints.RelaxesEach definition.meaning
    entry.2
  have deciding := @ensures_deciding_rule inside context.settings.constraints.RelaxesEach
    definition.meaning entry.2
  have absence : (inside.rule definition.meaning entry.2).Ensures
      context.settings.constraints.RelaxesEach fun rule? => ∀ rule, rule? = some rule →
        context.settings.constraints.AsksNoPresence context.entries → rule.AsksNoPresence := by
    by_cases absent : context.settings.constraints.AsksNoPresence context.entries
    · have notRequired : definition.meaning ≠ .required :=
        absent.1.meaning_ne canonical meanings introduces.mem introduces.resolved introduces.defined
          (show ("required", _) ∈ _ by decide) (by decide)
      refine (ensures_asksNoPresence_rule notRequired fun isDependencies => ?_).mono
        fun rule? held rule found _ => held rule found
      exact absent.2 entry introduces.mem (spelled (by rw [isDependencies]; decide))
    · exact (Binding.ensures_trivial _).mono fun rule? _ rule _ asks => absurd asks absent
  refine (located.and (shape.and (deciding.and absence))).mono ?_
  rintro rule? ⟨built, isOf, decides, absent⟩ rule found
  constructor
  · intro throughout
    have made : rule.MadeOf Behaviour.IgnoresPartial := by
      refine Rule.BuiltOf.madeOf Behaviour.ignoresPartial_pass Behaviour.ignoresPartial_refuse ?_
      intro part position schema isSchema
      obtain ⟨document, member, relaxes⟩ := built rule found part position schema isSchema
      exact (Registry.RelaxesEach.behaviour relaxes).ignores (throughout.inside member)
    exact Rule.ignoresPartial made (absent rule found throughout.here)
  · intro throughout
    have beside : rule.Beside (fun part part' =>
        Behaviour.Eases false true part.behaviour part'.behaviour) rule := by
      refine Rule.beside_self fun part position => ?_
      cases part with
      | accept => exact Behaviour.eases_pass
      | reject => exact Behaviour.eases_refuse
      | schema schema =>
          obtain ⟨document, member, relaxes⟩ := built rule found _ position schema rfl
          exact (Registry.RelaxesEach.behaviour relaxes).eases (throughout.inside member)
    refine beside.eases (fun _ => rfl) (List.forall₂_same.mpr fun part member => ?_)
    cases part with
    | accept => exact Behaviour.decidesAlike_pass
    | reject => exact Behaviour.decidesAlike_refuse
    | schema schema =>
        obtain ⟨spelling, listed, named⟩ := (isOf rule found).named_of_deciding member
        obtain ⟨document, position, relaxes⟩ := decides rule found _ member schema rfl
        have absent := throughout.here entry introduces.mem spelling listed (spelled named) document
          (own document position)
        exact ((Registry.RelaxesEach.behaviour relaxes).ignores absent).decidesAlike

end Context

namespace Site

variable {site : Site} {source : Source} {schema : Schema} {cache after : Cache}

/-- What a document compiles to treats partial instances as the document asks for. -/
theorem relaxesEach_of_compile (regular : site.settings.constraints.Regular)
    (canonical : site.settings.constraints.IsCanonical)
    (meanings : site.settings.constraints.NamesMeanings)
    (closed : site.settings.constraints.IsClosed source.document)
    (compiled : (site.compile source).outcome cache = (.ok schema, after)) :
    site.settings.constraints.RelaxesEach source.document schema := by
  refine goodFor_of_compileWithin (fun source entries isObject => ?_) compiled closed
  refine (@Context.ensures_constraints_bindAll (site.context source entries)
    site.settings.constraints.RelaxesEach (fun _ _ rule =>
      site.settings.constraints.Relaxes (.object entries) rule.behaviour) regular.typed
    fun declared entry name definition introduces =>
      Context.ensures_relaxes_rule canonical meanings introduces).mono ?_
  rintro bound ⟨others, isType, _, held⟩ references
  have behind : ∀ other ∈ others,
      site.settings.constraints.Relaxes (.object entries) other.step.behaviour := by
    intro other member
    obtain ⟨definition, rule, isRule, relaxes⟩ := held other member
    rw [isRule]
    exact relaxes.step _ _ _
  rcases isType with rfl | ⟨name, kinds, rfl⟩
  · exact behind
  · refine List.forall_mem_cons.mpr ⟨?_, behind⟩
    exact Registry.relaxes_ofRule fun names same => nomatch same

/-- That an instance is partial only ever relaxes what a document without names of other schemas asks of
it, over a built-in registry. A document that requires no entries gives the same report and converts alike
in both ways. One that requires entries, but none where a refusal may let an instance pass, lets every
partial instance pass that it lets pass otherwise. -/
theorem partial_relaxes (builtin : site.settings.constraints = Registry.base ∨
      site.settings.constraints = Registry.jsonSchema)
    (closed : site.settings.constraints.IsClosed source.document)
    (compiled : (site.compile source).outcome cache = (.ok schema, after)) :
    (site.settings.constraints.Throughout site.settings.constraints.AsksNoPresence source.document →
      ∀ subject, schema.validate subject true = schema.validate subject false ∧
        schema.convert subject true = schema.convert subject false) ∧
    (site.settings.constraints.Throughout site.settings.constraints.ShieldsPresence source.document →
      ∀ subject, (schema.validate subject false).success = true →
        (schema.validate subject true).success = true) := by
  have relaxes := relaxesEach_of_compile
    (Registry.of_builtin Registry.regular_base Registry.regular_jsonSchema builtin)
    (Registry.of_builtin Registry.isCanonical_base Registry.isCanonical_jsonSchema builtin)
    (Registry.of_builtin Registry.namesMeanings_base Registry.namesMeanings_jsonSchema builtin)
    closed compiled
  constructor
  · intro absent subject
    have ignores : schema.IgnoresPartial := fun bound member => (relaxes bound member).ignores absent
    exact ⟨ignores.validate subject, congrFun ignores.behaviour.convert subject⟩
  · intro shielded subject accepted
    rw [Schema.success_iff] at accepted ⊢
    exact relaxes.behaviour.eases shielded subject accepted

/-- A document in which the entry `id` is a number below a bound. -/
def bounding : List (String × Value) :=
  [("entries", .object [("id", .object [("not", .object [("minimum", .ofNat 5)])])])]

/-- The same, where the entry is required. -/
def requiring : List (String × Value) := ("required", .array [.string "id"]) :: bounding

/-- The tests that the two documents pass, taken together, as each of them evaluates the registry. -/
theorem passes_requiring_bounding :
    (Registry.base.passesWithin (fun entries =>
        (Registry.base.subschemas entries).all (·.kind != .string)) 4 (.object requiring) = true ∧
      Registry.base.passesWithin (fun entries => entries.all fun entry =>
        !(Rule.decidingNames.any (Registry.base.spells · entry.1)) ||
          (Registry.base.positions entry).all (Registry.base.passesWithin
            (fun inner => decide (Registry.base.AsksNoPresence inner)) 2)) 4 (.object requiring) =
        true) ∧
    Registry.base.passesWithin (fun entries =>
        (Registry.base.subschemas entries).all (·.kind != .string)) 4 (.object bounding) = true ∧
    Registry.base.passesWithin
      (fun entries => decide (Registry.base.AsksNoPresence entries)) 4 (.object bounding) = true := by
  decide +kernel

theorem isClosed_requiring : Registry.base.IsClosed (.object requiring) :=
  Registry.isClosed_of_passesWithin passes_requiring_bounding.1.1

theorem isClosed_bounding : Registry.base.IsClosed (.object bounding) :=
  Registry.isClosed_of_passesWithin passes_requiring_bounding.2.1

theorem asksNoPresence_bounding :
    Registry.base.Throughout Registry.base.AsksNoPresence (.object bounding) :=
  (Registry.throughout_of_passesWithin passes_requiring_bounding.2.2).mono
    fun _ decided => of_decide_eq_true decided

theorem shieldsPresence_requiring :
    Registry.base.Throughout Registry.base.ShieldsPresence (.object requiring) := by
  refine (Registry.throughout_of_passesWithin passes_requiring_bounding.1.2).mono
    fun entries all entry member name listed spelled document position => ?_
  have any : Rule.decidingNames.any (Registry.base.spells · entry.1) = true :=
    List.any_eq_true.mpr ⟨name, listed, spelled⟩
  have inside := List.all_eq_true.mp all entry member
  rw [any, Bool.not_true, Bool.false_or] at inside
  exact (Registry.throughout_of_passesWithin (List.all_eq_true.mp inside document position)).mono
    fun _ decided => of_decide_eq_true decided

/-- An instance that has the entry, within its bound. -/
def identified : Value := .object [("id", .ofNat 3)]

theorem partial_relaxes_identified :
    ∃ schema after other after',
      Registry.base.IsClosed (.object requiring) ∧
      Registry.base.Throughout Registry.base.ShieldsPresence (.object requiring) ∧
      ((Environment.native 0).site.compile ⟨.object requiring, none, true, 0⟩).outcome [] =
        (.ok schema, after) ∧
      (schema.validate identified false).success = true ∧
      (schema.validate identified true).success = true ∧
      Registry.base.IsClosed (.object bounding) ∧
      Registry.base.Throughout Registry.base.AsksNoPresence (.object bounding) ∧
      ((Environment.native 0).site.compile ⟨.object bounding, none, true, 0⟩).outcome [] =
        (.ok other, after') ∧
      other.validate identified true = other.validate identified false ∧
      other.convert identified true = other.convert identified false := by
  have compiles : (((Environment.native 0).site.compile
        ⟨.object requiring, none, true, 0⟩).outcome []).1.toOption.map
      (fun schema => (schema.validate identified false).success) = some true ∧
    (((Environment.native 0).site.compile
        ⟨.object bounding, none, true, 0⟩).outcome []).1.toOption.map
      (fun schema => schema.strict) = some true := by decide +kernel
  obtain ⟨schema, after, compiled, valid⟩ := Compiling.exists_of_observed compiles.1
  obtain ⟨other, after', compiled', _⟩ := Compiling.exists_of_observed compiles.2
  have eased := (partial_relaxes (.inl rfl) isClosed_requiring compiled).2 shieldsPresence_requiring
    identified valid
  obtain ⟨same, same'⟩ := (partial_relaxes (.inl rfl) isClosed_bounding compiled').1
    asksNoPresence_bounding identified
  exact ⟨schema, after, other, after', isClosed_requiring, shieldsPresence_requiring, compiled, valid,
    eased, isClosed_bounding, asksNoPresence_bounding, compiled', same, same'⟩

end Site

end Conformance
