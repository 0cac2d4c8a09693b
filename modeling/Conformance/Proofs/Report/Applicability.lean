import Conformance.Proofs.Conversion.Unrepaired
import Conformance.Proofs.Report.Watching
/-!
Constraints run on what they apply to. A guard keeps the instances of other kinds from the rule of a
constraint. It is spared where the type of the document admits applicable kinds only; then a type that fails
ends validation before, and the whole floats that pass for integers are numbers as well. So no rule meets an
instance of a kind that it has nothing to say of, at any depth (`Environment.Reachable.enters_applicable`).
-/

namespace Conformance

open Behaviour (ownLeaves)

/-- The kinds of instance that the rule of a constraint has something to say of. -/
def Meaning.expects : Meaning → KindSet
  | .multipleOf => .number
  | .maximum => .number
  | .minimum => .number
  | .exclusiveMaximum => .number
  | .exclusiveMinimum => .number
  | .maxLength => .string
  | .minLength => .string
  | .pattern => .string
  | .format => .string
  | .items => .array
  | .maxSize => KindSet.array.union .object
  | .minSize => KindSet.array.union .object
  | .uniqueItems => .array
  | .contains => .array
  | .required => .object
  | .entries => .object
  | .patternEntries => .object
  | .additionalEntries => .object
  | .dependencies => .object
  | .entryNames => .object
  | _ => .any

/-- The kinds of instance that a check has something to say of. -/
def Check.expects : Check → KindSet
  | .multipleOf _ => .number
  | .maximum _ => .number
  | .minimum _ => .number
  | .below _ => .number
  | .above _ => .number
  | .maxLength _ => .string
  | .minLength _ => .string
  | .pattern _ => .string
  | .format _ _ => .string
  | .maxSize _ => KindSet.array.union .object
  | .minSize _ => KindSet.array.union .object
  | .uniqueItems => .array
  | .required _ => .object
  | _ => .any

/-- The kinds of instance that a rule has something to say of. -/
def Rule.expects : Rule → KindSet
  | .check rule => rule.expects
  | .items _ _ => .array
  | .contains _ => .array
  | .entries _ => .object
  | .patternEntries _ => .object
  | .additionalEntries _ _ _ => .object
  | .dependencies _ => .object
  | .entryNames _ => .object
  | _ => .any

/-- A check expects what the constraint expects that was read as it. -/
theorem Context.expects_of_check {context : Context} {meaning : Meaning} {value : Value} {check : Check}
    (read : context.check meaning value = .ok (some check)) : check.expects = meaning.expects := by
  unfold Context.check at read
  split at read
  all_goals grind [map_eq_ok, Meaning.expects, Check.expects]

theorem Rule.IsOf.expects {context : Context} {meaning : Meaning} {value : Value} {rule : Rule}
    (isOf : rule.IsOf context meaning value) : rule.expects = meaning.expects := by
  cases rule with
  | check check => exact Context.expects_of_check isOf
  | anyOf branches => exact (congrArg Meaning.expects isOf.1).symm
  | oneOf branches => exact (congrArg Meaning.expects isOf.1).symm
  | _ => exact (congrArg Meaning.expects isOf).symm

namespace Registry

/-- Whether the constraints of a registry apply only to kinds that they have something to say of, and the type
to every kind. -/
def IsApt (registry : Registry) : Prop :=
  ∀ entry ∈ registry.definitions,
    entry.2.applicableKinds.isSubset entry.2.meaning.expects = true ∧
      (entry.2.meaning = .ofKinds → entry.2.applicableKinds = .any)

instance (registry : Registry) : Decidable registry.IsApt :=
  inferInstanceAs (Decidable (∀ entry ∈ registry.definitions,
    entry.2.applicableKinds.isSubset entry.2.meaning.expects = true ∧
      (entry.2.meaning = .ofKinds → entry.2.applicableKinds = .any)))

theorem isApt_base : base.IsApt := by
  rw [base_eq]
  decide +kernel

theorem isApt_jsonSchema : jsonSchema.IsApt := by
  rw [jsonSchema_eq]
  decide +kernel

/-- Whether the constraint of a name applies to the instances of a kind. -/
def AppliesTo (registry : Registry) (name : String) (kind : Kind) : Prop :=
  ∃ definition, registry.get name = some definition ∧ kind ∈ definition.applicableKinds

end Registry

/-- Whether a rule met an instance of a kind that it has nothing to say of. -/
def Cause.isMisplaced : Cause → Bool
  | .unexpectedKind _ _ => true
  | _ => false

/-- Whether none of some leaves says that a rule met an instance of a kind that it has nothing to say of. -/
def NoneMisplaced (leaves : List Leaf) : Prop := ∀ leaf ∈ leaves, leaf.2.isMisplaced = false

section

variable {isPartial : Bool} {subject : Value}

theorem KindSet.mem_number (kind : Kind) : kind ∈ number ↔ kind = .integer ∨ kind = .float := by
  cases kind <;> decide

theorem KindSet.mem_collection (kind : Kind) :
    kind ∈ array.union object ↔ kind = .array ∨ kind = .object := by
  cases kind <;> decide

namespace Value

theorem exists_number_of_mem {value : Value} (numeric : value.kind ∈ KindSet.number) :
    ∃ number, value = .number number := by
  cases value with
  | number number => exact ⟨number, rfl⟩
  | _ => rcases (KindSet.mem_number _).mp numeric with same | same <;> cases same

theorem exists_size_of_mem {value : Value} (sized : value.kind ∈ KindSet.array.union .object) :
    ∃ size, Check.size? value = some size := by
  rcases (KindSet.mem_collection _).mp sized with isArray | isObject
  · obtain ⟨items, rfl⟩ := exists_array_of_kind isArray
    exact ⟨_, rfl⟩
  · obtain ⟨entries, rfl⟩ := exists_object_of_kind isObject
    exact ⟨_, rfl⟩

theorem kind_of_mem_singleton {value : Value} {kind : Kind}
    (same : value.kind ∈ KindSet.singleton kind) : value.kind = kind := by
  have found := KindSet.contains_singleton kind value.kind
  exact (of_decide_eq_true (found.symm.trans same)).symm

end Value

namespace Check

theorem isMisplaced_of_onNumber {holds : Number → Bool} {cause cause' : Cause}
    (own : cause.isMisplaced = false) (expected : subject.kind ∈ KindSet.number)
    (refused : onNumber subject holds cause = some cause') : cause'.isMisplaced = false := by
  obtain ⟨number, rfl⟩ := Value.exists_number_of_mem expected
  unfold onNumber at refused
  grind

theorem isMisplaced_of_onString {holds : String → Bool} {cause : String → Cause} {cause' : Cause}
    (own : ∀ text, (cause text).isMisplaced = false) (expected : subject.kind ∈ KindSet.string)
    (refused : onString subject holds cause = some cause') : cause'.isMisplaced = false := by
  obtain ⟨text, rfl⟩ := Value.exists_string_of_kind (Value.kind_of_mem_singleton expected)
  unfold onString at refused
  grind

theorem isMisplaced_of_onSize {holds : Nat → Bool} {cause : String → Cause} {cause' : Cause}
    (own : ∀ noun, (cause noun).isMisplaced = false)
    (expected : subject.kind ∈ KindSet.array.union .object)
    (refused : onSize subject holds cause = some cause') : cause'.isMisplaced = false := by
  obtain ⟨⟨size, noun⟩, sized⟩ := Value.exists_size_of_mem expected
  unfold onSize at refused
  rw [sized] at refused
  grind

/-- A check refuses what it expects for a cause of its own. -/
theorem isMisplaced_of_violation? {check : Check} {cause : Cause}
    (expected : subject.kind ∈ check.expects)
    (refused : check.violation? isPartial subject = some cause) : cause.isMisplaced = false := by
  cases check with
  | multipleOf divisor => exact isMisplaced_of_onNumber rfl expected refused
  | maximum bound => exact isMisplaced_of_onNumber rfl expected refused
  | minimum bound => exact isMisplaced_of_onNumber rfl expected refused
  | below bound => exact isMisplaced_of_onNumber rfl expected refused
  | above bound => exact isMisplaced_of_onNumber rfl expected refused
  | maxLength limit => exact isMisplaced_of_onString (fun _ => rfl) expected refused
  | minLength limit => exact isMisplaced_of_onString (fun _ => rfl) expected refused
  | pattern shape => exact isMisplaced_of_onString (fun _ => rfl) expected refused
  | format name grammar => exact isMisplaced_of_onString (fun _ => rfl) expected refused
  | maxSize limit => exact isMisplaced_of_onSize (fun _ => rfl) expected refused
  | minSize limit => exact isMisplaced_of_onSize (fun _ => rfl) expected refused
  | uniqueItems =>
      obtain ⟨items, rfl⟩ := Value.exists_array_of_kind (Value.kind_of_mem_singleton expected)
      unfold violation? at refused
      grind [Cause.isMisplaced]
  | required names =>
      obtain ⟨entries, rfl⟩ := Value.exists_object_of_kind (Value.kind_of_mem_singleton expected)
      unfold violation? at refused
      grind [Cause.isMisplaced]
  | _ =>
      unfold violation? at refused
      grind [Cause.isMisplaced]

end Check

namespace NoneMisplaced

variable {leaves : List Leaf}

theorem nil : NoneMisplaced [] := List.forall_mem_nil _

theorem ofCause {cause : Cause} (own : cause.isMisplaced = false) :
    NoneMisplaced (ownLeaves (some cause)) := List.forall_mem_singleton.mpr own

theorem under (none : NoneMisplaced leaves) (above : List Segment) :
    NoneMisplaced (leaves.map (Failure.leafUnder above)) :=
  List.forall_mem_map.mpr none

theorem flatMap {α : Type} {items : List α} {spread : α → List Leaf}
    (each : ∀ item ∈ items, NoneMisplaced (spread item)) : NoneMisplaced (items.flatMap spread) := by
  intro leaf member
  obtain ⟨item, listed, inside⟩ := List.mem_flatMap.mp member
  exact each item listed leaf inside

theorem onArray {leaves : List Value → List Leaf} (expected : subject.kind ∈ KindSet.array)
    (each : ∀ items, NoneMisplaced (leaves items)) :
    NoneMisplaced (Behaviour.onArray subject leaves) := by
  obtain ⟨items, rfl⟩ := Value.exists_array_of_kind (Value.kind_of_mem_singleton expected)
  exact each items

theorem onObject {leaves : List (String × Value) → List Leaf}
    (expected : subject.kind ∈ KindSet.object) (each : ∀ entries, NoneMisplaced (leaves entries)) :
    NoneMisplaced (Behaviour.onObject subject leaves) := by
  obtain ⟨entries, rfl⟩ := Value.exists_object_of_kind (Value.kind_of_mem_singleton expected)
  exact each entries

/-- What is reported of parts, if the sub-schemas that these are handed to report nothing misplaced. -/
theorem spread {parts : List Subschema} {handovers : List Handover}
    (none : ∀ part ∈ parts, ∀ subject, NoneMisplaced (part.leaves isPartial subject))
    (each : ∀ handover ∈ handovers, handover.part ∈ parts) :
    NoneMisplaced (Handover.spread isPartial handovers) :=
  flatMap fun handover member => (none _ (each handover member) handover.subject).under _

theorem unlessOne (none : NoneMisplaced leaves) (positions : List Nat) :
    NoneMisplaced (Behaviour.unlessOne leaves positions) := by
  unfold Behaviour.unlessOne
  split
  · exact none
  · exact nil
  · exact ofCause rfl

end NoneMisplaced

theorem Dependency.noneMisplaced {dependency : Dependency} {key : String}
    {entries : List (String × Value)}
    (parts : ∀ part ∈ dependency.subschemas, ∀ subject, NoneMisplaced (part.leaves isPartial subject)) :
    NoneMisplaced (dependency.leaves isPartial entries key) := by
  cases dependency with
  | peers names =>
      dsimp only [leaves]
      split
      · exact .nil
      · exact .ofCause rfl
  | whole part => exact parts part List.mem_cons_self _

/-- A rule on what it expects reports nothing misplaced, if its sub-schemas do not. -/
theorem Rule.noneMisplaced {rule : Rule} (expected : subject.kind ∈ rule.expects)
    (parts : ∀ part ∈ rule.subschemas, ∀ subject, NoneMisplaced (part.leaves isPartial subject)) :
    NoneMisplaced (rule.leaves isPartial subject) := by
  cases rule with
  | check check =>
      dsimp only [leaves]
      cases refused : check.violation? isPartial subject with
      | none => exact .nil
      | some cause => exact .ofCause (Check.isMisplaced_of_violation? expected refused)
  | items positional rest =>
      refine .onArray expected fun items => ?_
      split
      · exact .ofCause rfl
      · exact .spread parts (Handover.part_mem_items positional rest items)
  | contains part =>
      refine .onArray expected fun items => ?_
      split
      · exact .nil
      · exact .ofCause rfl
  | entries listed =>
      exact .onObject expected fun entries => .spread parts (Handover.part_mem_entries listed entries)
  | patternEntries listed =>
      exact .onObject expected fun entries =>
        .spread parts (Handover.part_mem_patternEntries listed entries)
  | additionalEntries listed patterns part =>
      exact .onObject expected fun entries =>
        .spread parts (Handover.part_mem_namedEntries part _ entries)
  | dependencies demands =>
      dsimp only [leaves]
      split
      · exact .nil
      · refine .onObject expected fun entries => .flatMap fun demand selected => .under ?_ _
        refine Dependency.noneMisplaced fun part inside => ?_
        exact parts part (List.mem_flatMap.mpr ⟨demand, (List.mem_filter.mp selected).1, inside⟩)
  | entryNames part =>
      refine .onObject expected fun entries => .spread parts ?_
      exact List.forall_mem_map.mpr fun name _ => List.mem_cons_self
  | allOf branches => exact .spread parts (Handover.part_mem_toBranches branches subject)
  | anyOf branches =>
      dsimp only [leaves]
      split
      · exact .nil
      · exact .spread parts (Handover.part_mem_toBranches branches subject)
  | oneOf branches =>
      exact .unlessOne (.spread parts (Handover.part_mem_toBranches branches subject)) _
  | negation part =>
      dsimp only [leaves]
      split
      · exact .ofCause rfl
      · exact .nil
  | conditional condition positive negative =>
      dsimp only [leaves]
      split
      · refine .spread parts (List.forall_mem_map.mpr fun part member => ?_)
        exact List.mem_cons_of_mem _ (List.mem_append_left _ member)
      · refine .spread parts (List.forall_mem_map.mpr fun part member => ?_)
        exact List.mem_cons_of_mem _ (List.mem_append_right _ member)
  | apply part => exact .spread parts (List.forall_mem_singleton.mpr List.mem_cons_self)

namespace Bound

/-- A constraint that expects what its rule is entered with reports nothing misplaced. -/
theorem noneMisplaced {bound : Bound}
    (expected : bound.LetsIn subject.kind → subject.kind ∈ bound.rule.expects)
    (parts : ∀ part ∈ bound.rule.subschemas, ∀ subject,
      NoneMisplaced (part.leaves isPartial subject)) :
    NoneMisplaced (bound.leaves isPartial subject) := by
  obtain ⟨name, terminal, _ | guard, rule⟩ := bound
  · exact (Rule.noneMisplaced (expected fun _ absent => nomatch absent) parts).under _
  · dsimp only [leaves]
    split
    · rename_i applies
      refine (Rule.noneMisplaced (expected fun _ same => ?_) parts).under _
      cases same
      exact applies
    · refine NoneMisplaced.under ?_ _
      split
      · exact .ofCause rfl
      · exact .nil

/-- What is reached behind a type are instances of the type. -/
theorem isOfKinds_of_reached {name : String} {kinds : KindSet} {bound : Bound} {others : List Bound}
    (member : bound ∈ reached isPartial subject (.ofType name kinds :: others)) :
    bound = .ofType name kinds ∨ bound ∈ others ∧ IsOfKinds kinds subject := by
  rcases List.mem_cons.mp member with here | behind
  · exact .inl here
  · refine .inr ?_
    split at behind
    · cases behind
    · rename_i passed
      rw [← accepts_step (show (ofType name kinds).rule.HasBranches from trivial)] at passed
      have accepted : (ofType name kinds).step.behaviour.accepts isPartial subject = true := by
        simpa [ofType, terminal] using passed
      refine ⟨mem_of_mem_reached behind, (@Check.ofKinds_eq_none isPartial subject kinds).mp ?_⟩
      exact (Behaviour.accepts_ofRule _).mp accepted

end Bound

/-- Whether a schema enters its rules, and the schemas inside theirs, only with what the constraints apply
to, and reports nothing misplaced. -/
def Schema.Applies (registry : Registry) (schema : Schema) : Prop :=
  ∀ isPartial subject,
    (∀ name part, schema.Enters isPartial subject name part → registry.AppliesTo name part.kind) ∧
    NoneMisplaced (schema.validate subject isPartial).leaves

theorem Rule.BuiltOf.noneMisplaced {registry : Registry} {rule : Rule}
    (built : rule.BuiltOf (Schema.Applies registry)) :
    ∀ part ∈ rule.subschemas, ∀ subject, NoneMisplaced (part.leaves isPartial subject) := by
  intro part included subject
  cases found : part with
  | accept => exact .nil
  | reject => exact .ofCause rfl
  | schema inner => exact (built part included inner found isPartial subject).2

/-- A schema runs on what applies if its constraints do so far as validation reaches them. -/
theorem Schema.applies_of_reached {registry : Registry} {schema : Schema}
    (branched : ∀ bound ∈ schema.constraints, bound.rule.HasBranches)
    (built : ∀ bound ∈ schema.constraints, bound.rule.BuiltOf (Schema.Applies registry))
    (each : ∀ isPartial subject, ∀ bound ∈ Bound.reached isPartial subject schema.constraints,
      bound.LetsIn subject.kind →
        registry.AppliesTo bound.name subject.kind ∧ subject.kind ∈ bound.rule.expects) :
    schema.Applies registry := by
  intro isPartial subject
  constructor
  · intro name part enters
    obtain ⟨bound, member, letsIn, own | ⟨inner, included, asked, inside⟩⟩ :=
      enters.exists_bound branched
    · obtain ⟨rfl, rfl⟩ := own
      exact (each isPartial _ bound member letsIn).1
    · have within := built bound (Bound.mem_of_mem_reached member) _ included inner rfl
      exact (within isPartial asked).1 name part inside
  · rw [Schema.leaves_of_branched branched]
    refine .flatMap fun bound member => Bound.noneMisplaced ?_ ?_
    · exact fun letsIn => (each isPartial subject bound member letsIn).2
    · exact (built bound (Bound.mem_of_mem_reached member)).noneMisplaced

end

namespace Registry

variable {registry : Registry} {name : String} {kind : Kind}

theorem IsApt.mem_expects (apt : registry.IsApt) {definition : Definition}
    (found : registry.get name = some definition) (applies : kind ∈ definition.applicableKinds) :
    kind ∈ definition.meaning.expects := by
  obtain ⟨target, _, present⟩ := Option.bind_eq_some_iff.mp found
  have included := (apt (target, definition) (Table.mem_of_lookup present)).1
  exact (KindSet.isSubset_iff _ _).mp included kind applies

/-- The type applies to instances of every kind. -/
theorem IsApt.appliesTo_type (apt : registry.IsApt) (regular : registry.Regular)
    (resolved : registry.resolve "type" = some name) (kind : Kind) : registry.AppliesTo name kind := by
  obtain ⟨definition, found, isType⟩ := Option.map_eq_some_iff.mp regular.typed
  rw [resolved] at found
  obtain ⟨target, _, present⟩ := Option.bind_eq_some_iff.mp (show registry.get name = _ from found)
  have any := (apt (target, definition) (Table.mem_of_lookup present)).2 isType
  refine ⟨definition, found, ?_⟩
  rw [any]
  exact KindSet.contains_any kind

end Registry

/-- A constraint that is bound in a context is entered with what it applies to, given that the instance is of
the declared kinds. -/
theorem Context.mem_of_letsIn {context : Context} {name : String} {applicable : KindSet} {rule : Rule}
    {subject : Value} (uniform : Kind.integer ∈ applicable → Kind.float ∈ applicable)
    (admitted : ∀ declared, context.declared = some declared → IsOfKinds declared subject)
    (letsIn : (Bound.mk name false (context.restriction applicable) rule).LetsIn subject.kind) :
    subject.kind ∈ applicable := by
  unfold Bound.LetsIn Bound.restriction restriction at letsIn
  cases declared : context.declared with
  | none =>
      rw [declared] at letsIn
      exact letsIn _ rfl
  | some kinds =>
      rw [declared] at letsIn
      by_cases spared : kinds.isSubset applicable = true
      · exact (admitted kinds declared).mem_of_isSubset spared uniform
      · refine letsIn ⟨applicable, false⟩ ?_
        dsimp only
        rw [if_neg spared]

namespace Site

/-- Whether a schema runs its constraints on what they apply to in the registry of a site. -/
def Applies (site : Site) (schema : Schema) : Prop :=
  site.settings.constraints.Regular → site.settings.constraints.IsApt →
    schema.Applies site.settings.constraints

/-- A schema runs its constraints on what they apply to if those that its document asks for do. -/
theorem inherits_applies (site : Site) : site.Inherits site.Applies := by
  intro source entries isObject
  by_cases plain : site.settings.constraints.Regular ∧ site.settings.constraints.IsApt
  · obtain ⟨regular, apt⟩ := plain
    have made := @Context.yields_made_bindAll (site.context source entries) site.Applies regular.typed
    refine (made.and Context.yields_account_bindAll).mono ?_
    rintro ⟨declared, bounds⟩ ⟨⟨others, isType, made⟩, _, account⟩ references _ _
    have applies : ∀ subject, (∀ kinds, declared = some kinds → IsOfKinds kinds subject) →
        ∀ other ∈ others, other.LetsIn subject.kind →
          site.settings.constraints.AppliesTo other.name subject.kind ∧
            subject.kind ∈ other.rule.expects := by
      intro subject admitted other member letsIn
      obtain ⟨definition, rule, isRule, _, entry, _, _, defined, _, isOf⟩ := made other member
      rw [isRule] at letsIn ⊢
      have applies := Context.mem_of_letsIn (regular.float_of_integer defined) admitted letsIn
      have expected := apt.mem_expects defined applies
      rw [← isOf.expects] at expected
      exact ⟨⟨definition, defined, applies⟩, expected⟩
    have built : ∀ other ∈ others,
        other.rule.BuiltOf (Schema.Applies site.settings.constraints) := by
      intro other member
      obtain ⟨definition, rule, isRule, built, _⟩ := made other member
      rw [isRule]
      exact fun part position inner isInner => built part position inner isInner regular apt
    have branched : ∀ bound ∈ bounds, bound.rule.HasBranches := fun bound member =>
      (account bound member).2
    -- The bound of the type comes first and ends the validation, so that what is reached behind it is of the kinds.
    rcases isType with untyped | ⟨name, kinds, typed⟩
    · cases untyped
      refine Schema.applies_of_reached branched built fun isPartial subject bound member => ?_
      exact applies subject (fun _ absent => nomatch absent) bound (Bound.mem_of_mem_reached member)
    · cases typed
      have resolved := (account _ List.mem_cons_self).1.mp rfl
      refine Schema.applies_of_reached branched ?_ fun isPartial subject bound member => ?_
      · exact List.forall_mem_cons.mpr ⟨List.forall_mem_nil _, built⟩
      · rcases Bound.isOfKinds_of_reached member with same | ⟨behind, ofKinds⟩
        · rw [same]
          exact fun _ => ⟨apt.appliesTo_type regular resolved _, KindSet.contains_any _⟩
        · refine applies subject (fun _ same => ?_) bound behind
          cases same
          exact ofKinds
  · exact (Binding.yields_trivial _).mono fun bound _ references regular apt =>
      absurd ⟨regular, apt⟩ plain

end Site

namespace Environment

variable {environment : Environment} {source : Source} {schema : Schema} {after : Cache}

/-- Over a built-in registry, validation enters the rule of a constraint only with instances of kinds that the
constraint applies to: in the schema itself, in the schemas inside and in those that it names. So no leaf of a
report says that a rule met a kind that it does not expect. -/
theorem Reachable.enters_applicable (reached : Reachable environment)
    (builtin : environment.settings.constraints = Registry.base ∨
      environment.settings.constraints = Registry.jsonSchema)
    (compiled : (environment.site.compile source).outcome environment.cache = (.ok schema, after))
    (subject : Value) (isPartial : Bool) :
    (schema.watch isPartial subject).result = (schema.validate subject isPartial).success ∧
    (∀ name part, schema.Enters isPartial subject name part →
      environment.settings.constraints.AppliesTo name part.kind) ∧
    ∀ path expected actual,
      (path, Cause.unexpectedKind expected actual) ∉ (schema.validate subject isPartial).leaves := by
  have regular := Registry.of_builtin Registry.regular_base Registry.regular_jsonSchema builtin
  have apt := Registry.of_builtin Registry.isApt_base Registry.isApt_jsonSchema builtin
  have cached := reached.keeps Site.inherits_applies
  have own := Site.Keeps.good_of_compile (Site.inherits_applies _) cached compiled
  obtain ⟨applies, none⟩ := own regular apt isPartial subject
  refine ⟨schema.result_watch isPartial subject, applies, fun path expected actual member => ?_⟩
  cases none _ member

/-- A document of a whole count and of a label, which is a word. -/
def counted : Value :=
  .object [("type", .string "dict"), ("entries", .object
    [("count", .object [("type", .string "int"), ("minimum", .ofNat 3)]), ("label", .string "word")])]

/-- The label is too short, and the count is a whole double. -/
def countedSubject : Value :=
  .object [("count", .number (.float (Double.ofInt 4))), ("label", .string "x")]

/-- The bound of the count is entered without a guard, with a double. -/
theorem Reachable.enters_applicable_counted :
    ∃ schema after part,
      Reachable wordy ∧ wordy.settings.constraints = Registry.base ∧
      (wordy.site.compile ⟨counted, none, true, 0⟩).outcome wordy.cache = (.ok schema, after) ∧
      schema.Enters false countedSubject "minimum" part ∧ part.kind = .float ∧
      wordy.settings.constraints.AppliesTo "minimum" part.kind ∧
      (schema.validate countedSubject false).leaves.map (fun leaf => pathText leaf.1) =
        ["entries/\x7blabel\x7d/min_length"] ∧
      ∀ path expected actual, (path, Cause.unexpectedKind expected actual) ∉
        (schema.validate countedSubject false).leaves := by
  have reached : Reachable wordy := .perform _ _ (.initial 0 "native" _ _ _)
  obtain ⟨schema, after, compiled, seen⟩ := Compiling.exists_of_observed
    (show ((wordy.site.compile ⟨counted, none, true, 0⟩).outcome wordy.cache).1.toOption.map
      (fun schema => ((schema.enteredWithin false 2 countedSubject).map
          fun entered => (entered.1, entered.2.kind),
        (schema.validate countedSubject false).leaves.map fun leaf => pathText leaf.1)) =
      some ([("type", .object), ("entries", .object), ("type", .float), ("minimum", .float),
        ("min_length", .string)], ["entries/\x7blabel\x7d/min_length"]) by
      unfold wordy native
      rw [Registry.base_eq]
      decide +kernel)
  obtain ⟨entered, leaves⟩ := Prod.mk.inj seen
  obtain ⟨_, applies, none⟩ :=
    reached.enters_applicable (.inl constraints_wordy) compiled countedSubject false
  have listed : ("minimum", Kind.float) ∈ (schema.enteredWithin false 2 countedSubject).map
      fun entered => (entered.1, entered.2.kind) := by
    rw [entered]
    decide
  obtain ⟨⟨name, part⟩, within, same⟩ := List.mem_map.mp listed
  obtain ⟨rfl, isFloat⟩ := Prod.mk.inj same
  have enters := Schema.enters_iff.mpr ⟨2, within⟩
  exact ⟨schema, after, part, reached, constraints_wordy, compiled, enters, isFloat,
    applies _ _ enters, leaves, none⟩

end Environment

end Conformance
