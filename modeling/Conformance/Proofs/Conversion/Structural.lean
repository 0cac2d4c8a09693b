import Conformance.Proofs.Compilation.Constraints
import Conformance.Proofs.Compilation.Subschemas
import Conformance.Proofs.Conversion.Fixpoint
import Conformance.Proofs.Satisfaction.Document
/-!
Conversion on structural documents. Of the constraints with a rule these use the type and six others,
each for one kind of instance. Each of the six makes only fixpoints of its own, of the kind that it was
given, and none disturbs what another fixes: so conversion makes only what validation lets pass and what
a second conversion leaves as it is (`Context.fixed_of_structural`).
-/

namespace Conformance

theorem KindSet.mem_singleton {kind other : Kind} : kind ∈ singleton other ↔ kind = other := by
  change (singleton other).contains kind = true ↔ _
  rw [contains_singleton, decide_eq_true_iff, eq_comm]

namespace Rule

/-- The rules of the constraints of structural documents other than the type, each with the kind of
instance that it is for, in a document that lists some entries. -/
inductive IsStructural (listed : List String) : String → Kind → Rule → Prop
  | maxLength (limit : Nat) : IsStructural listed "max_length" .string (.check (.maxLength limit))
  | maxSize (limit : Nat) : IsStructural listed "max_items" .array (.check (.maxSize limit))
  | items {rest : Subschema} (settles : rest.behaviour.Settles) :
      IsStructural listed "items" .array (.items [] rest)
  | required (names : List String) :
      IsStructural listed "required" .object (.check (.required names))
  | entries {schemas : List (String × Subschema)} (named : Table.names schemas = listed)
      (distinct : listed.Nodup) (settles : ∀ schema ∈ schemas, schema.2.behaviour.Settles) :
      IsStructural listed "entries" .object (.entries schemas)
  | additionalEntries {entry : Subschema} (settles : entry.behaviour.Settles) :
      IsStructural listed "additional_entries" .object (.additionalEntries listed [] entry)

section

variable {listed : List String} {isPartial : Bool} {subject value : Value}
  {schemas : List (String × Subschema)} {entry : Subschema}

/-- What is chosen of entries with some names by a table of sub-schemas. -/
def listedChoices (schemas : List (String × Subschema)) (names : List String) :
    List (String × Behaviour) :=
  (entryBehavioursOf schemas).filter fun choice => decide (choice.1 ∈ names)

/-- What is chosen of entries with some names by a sub-schema for those that are not listed. -/
def additionalChoices (listed : List String) (entry : Subschema) (names : List String) :
    List (String × Behaviour) :=
  (names.filter (Behaviour.isAdditional listed [])).map fun name => (name, entry.behaviour)

theorem behaviour_entries :
    (Rule.entries schemas).behaviour = .onEntries (listedChoices schemas) := rfl

theorem behaviour_additionalEntries : (Rule.additionalEntries listed [] entry).behaviour =
    .onEntries (additionalChoices listed entry) := rfl

theorem mem_of_mem_listedChoices {names : List String} {choice : String × Behaviour}
    (chosen : choice ∈ listedChoices schemas names) :
    ∃ schema, (choice.1, schema) ∈ schemas ∧ choice.2 = schema.behaviour := by
  unfold listedChoices at chosen
  rw [entryBehavioursOf_eq_map] at chosen
  obtain ⟨schema, included, rfl⟩ := List.mem_map.mp (List.mem_filter.mp chosen).1
  exact ⟨schema.2, included, rfl⟩

theorem unlisted_of_mem_additionalChoices {names : List String} {choice : String × Behaviour}
    (chosen : choice ∈ additionalChoices listed entry names) :
    choice.1 ∉ listed ∧ choice.2 = entry.behaviour := by
  obtain ⟨name, additional, rfl⟩ := List.mem_map.mp chosen
  exact ⟨((Behaviour.isAdditional_iff _ _ _).mp (List.mem_filter.mp additional).2).1, rfl⟩

theorem isCoherent_listedChoices (distinct : (Table.names schemas).Nodup)
    (settles : ∀ schema ∈ schemas, schema.2.behaviour.Settles) (names : List String) :
    Behaviour.IsCoherent (listedChoices schemas names) := by
  constructor
  · intro choice chosen
    obtain ⟨schema, included, same⟩ := mem_of_mem_listedChoices chosen
    rw [same]
    exact settles (choice.1, schema) included
  · intro choice chosen other chosen' same
    obtain ⟨schema, included, isFirst⟩ := mem_of_mem_listedChoices chosen
    obtain ⟨schema', included', isSecond⟩ := mem_of_mem_listedChoices chosen'
    have found := Table.lookup_of_mem distinct included
    rw [same, Table.lookup_of_mem distinct included'] at found
    cases found
    rw [isFirst, isSecond]

theorem isCoherent_additionalChoices (settles : entry.behaviour.Settles) (names : List String) :
    Behaviour.IsCoherent (additionalChoices listed entry names) := by
  constructor
  · intro choice chosen
    rw [(unlisted_of_mem_additionalChoices chosen).2]
    exact settles
  · intro choice chosen other chosen' _
    rw [(unlisted_of_mem_additionalChoices chosen).2, (unlisted_of_mem_additionalChoices chosen').2]

theorem listedChoices_apart {names : List String} {choice other : String × Behaviour}
    (chosen : choice ∈ listedChoices schemas names)
    (chosen' : other ∈ additionalChoices (Table.names schemas) entry names) : other.1 ≠ choice.1 := by
  obtain ⟨schema, included, _⟩ := mem_of_mem_listedChoices chosen
  intro same
  apply (unlisted_of_mem_additionalChoices chosen').1
  exact List.mem_map.mpr ⟨(choice.1, schema), included, same.symm⟩

variable {name name' : String} {kind : Kind} {rule rule' : Rule}

/-- The conversion of a structural rule keeps the kind of an instance and makes a fixpoint. -/
theorem IsStructural.fixes (structural : IsStructural listed name kind rule)
    (applies : subject.kind = kind) (made : rule.behaviour.Makes isPartial subject value) :
    value.kind = kind ∧ rule.behaviour.Fixes isPartial value := by
  cases structural with
  | maxLength limit =>
      obtain ⟨text, rfl⟩ := Value.exists_string_of_kind applies
      obtain ⟨kept, rfl, fixes⟩ := Behaviour.fixes_of_makes_maxLength made
      exact ⟨rfl, fixes⟩
  | maxSize limit =>
      obtain ⟨items, rfl⟩ := Value.exists_array_of_kind applies
      obtain ⟨kept, rfl, _, fixes⟩ := Behaviour.fixes_of_makes_maxSize made
      exact ⟨rfl, fixes⟩
  | items settles =>
      obtain ⟨items, rfl⟩ := Value.exists_array_of_kind applies
      obtain ⟨results, rfl, _, fixes⟩ := Behaviour.fixes_of_makes_items settles made
      exact ⟨rfl, fixes⟩
  | required names =>
      obtain ⟨rfl, fixes⟩ := Behaviour.eq_of_makes_ofRule rfl rfl made
      exact ⟨applies, fixes⟩
  | entries named distinct settles =>
      obtain ⟨members, rfl⟩ := Value.exists_object_of_kind applies
      rw [behaviour_entries] at made ⊢
      have coherent := isCoherent_listedChoices (named ▸ distinct) settles (Table.names members)
      obtain ⟨results, rfl, _, fixes⟩ := Behaviour.fixes_of_makes_onEntries coherent made
      exact ⟨rfl, fixes⟩
  | additionalEntries settles =>
      obtain ⟨members, rfl⟩ := Value.exists_object_of_kind applies
      rw [behaviour_additionalEntries] at made ⊢
      have coherent := @isCoherent_additionalChoices listed _ settles (Table.names members)
      obtain ⟨results, rfl, _, fixes⟩ := Behaviour.fixes_of_makes_onEntries coherent made
      exact ⟨rfl, fixes⟩

/-- What a structural rule fixes stays fixed under the conversion of another for the same kind. Of the
two for arrays one drops items and the other keeps their number; of those for objects none changes the
names of the entries, and no entry is both listed and additional. -/
theorem IsStructural.keeps (first : IsStructural listed name kind rule)
    (second : IsStructural listed name' kind rule') (apart : name ≠ name')
    (applies : subject.kind = kind) (fixes : rule.behaviour.Fixes isPartial subject)
    (made : rule'.behaviour.Makes isPartial subject value) :
    rule.behaviour.Fixes isPartial value := by
  cases first with
  | maxLength limit =>
      cases second with
      | maxLength limit' => exact absurd rfl apart
  | maxSize limit =>
      obtain ⟨items, rfl⟩ := Value.exists_array_of_kind applies
      cases second with
      | maxSize limit' => exact absurd rfl apart
      | items settles =>
          obtain ⟨results, rfl, length, _⟩ := Behaviour.fixes_of_makes_items settles made
          refine Behaviour.fixes_maxSize.mpr ?_
          rw [length]
          exact Behaviour.fixes_maxSize.mp fixes
  | items settles =>
      obtain ⟨items, rfl⟩ := Value.exists_array_of_kind applies
      cases second with
      | maxSize limit =>
          obtain ⟨kept, rfl, included, _⟩ := Behaviour.fixes_of_makes_maxSize made
          refine Behaviour.fixes_items.mpr fun item member => ?_
          exact Behaviour.fixes_items.mp fixes item (included item member)
      | items settles' => exact absurd rfl apart
  | required names =>
      obtain ⟨members, rfl⟩ := Value.exists_object_of_kind applies
      cases second with
      | required names' => exact absurd rfl apart
      | entries named distinct settles =>
          rw [behaviour_entries] at made
          have coherent := isCoherent_listedChoices (named ▸ distinct) settles (Table.names members)
          obtain ⟨results, rfl, same, _⟩ := Behaviour.fixes_of_makes_onEntries coherent made
          exact (Behaviour.fixes_required_congr same).mpr fixes
      | additionalEntries settles =>
          rw [behaviour_additionalEntries] at made
          have coherent := @isCoherent_additionalChoices listed _ settles (Table.names members)
          obtain ⟨results, rfl, same, _⟩ := Behaviour.fixes_of_makes_onEntries coherent made
          exact (Behaviour.fixes_required_congr same).mpr fixes
  | entries named distinct settles =>
      obtain ⟨members, rfl⟩ := Value.exists_object_of_kind applies
      have coherent := isCoherent_listedChoices (named ▸ distinct) settles (Table.names members)
      cases second with
      | required names =>
          obtain ⟨rfl, _⟩ := Behaviour.eq_of_makes_ofRule rfl rfl made
          exact fixes
      | entries named' distinct' settles' => exact absurd rfl apart
      | additionalEntries settles' =>
          subst named
          rw [behaviour_entries] at fixes ⊢
          rw [behaviour_additionalEntries] at made
          refine fixes.of_makes_onEntries coherent ?_ made
          exact fun choice chosen other chosen' => listedChoices_apart chosen chosen'
  | additionalEntries settles =>
      obtain ⟨members, rfl⟩ := Value.exists_object_of_kind applies
      have coherent := @isCoherent_additionalChoices listed _ settles (Table.names members)
      cases second with
      | required names =>
          obtain ⟨rfl, _⟩ := Behaviour.eq_of_makes_ofRule rfl rfl made
          exact fixes
      | entries named distinct settles' =>
          subst named
          rw [behaviour_additionalEntries] at fixes ⊢
          rw [behaviour_entries] at made
          refine fixes.of_makes_onEntries coherent ?_ made
          exact fun choice chosen other chosen' => (listedChoices_apart chosen' chosen).symm
      | additionalEntries settles' => exact absurd rfl apart

end

/-- Whether a rule is structural and its constraint applies to the kind that it is for. -/
def IsStructuralFor (listed : List String) (name : String) (definition : Definition) (rule : Rule) :
    Prop :=
  ∃ kind, definition.applicableKinds = .singleton kind ∧ IsStructural listed name kind rule

end Rule

namespace Context

variable {context : Context} {listed : List String} {isPartial : Bool} {subject value : Value}

/-- Whether an instance is of a kind that the document's type admits. -/
def Typed (context : Context) (subject : Value) : Prop :=
  ∀ kinds, context.declared = some kinds → subject.kind ∈ kinds

/-- Whether a constraint refuses the instances that it does not apply to. -/
def refusesOthers (context : Context) : Bool := context.declared.isNone && context.strict

/-- On instances of the document's type, a bound constraint does what its rule does behind a guard,
also where the guard is spared. -/
theorem step_restricted (typed : context.Typed subject) (name : String) (applicable : KindSet)
    (rule : Rule) :
    let step := (Bound.mk name false (context.restriction applicable) rule).step
    let guarded := rule.behaviour.guarded applicable context.refusesOthers
    step.behaviour.check isPartial subject = guarded.check isPartial subject ∧
      step.behaviour.convert isPartial subject = guarded.convert isPartial subject := by
  unfold Typed at typed
  unfold restriction refusesOthers
  cases declared : context.declared with
  | none => exact ⟨rfl, rfl⟩
  | some kinds =>
      by_cases spared : kinds.isSubset applicable = true
      · have applies := (KindSet.isSubset_iff _ _).mp spared _ (typed kinds declared)
        simp only [if_pos spared]
        unfold Behaviour.guarded
        simp only [if_pos applies]
        exact ⟨rfl, rfl⟩
      · simp only [if_neg spared]
        exact ⟨rfl, rfl⟩

theorem makes_restricted (typed : context.Typed subject) (name : String) (applicable : KindSet)
    (rule : Rule) :
    (Bound.mk name false (context.restriction applicable) rule).step.behaviour.Makes isPartial
        subject value ↔
      if subject.kind ∈ applicable then rule.behaviour.Makes isPartial subject value
      else context.refusesOthers = false ∧ subject = value := by
  rw [← Behaviour.makes_guarded]
  unfold Behaviour.Makes
  rw [(step_restricted typed name applicable rule).2]

theorem fixes_restricted (typed : context.Typed subject) (name : String) (applicable : KindSet)
    (rule : Rule) :
    (Bound.mk name false (context.restriction applicable) rule).step.behaviour.Fixes isPartial
        subject ↔
      if subject.kind ∈ applicable then rule.behaviour.Fixes isPartial subject
      else context.refusesOthers = false := by
  have same := @step_restricted context isPartial subject typed name applicable rule
  rw [← Behaviour.fixes_guarded]
  unfold Behaviour.Fixes Behaviour.accepts Behaviour.Makes
  rw [same.1, same.2]

variable {first second : Bound}

/-- A bound constraint of a structural document leads an instance of the type to one that it fixes. -/
theorem BoundFor.fixes (structural : context.BoundFor (Rule.IsStructuralFor listed) first)
    (typed : context.Typed subject) (made : first.step.behaviour.Makes isPartial subject value) :
    context.Typed value ∧ first.step.behaviour.Fixes isPartial value := by
  obtain ⟨definition, rule, same, kind, applicable, structural⟩ := structural
  rw [applicable] at same
  rw [same, makes_restricted typed] at made
  simp only [KindSet.mem_singleton] at made
  rw [same]
  split at made
  · rename_i ofKind
    obtain ⟨kept, fixes⟩ := structural.fixes ofKind made
    have typedValue : context.Typed value := by
      unfold Typed
      rw [kept, ← ofKind]
      exact typed
    refine ⟨typedValue, (fixes_restricted typedValue _ _ _).mpr ?_⟩
    rwa [if_pos (KindSet.mem_singleton.mpr kept)]
  · rename_i other
    obtain ⟨spared, rfl⟩ := made
    refine ⟨typed, (fixes_restricted typed _ _ _).mpr ?_⟩
    rwa [if_neg (mt KindSet.mem_singleton.mp other)]

/-- Two constraints for different kinds do not meet: where one runs, the other lets pass. -/
theorem BoundFor.keeps (structural : context.BoundFor (Rule.IsStructuralFor listed) first)
    (structural' : context.BoundFor (Rule.IsStructuralFor listed) second)
    (apart : first.name ≠ second.name) (typed : context.Typed subject)
    (fixes : first.step.behaviour.Fixes isPartial subject)
    (made : second.step.behaviour.Makes isPartial subject value) :
    first.step.behaviour.Fixes isPartial value := by
  obtain ⟨typedValue, _⟩ := structural'.fixes typed made
  obtain ⟨_, rule, same, kind, applicable, first⟩ := structural
  obtain ⟨_, rule', same', kind', applicable', second⟩ := structural'
  rw [applicable] at same
  rw [applicable'] at same'
  rw [same, fixes_restricted typed] at fixes
  rw [same', makes_restricted typed] at made
  rw [same, fixes_restricted typedValue]
  simp only [KindSet.mem_singleton] at fixes made ⊢
  split at made
  · rename_i ofKind'
    have kept := (second.fixes ofKind' made).1
    by_cases ofKind : subject.kind = kind
    · obtain rfl : kind = kind' := ofKind.symm.trans ofKind'
      rw [if_pos ofKind] at fixes
      rw [if_pos kept]
      exact first.keeps second apart ofKind fixes made
    · rw [if_neg ofKind] at fixes
      rwa [if_neg (by rwa [kept, ← ofKind'])]
  · rw [← made.2]
    exact fixes

/-- The constraints of a structural document, its type apart, lead an instance of the type to a value of
the type that they all fix. -/
theorem fixed_of_structural {bounds : List Bound}
    (apart : bounds.Pairwise fun first second => first.name ≠ second.name)
    (each : ∀ bound ∈ bounds, context.BoundFor (Rule.IsStructuralFor listed) bound)
    (threads : Threads (fun bound before after => bound.step.behaviour.Makes isPartial before after)
      bounds subject value) (typed : context.Typed subject) :
    context.Typed value ∧ ∀ bound ∈ bounds, bound.step.behaviour.Fixes isPartial value := by
  have settled : ∀ bound ∈ bounds, ∀ before after, context.Typed before →
      bound.step.behaviour.Makes isPartial before after →
      context.Typed after ∧ bound.step.behaviour.Fixes isPartial after :=
    fun bound member before after typed made => (each bound member).fixes typed made
  have kept : bounds.Pairwise fun earlier later => ∀ before after, context.Typed before →
      earlier.step.behaviour.Fixes isPartial before →
      later.step.behaviour.Makes isPartial before after →
      earlier.step.behaviour.Fixes isPartial after := by
    refine apart.imp_of_mem fun {earlier later} member member' apart before after typed fixes made => ?_
    exact (each earlier member).keeps (each later member') apart typed fixes made
  exact threads.fixed settled kept typed

end Context

end Conformance
