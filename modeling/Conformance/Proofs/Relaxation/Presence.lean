import Conformance.Proofs.Relaxation.Beside
/-!
What does not depend on presence. Only two sorts of rules tell partial instances from others: those that
require entries, and those that require entries beside one that is present. A behaviour without either
treats an instance in one way, be it partial or not, in validation and in conversion
(`Rule.ignoresPartial`).
-/

namespace Conformance

namespace Behaviour

variable {behaviour : Behaviour}

/-- Whether instances are treated alike, be they partial or not. -/
structure IgnoresPartial (behaviour : Behaviour) : Prop where
  check : behaviour.check true = behaviour.check false
  convert : behaviour.convert true = behaviour.convert false

theorem IgnoresPartial.accepts (ignores : behaviour.IgnoresPartial) :
    behaviour.accepts true = behaviour.accepts false := by
  unfold Behaviour.accepts
  rw [ignores.check]

theorem IgnoresPartial.decidesAlike (ignores : behaviour.IgnoresPartial) :
    DecidesAlike false true behaviour behaviour :=
  fun subject => (congrFun ignores.accepts subject).symm

theorem ignoresPartial_pass : pass.IgnoresPartial := ⟨rfl, rfl⟩

theorem ignoresPartial_refuse : refuse.IgnoresPartial := ⟨rfl, rfl⟩

theorem ignoresPartial_ofCheck {check : Bool → Value → Option Failure}
    (same : check true = check false) : (ofCheck check).IgnoresPartial := by
  refine ⟨same, ?_⟩
  unfold ofCheck
  dsimp only
  rw [same]

theorem ignoresPartial_ofRule {check : Check} (other : ∀ names, check ≠ .required names) :
    (ofRule check).IgnoresPartial := by
  cases check with
  | required names => exact absurd rfl (other names)
  | _ => exact ⟨rfl, rfl⟩

theorem ignoresPartial_under (ignores : behaviour.IgnoresPartial) (segment : Segment) :
    (behaviour.under segment).IgnoresPartial := by
  unfold under
  constructor
  · dsimp only
    rw [ignores.check]
  · dsimp only
    rw [ignores.convert]

theorem ignoresPartial_guarded (ignores : behaviour.IgnoresPartial) (applicable : KindSet)
    (strict : Bool) : (behaviour.guarded applicable strict).IgnoresPartial := by
  unfold guarded
  constructor
  · dsimp only
    rw [ignores.check]
  · dsimp only
    rw [ignores.convert]

section Delegations

variable {delegations : List Delegation}

theorem Delegation.failure?_ignoring {delegation : Delegation}
    (ignores : delegation.behaviour.IgnoresPartial) :
    delegation.failure? true = delegation.failure? false := by
  unfold Delegation.failure?
  rw [ignores.check]

theorem Delegation.convert_ignoring {delegation : Delegation}
    (ignores : delegation.behaviour.IgnoresPartial) :
    delegation.convert true = delegation.convert false := by
  unfold Delegation.convert
  rw [ignores.convert]

theorem failures_ignoring
    (each : ∀ delegation ∈ delegations, delegation.behaviour.IgnoresPartial) :
    failures true delegations = failures false delegations :=
  List.filterMap_congr fun delegation member => Delegation.failure?_ignoring (each delegation member)

theorem results_ignoring
    (each : ∀ delegation ∈ delegations, delegation.behaviour.IgnoresPartial) :
    results true delegations = results false delegations := by
  refine List.map_congr_left fun delegation member => ?_
  rw [Delegation.failure?_ignoring (each delegation member)]

theorem firstConversion_ignoring
    (each : ∀ delegation ∈ delegations, delegation.behaviour.IgnoresPartial) :
    firstConversion true delegations = firstConversion false delegations := by
  induction delegations with
  | nil => rfl
  | cons delegation delegations ih =>
      obtain ⟨first, others⟩ := List.forall_mem_cons.mp each
      rw [firstConversion, firstConversion, Delegation.convert_ignoring first, ih others]

theorem branches_ignoring {behaviours : List Behaviour}
    (each : ∀ behaviour ∈ behaviours, behaviour.IgnoresPartial) (subject : Value) :
    ∀ delegation ∈ branches behaviours subject, delegation.behaviour.IgnoresPartial := by
  intro delegation member
  obtain ⟨position, bound, rfl⟩ := List.mem_mapIdx.mp member
  exact each _ (List.getElem_mem bound)

theorem itemDelegations_ignoring {positional : List Behaviour} {rest : Behaviour}
    (each : ∀ behaviour ∈ positional, behaviour.IgnoresPartial) (others : rest.IgnoresPartial)
    (items : List Value) :
    ∀ delegation ∈ itemDelegations positional rest items, delegation.behaviour.IgnoresPartial := by
  intro delegation member
  obtain ⟨position, bound, rfl⟩ := List.mem_mapIdx.mp member
  dsimp only
  cases found : positional[position]? with
  | none => exact others
  | some behaviour => exact each behaviour (List.mem_of_getElem? found)

end Delegations

theorem ignoresPartial_items {positional : List Behaviour} {rest : Behaviour}
    (each : ∀ behaviour ∈ positional, behaviour.IgnoresPartial) (others : rest.IgnoresPartial) :
    (items positional rest).IgnoresPartial := by
  have handed := itemDelegations_ignoring each others
  constructor
  · funext subject
    cases subject with
    | array items => simp only [Behaviour.items, failures_ignoring (handed items)]
    | _ => rfl
  · funext subject
    cases subject with
    | array items =>
        have converted := mapM_congr fun delegation member =>
          Delegation.convert_ignoring (handed items delegation member)
        simp only [Behaviour.items, converted]
    | _ => rfl

theorem ignoresPartial_contains (ignores : behaviour.IgnoresPartial) :
    (contains behaviour).IgnoresPartial := by
  refine ignoresPartial_ofCheck (funext fun subject => ?_)
  rw [ignores.accepts]

theorem ignoresPartial_onEntries {select : List String → List (String × Behaviour)}
    (each : ∀ names, ∀ choice ∈ select names, choice.2.IgnoresPartial) :
    (onEntries select).IgnoresPartial := by
  constructor
  · funext subject
    cases subject with
    | object entries =>
        have handed : ∀ delegation ∈ entryDelegations (select (Table.names entries)) entries,
            delegation.behaviour.IgnoresPartial := by
          intro delegation member
          obtain ⟨choice, selected, found⟩ := List.mem_filterMap.mp member
          obtain ⟨value, _, rfl⟩ := Option.map_eq_some_iff.mp found
          exact each _ choice selected
        simp only [onEntries, failures_ignoring handed]
    | _ => rfl
  · funext subject
    cases subject with
    | object entries =>
        have converted : ∀ choice ∈ select (Table.names entries), ∀ members,
            convertEntry true members choice = convertEntry false members choice := by
          intro choice selected members
          unfold convertEntry
          cases Table.lookup members choice.1 with
          | none => rfl
          | some value =>
              exact congrArg (Except.map _) (Delegation.convert_ignoring (each _ choice selected))
        simp only [onEntries, foldlM_congr converted entries]
    | _ => rfl

theorem ignoresPartial_entries {listed : List (String × Behaviour)}
    (each : ∀ choice ∈ listed, choice.2.IgnoresPartial) : (entries listed).IgnoresPartial :=
  ignoresPartial_onEntries fun _ choice member => each choice (List.mem_filter.mp member).1

theorem ignoresPartial_patternEntries {listed : List (Pattern × Behaviour)}
    (each : ∀ choice ∈ listed, choice.2.IgnoresPartial) : (patternEntries listed).IgnoresPartial := by
  refine ignoresPartial_onEntries fun names choice member => ?_
  obtain ⟨name, _, inside⟩ := List.mem_flatMap.mp member
  obtain ⟨other, matched, rfl⟩ := List.mem_map.mp inside
  exact each other (List.mem_filter.mp matched).1

theorem ignoresPartial_additionalEntries (ignores : behaviour.IgnoresPartial) (listed : List String)
    (patterns : List Pattern) : (additionalEntries listed patterns behaviour).IgnoresPartial := by
  refine ignoresPartial_onEntries fun names choice member => ?_
  obtain ⟨name, _, rfl⟩ := List.mem_map.mp member
  exact ignores

theorem ignoresPartial_entryNames (ignores : behaviour.IgnoresPartial) :
    (entryNames behaviour).IgnoresPartial := by
  refine ignoresPartial_ofCheck (funext fun subject => ?_)
  cases subject with
  | object entries =>
      have handed : ∀ delegation ∈ (Table.names entries).map fun name =>
          (⟨.key name, behaviour, .string name⟩ : Delegation), delegation.behaviour.IgnoresPartial :=
        List.forall_mem_map.mpr fun _ _ => ignores
      simp only [failures_ignoring handed]
  | _ => rfl

theorem ignoresPartial_dependencies {demands : List (String × Demand)}
    (each : ∀ demand ∈ demands, ∃ behaviour, demand.2 = .whole behaviour ∧ behaviour.IgnoresPartial) :
    (dependencies demands).IgnoresPartial := by
  have own : ∀ demand ∈ demands, ∀ members,
      (demand.2.behaviour demand.1 members).IgnoresPartial := by
    intro demand member members
    obtain ⟨behaviour, whole, ignores⟩ := each demand member
    rw [whole]
    exact ignores
  constructor
  · funext subject
    cases subject with
    | object members =>
        have handed : ∀ delegation ∈ demandDelegations demands members,
            delegation.behaviour.IgnoresPartial :=
          List.forall_mem_map.mpr fun demand present =>
            own demand (List.mem_filter.mp present).1 members
        cases demands with
        | nil => rfl
        | cons demand demands => simp only [dependencies, failures_ignoring handed]
    | _ => cases demands <;> rfl
  · funext subject
    refine foldlM_congr (fun demand member value => ?_) subject
    cases value with
    | object members =>
        unfold convertDemand
        dsimp only
        rw [Delegation.convert_ignoring (own demand member members)]
    | _ => rfl

theorem ignoresPartial_allOf {behaviours : List Behaviour}
    (each : ∀ behaviour ∈ behaviours, behaviour.IgnoresPartial) : (allOf behaviours).IgnoresPartial := by
  constructor
  · funext subject
    simp only [allOf, failures_ignoring (branches_ignoring each subject)]
  · funext subject
    refine foldlM_congr (fun branch member value => ?_) subject
    exact Delegation.convert_ignoring (branches_ignoring each subject branch member)

theorem ignoresPartial_anyOf {behaviours : List Behaviour}
    (each : ∀ behaviour ∈ behaviours, behaviour.IgnoresPartial) : (anyOf behaviours).IgnoresPartial := by
  constructor
  · funext subject
    simp only [anyOf, failures_ignoring (branches_ignoring each subject)]
  · funext subject
    simp only [anyOf, firstConversion_ignoring (branches_ignoring each subject)]

theorem ignoresPartial_oneOf {behaviours : List Behaviour}
    (each : ∀ behaviour ∈ behaviours, behaviour.IgnoresPartial) : (oneOf behaviours).IgnoresPartial := by
  constructor
  · funext subject
    simp only [oneOf, results_ignoring (branches_ignoring each subject)]
  · funext subject
    simp only [oneOf, results_ignoring (branches_ignoring each subject)]
    split
    · rename_i only position found
      have member : (only, position) ∈ passing (results false (branches behaviours subject)) := by
        rw [found]
        exact List.mem_cons_self
      have listed := List.mem_of_getElem? (mem_passing.mp member).1
      exact Delegation.convert_ignoring (branches_ignoring each subject only listed)
    · rfl

theorem ignoresPartial_negation (ignores : behaviour.IgnoresPartial) :
    (negation behaviour).IgnoresPartial := by
  refine ignoresPartial_ofCheck (funext fun subject => ?_)
  rw [ignores.accepts]

theorem ignoresPartial_branch (label : String) {choice : Option Behaviour}
    (ignores : ∀ behaviour, choice = some behaviour → behaviour.IgnoresPartial) :
    (branch label choice).IgnoresPartial := by
  cases choice with
  | none => exact ignoresPartial_pass
  | some behaviour =>
      refine ⟨?_, (ignoresPartial_under (ignores behaviour rfl) _).convert⟩
      unfold branch
      dsimp only
      rw [(ignores behaviour rfl).check]

theorem ignoresPartial_conditional (ignores : behaviour.IgnoresPartial)
    {positive negative : Option Behaviour}
    (whenPassed : ∀ choice, positive = some choice → choice.IgnoresPartial)
    (whenFailed : ∀ choice, negative = some choice → choice.IgnoresPartial) :
    (conditional behaviour positive negative).IgnoresPartial := by
  have passed := ignoresPartial_branch "then" whenPassed
  have failed := ignoresPartial_branch "else" whenFailed
  unfold conditional
  constructor
  · funext subject
    dsimp only
    rw [ignores.accepts]
    split
    · rw [passed.check]
    · rw [failed.check]
  · funext subject
    dsimp only
    rw [ignores.accepts]
    split
    · rw [passed.convert]
    · rw [failed.convert]

end Behaviour

namespace Step

variable {steps : List Step}

theorem outcomes_ignoring (each : ∀ step ∈ steps, step.behaviour.IgnoresPartial) (schema : String)
    (subject : Value) : outcomes schema true subject steps = outcomes schema false subject steps := by
  induction steps with
  | nil => rfl
  | cons step steps ih =>
      obtain ⟨first, others⟩ := List.forall_mem_cons.mp each
      rw [outcomes, outcomes, first.check, ih others]

theorem ignoresPartial_sequence (each : ∀ step ∈ steps, step.behaviour.IgnoresPartial)
    (schema : String) : (sequence schema steps).IgnoresPartial := by
  constructor
  · funext subject
    simp only [sequence, outcomes_ignoring each]
  · funext subject
    refine foldlM_congr (fun step member value => ?_) subject
    unfold convert
    rw [(each step member).convert]

end Step

namespace Schema

variable {schema : Schema}

/-- Whether the constraints of a schema treat partial instances like others. -/
def IgnoresPartial (schema : Schema) : Prop :=
  ∀ bound ∈ schema.constraints, bound.step.behaviour.IgnoresPartial

theorem IgnoresPartial.behaviour (ignores : schema.IgnoresPartial) :
    schema.behaviour.IgnoresPartial := by
  obtain ⟨header, constraints⟩ := schema
  unfold Schema.behaviour
  rw [stepsOf_eq_map]
  exact Step.ignoresPartial_sequence (List.forall_mem_map.mpr ignores) _

/-- The report is the same, not its success only. -/
theorem IgnoresPartial.validate (ignores : schema.IgnoresPartial) (subject : Value) :
    schema.validate subject true = schema.validate subject false := by
  obtain ⟨header, constraints⟩ := schema
  unfold Schema.validate outcomes
  rw [stepsOf_eq_map, Step.outcomes_ignoring (List.forall_mem_map.mpr ignores)]

end Schema

namespace Rule

variable {rule : Rule}

/-- Whether a rule requires no entries to be present, neither by itself nor beside others. -/
def AsksNoPresence : Rule → Prop
  | .check (.required _) => False
  | .dependencies demands => ∀ demand ∈ demands, ∀ names, demand.2 ≠ .peers names
  | _ => True

/-- A rule that requires no entries, made of sub-schemas that treat partial instances like others, does so
itself. -/
theorem ignoresPartial (made : rule.MadeOf Behaviour.IgnoresPartial) (absent : rule.AsksNoPresence) :
    rule.behaviour.IgnoresPartial := by
  unfold MadeOf at made
  cases rule with
  | check check =>
      refine Behaviour.ignoresPartial_ofRule fun names same => ?_
      subst same
      exact absent
  | items positional rest =>
      obtain ⟨each, others⟩ := List.forall_mem_append.mp made
      exact Behaviour.ignoresPartial_items (forall_behavioursOf each)
        (others rest List.mem_cons_self)
  | contains item => exact Behaviour.ignoresPartial_contains (made item List.mem_cons_self)
  | entries listed => exact Behaviour.ignoresPartial_entries (forall_entryBehavioursOf made)
  | patternEntries listed =>
      exact Behaviour.ignoresPartial_patternEntries (forall_patternBehavioursOf made)
  | additionalEntries listed patterns entry =>
      exact Behaviour.ignoresPartial_additionalEntries (made entry List.mem_cons_self) listed patterns
  | dependencies demands =>
      unfold Rule.behaviour
      rw [demandsOf_eq_map]
      refine Behaviour.ignoresPartial_dependencies (List.forall_mem_map.mpr fun demand member => ?_)
      obtain ⟨key, dependency⟩ := demand
      cases dependency with
      | peers names => exact absurd rfl (absent _ member names)
      | whole part =>
          have inside : part ∈ (Rule.dependencies demands).subschemas :=
            List.mem_flatMap.mpr ⟨_, member, List.mem_cons_self⟩
          exact ⟨_, rfl, made part inside⟩
  | entryNames name => exact Behaviour.ignoresPartial_entryNames (made name List.mem_cons_self)
  | allOf branches => exact Behaviour.ignoresPartial_allOf (forall_behavioursOf made)
  | anyOf branches => exact Behaviour.ignoresPartial_anyOf (forall_behavioursOf made)
  | oneOf branches => exact Behaviour.ignoresPartial_oneOf (forall_behavioursOf made)
  | negation excluded => exact Behaviour.ignoresPartial_negation (made excluded List.mem_cons_self)
  | conditional condition positive negative =>
      obtain ⟨first, others⟩ := List.forall_mem_cons.mp made
      obtain ⟨second, third⟩ := List.forall_mem_append.mp others
      exact Behaviour.ignoresPartial_conditional first (forall_behaviourOf? second)
        (forall_behaviourOf? third)
  | apply whole => exact Behaviour.ignoresPartial_under (made whole List.mem_cons_self) _

end Rule

end Conformance
