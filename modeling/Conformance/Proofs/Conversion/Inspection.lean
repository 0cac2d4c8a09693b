import Conformance.Proofs.Conversion.Makes
/-!
Behaviours that only look. Their conversion leaves what validation lets pass as it is, and refuses what
validation refuses. Whatever is put together of behaviours that only look only looks, so that the two modes
agree on a schema if they do on its checks. When conversion refuses an instance, its failure names the
first constraint that fails in the report (`Step.head?_of_refused`).
-/

namespace Conformance

/-- Steps that pass a state on as it is or refuse it thread a state through that all of them pass. -/
theorem threads_of_inspecting {α σ : Type} {makes : α → σ → σ → Prop} {passes : α → σ → Prop}
    {steps : List α} {first last : σ}
    (same : ∀ step ∈ steps, ∀ before after, makes step before after ↔
      passes step before ∧ before = after) :
    Threads makes steps first last ↔ (∀ step ∈ steps, passes step first) ∧ first = last := by
  induction steps with
  | nil => simp [Threads]
  | cons step steps ih =>
      have rest := ih fun step member => same step (List.mem_cons_of_mem _ member)
      unfold Threads
      simp only [same step List.mem_cons_self]
      constructor
      · rintro ⟨_, ⟨passed, rfl⟩, threads⟩
        obtain ⟨others, kept⟩ := rest.mp threads
        exact ⟨List.forall_mem_cons.mpr ⟨passed, others⟩, kept⟩
      · rintro ⟨passed, kept⟩
        obtain ⟨here, others⟩ := List.forall_mem_cons.mp passed
        exact ⟨first, ⟨here, rfl⟩, rest.mpr ⟨others, kept⟩⟩

namespace Check

/-- Whether conversion may make something else of an instance. -/
def repairs : Check → Bool
  | .ofKinds _ => true
  | .constant _ => true
  | .maximum _ => true
  | .minimum _ => true
  | .maxLength _ => true
  | .maxSize _ => true
  | .uniqueItems => true
  | _ => false

theorem replaces_of_repairs {check : Check} (plain : check.repairs = false) :
    check.replaces = false := by
  cases check with
  | ofKinds kinds => cases plain
  | constant expected => cases plain
  | _ => rfl

theorem repair?_of_repairs {check : Check} (plain : check.repairs = false) (subject : Value) :
    check.repair? subject = none := by
  cases check with
  | maximum bound => cases plain
  | minimum bound => cases plain
  | maxLength limit => cases plain
  | maxSize limit => cases plain
  | uniqueItems => cases plain
  | _ => rfl

end Check

namespace Behaviour

variable {behaviour : Behaviour} {subject : Value}

/-- Whether conversion leaves an instance that validation lets pass as it is, and refuses it otherwise. -/
def InspectsAt (behaviour : Behaviour) (subject : Value) : Prop :=
  ∀ isPartial value, behaviour.Makes isPartial subject value ↔
    behaviour.accepts isPartial subject = true ∧ subject = value

/-- Whether conversion treats every instance so. -/
def Inspects (behaviour : Behaviour) : Prop := ∀ subject, behaviour.InspectsAt subject

theorem inspects_pass : pass.Inspects := fun _ _ _ => by simp

theorem inspects_refuse : refuse.Inspects := fun _ _ _ => by simp

theorem inspects_ofCheck (check : Bool → Value → Option Failure) : (ofCheck check).Inspects :=
  fun _ _ _ => makes_ofCheck check

theorem inspectsAt_ofRule {check : Check} (keeps : check.replaces = false)
    (unrepaired : check.repair? subject = none) : (ofRule check).InspectsAt subject := by
  intro isPartial value
  rw [makes_ofRule, accepts_ofRule, Check.convert_eq_ok keeps, unrepaired]
  simp

theorem inspects_ofRule {check : Check} (plain : check.repairs = false) :
    (ofRule check).Inspects := fun subject =>
  inspectsAt_ofRule (Check.replaces_of_repairs plain) (Check.repair?_of_repairs plain subject)

/-- Only arrays are cut to a size. -/
theorem inspectsAt_maxSize (limit : Nat) (other : subject.kind ≠ .array) :
    (ofRule (.maxSize limit)).InspectsAt subject := by
  refine inspectsAt_ofRule rfl ?_
  cases subject with
  | array items => exact absurd rfl other
  | _ => rfl

theorem inspects_under (inspects : behaviour.Inspects) (segment : Segment) :
    (behaviour.under segment).Inspects := by
  intro subject isPartial value
  rw [makes_under, accepts_under]
  exact inspects subject isPartial value

/-- A guard lets a behaviour see the instances of its kinds only. -/
theorem inspects_guarded {applicable : KindSet} (strict : Bool)
    (inspects : ∀ subject : Value, subject.kind ∈ applicable → behaviour.InspectsAt subject) :
    (behaviour.guarded applicable strict).Inspects := by
  intro subject isPartial value
  rw [makes_guarded, accepts_guarded]
  split
  · rename_i applies
    exact inspects subject applies isPartial value
  · exact Iff.rfl

theorem inspects_getD {positional : List Behaviour} {rest : Behaviour}
    (each : ∀ behaviour ∈ positional, behaviour.Inspects) (others : rest.Inspects) (position : Nat) :
    ((positional[position]?).getD rest).Inspects := by
  cases found : positional[position]? with
  | none => exact others
  | some behaviour => exact each behaviour (List.mem_of_getElem? found)

theorem inspects_items {positional : List Behaviour} {rest : Behaviour}
    (each : ∀ behaviour ∈ positional, behaviour.Inspects) (others : rest.Inspects) :
    (items positional rest).Inspects := by
  intro subject isPartial value
  have here := inspects_getD each others
  rw [makes_items, accepts_items]
  constructor
  · rintro ⟨items, results, rfl, rfl, many, length, all⟩
    have same : items = results := by
      refine List.ext_getElem length fun position bound bound' => ?_
      exact ((here position _ _ _).mp (all position _ _ (List.getElem?_eq_getElem bound)
        (List.getElem?_eq_getElem bound'))).2
    subst same
    refine ⟨⟨items, rfl, many, fun position item found => ?_⟩, rfl⟩
    exact ((here position _ _ _).mp (all position item item found found)).1
  · rintro ⟨⟨items, rfl, many, all⟩, rfl⟩
    refine ⟨items, items, rfl, rfl, many, rfl, fun position item result found found' => ?_⟩
    cases found.symm.trans found'
    exact (here position _ _ _).mpr ⟨all position item found, rfl⟩

/-- An entry is put back where it was found. -/
theorem inspects_makesEntry {choice : String × Behaviour} (inspects : choice.2.Inspects) {isPartial : Bool}
    {before after : Table Value} :
    MakesEntry isPartial choice before after ↔
      (∀ value, Table.lookup before choice.1 = some value →
        choice.2.accepts isPartial value = true) ∧ before = after := by
  unfold MakesEntry
  cases found : Table.lookup before choice.1 with
  | none => simp
  | some value =>
      dsimp only
      constructor
      · rintro ⟨made, makes, rfl⟩
        obtain ⟨accepted, rfl⟩ := (inspects value isPartial made).mp makes
        refine ⟨?_, (Table.put_of_lookup found).symm⟩
        rintro _ ⟨⟩
        exact accepted
      · rintro ⟨accepted, rfl⟩
        exact ⟨value, (inspects value isPartial value).mpr ⟨accepted value rfl, rfl⟩,
          Table.put_of_lookup found⟩

theorem inspects_onEntries {select : List String → List (String × Behaviour)}
    (each : ∀ names, ∀ choice ∈ select names, choice.2.Inspects) : (onEntries select).Inspects := by
  intro subject isPartial value
  rw [makes_onEntries, accepts_onEntries]
  constructor
  · rintro ⟨members, results, rfl, rfl, threads⟩
    obtain ⟨all, rfl⟩ := (threads_of_inspecting fun choice member before after =>
      inspects_makesEntry (each _ choice member)).mp threads
    exact ⟨⟨members, rfl, all⟩, rfl⟩
  · rintro ⟨⟨members, rfl, all⟩, rfl⟩
    refine ⟨members, members, rfl, rfl, ?_⟩
    exact (threads_of_inspecting fun choice member before after =>
      inspects_makesEntry (each _ choice member)).mpr ⟨all, rfl⟩

theorem inspects_entries {listed : List (String × Behaviour)}
    (each : ∀ choice ∈ listed, choice.2.Inspects) : (entries listed).Inspects :=
  inspects_onEntries fun _ choice member => each choice (List.mem_filter.mp member).1

theorem inspects_patternEntries {listed : List (Pattern × Behaviour)}
    (each : ∀ choice ∈ listed, choice.2.Inspects) : (patternEntries listed).Inspects := by
  refine inspects_onEntries fun names choice member => ?_
  obtain ⟨name, _, inside⟩ := List.mem_flatMap.mp member
  obtain ⟨other, matched, rfl⟩ := List.mem_map.mp inside
  exact each other (List.mem_filter.mp matched).1

theorem inspects_additionalEntries (inspects : behaviour.Inspects) (listed : List String)
    (patterns : List Pattern) : (additionalEntries listed patterns behaviour).Inspects := by
  refine inspects_onEntries fun names choice member => ?_
  obtain ⟨name, _, rfl⟩ := List.mem_map.mp member
  exact inspects

theorem inspects_demand {demand : Demand}
    (inspects : ∀ behaviour, demand = .whole behaviour → behaviour.Inspects) (key : String)
    (members : List (String × Value)) : (demand.behaviour key members).Inspects := by
  cases demand with
  | peers names => exact inspects_ofCheck _
  | whole behaviour => exact inspects behaviour rfl

theorem inspects_makesDemand {demand : String × Demand}
    (inspects : ∀ behaviour, demand.2 = .whole behaviour → behaviour.Inspects) {isPartial : Bool}
    {subject value : Value} :
    MakesDemand isPartial demand subject value ↔
      (∃ members, subject = .object members ∧ (Table.has members demand.1 = true →
        (demand.2.behaviour demand.1 members).accepts isPartial subject = true)) ∧
      subject = value := by
  unfold MakesDemand
  constructor
  · rintro ⟨members, rfl, made⟩
    split at made
    · obtain ⟨accepted, same⟩ := (inspects_demand inspects _ _ _ _ _).mp made
      exact ⟨⟨members, rfl, fun _ => accepted⟩, same⟩
    · rename_i absent
      exact ⟨⟨members, rfl, fun present => absurd present absent⟩, made⟩
  · rintro ⟨⟨members, rfl, accepted⟩, rfl⟩
    refine ⟨members, rfl, ?_⟩
    split
    · rename_i present
      exact (inspects_demand inspects _ _ _ _ _).mpr ⟨accepted present, rfl⟩
    · rfl

theorem inspects_dependencies {demands : List (String × Demand)}
    (each : ∀ demand ∈ demands, ∀ behaviour, demand.2 = .whole behaviour → behaviour.Inspects) :
    (dependencies demands).Inspects := by
  intro subject isPartial value
  rw [makes_dependencies, accepts_dependencies, threads_of_inspecting fun demand member before after =>
    inspects_makesDemand (each demand member)]
  refine and_congr_left fun _ => ?_
  constructor
  · intro all
    cases demands with
    | nil => exact .inl rfl
    | cons demand demands =>
        obtain ⟨members, rfl, _⟩ := all demand List.mem_cons_self
        refine .inr ⟨members, rfl, fun other member present => ?_⟩
        obtain ⟨_, ⟨⟩, accepted⟩ := all other member
        exact accepted present
  · rintro (rfl | ⟨members, rfl, all⟩) demand member
    · cases member
    · exact ⟨members, rfl, all demand member⟩

theorem inspects_allOf {behaviours : List Behaviour}
    (each : ∀ behaviour ∈ behaviours, behaviour.Inspects) : (allOf behaviours).Inspects := by
  intro subject isPartial value
  rw [makes_allOf, accepts_allOf]
  exact threads_of_inspecting fun behaviour member before => each behaviour member before isPartial

/-- The first behaviour that converts an instance is one that lets it pass. -/
theorem inspects_makesFirst {behaviours : List Behaviour}
    (each : ∀ behaviour ∈ behaviours, behaviour.Inspects) {isPartial : Bool} {value : Value} :
    MakesFirst isPartial subject value behaviours ↔
      (∃ behaviour ∈ behaviours, behaviour.accepts isPartial subject = true) ∧ subject = value := by
  induction behaviours with
  | nil => simp [MakesFirst]
  | cons behaviour behaviours ih =>
      obtain ⟨here, others⟩ := List.forall_mem_cons.mp each
      unfold MakesFirst
      simp only [here subject isPartial, ih others, List.exists_mem_cons_iff]
      constructor
      · rintro (⟨accepted, same⟩ | ⟨_, some, same⟩)
        · exact ⟨.inl accepted, same⟩
        · exact ⟨.inr some, same⟩
      · rintro ⟨some, same⟩
        by_cases accepted : behaviour.accepts isPartial subject = true
        · exact .inl ⟨accepted, same⟩
        · exact .inr ⟨fun made both => accepted both.1, some.resolve_left accepted, same⟩

theorem inspects_anyOf {behaviours : List Behaviour}
    (each : ∀ behaviour ∈ behaviours, behaviour.Inspects) : (anyOf behaviours).Inspects := by
  intro subject isPartial value
  rw [makes_anyOf, accepts_anyOf]
  exact inspects_makesFirst each

theorem inspects_oneOf {behaviours : List Behaviour}
    (each : ∀ behaviour ∈ behaviours, behaviour.Inspects) : (oneOf behaviours).Inspects := by
  intro subject isPartial value
  rw [makes_oneOf]
  refine and_congr_right fun accepted => ?_
  constructor
  · rintro ⟨behaviour, member, _, made⟩
    exact ((each behaviour member subject isPartial value).mp made).2
  · rintro rfl
    obtain ⟨position, bound, only⟩ := (accepts_oneOf behaviours).mp accepted
    have passes := (only position _ (List.getElem?_eq_getElem bound)).mpr rfl
    have member := List.getElem_mem bound
    exact ⟨_, member, passes, (each _ member subject isPartial subject).mpr ⟨passes, rfl⟩⟩

theorem inspects_conditional {positive negative : Option Behaviour}
    (whenPassed : ∀ choice, positive = some choice → choice.Inspects)
    (whenFailed : ∀ choice, negative = some choice → choice.Inspects) :
    (conditional behaviour positive negative).Inspects := by
  have optional {choice : Option Behaviour} (inspects : ∀ own, choice = some own → own.Inspects)
      (subject : Value) (isPartial : Bool) (value : Value) :
      (choice.getD pass).Makes isPartial subject value ↔
        (∀ own, choice = some own → own.accepts isPartial subject = true) ∧ subject = value := by
    cases choice with
    | none => simp
    | some own => simpa using inspects own rfl subject isPartial value
  intro subject isPartial value
  rw [makes_conditional, accepts_conditional]
  split
  · rename_i passed
    simp [optional whenPassed, passed]
  · rename_i failed
    simp [optional whenFailed, failed]

end Behaviour

namespace Step

variable {steps : List Step} {schema : String} {isPartial : Bool} {subject : Value}

theorem inspects_sequence (each : ∀ step ∈ steps, step.behaviour.Inspects) :
    (sequence schema steps).Inspects := by
  intro subject isPartial value
  rw [makes_sequence, accepts_sequence]
  exact threads_of_inspecting fun step member before => each step member before isPartial

/-- When steps that only look refuse an instance, the path of the failure begins with the first step whose
outcome is a failure. -/
theorem head?_of_refused (each : ∀ step ∈ steps, step.behaviour.Inspects) {failure : Failure}
    (refused : (sequence schema steps).convert isPartial subject = .error failure) :
    ∃ name, ((outcomes schema isPartial subject steps).find? fun outcome =>
        outcome.2.isSome).map Prod.fst = some name ∧
      failure.path.head? = some (.constraint name) := by
  induction steps with
  | nil => cases refused
  | cons step steps ih =>
      obtain ⟨here, others⟩ := List.forall_mem_cons.mp each
      change (convert schema isPartial subject step >>= fun next =>
        steps.foldlM (convert schema isPartial) next) = .error failure at refused
      cases checked : step.behaviour.check isPartial subject with
      | none =>
          have accepted := (Behaviour.accepts_iff step.behaviour).mpr checked
          have made : convert schema isPartial subject step = .ok subject :=
            mapError_eq_ok.mpr ((here subject isPartial subject).mpr ⟨accepted, rfl⟩)
          rw [made] at refused
          obtain ⟨name, first, head⟩ := ih others refused
          refine ⟨name, ?_, head⟩
          unfold outcomes
          rw [checked]
          simpa using first
      | some reported =>
          cases converted : step.behaviour.convert isPartial subject with
          | ok value =>
              obtain ⟨accepted, _⟩ := (here subject isPartial value).mp converted
              rw [Behaviour.accepts_iff, checked] at accepted
              cases accepted
          | error own =>
              unfold convert at refused
              rw [converted] at refused
              cases refused
              refine ⟨step.name, ?_, ?_⟩
              · unfold outcomes
                rw [checked]
                rfl
              · cases own
                rfl

end Step

end Conformance
