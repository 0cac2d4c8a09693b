import Conformance.Proofs.Results
import Conformance.Proofs.Satisfaction.Acceptance
/-!
What conversion makes of instances. A conversion goes through the parts that a behaviour hands on, and
stops at the first failure; that it makes a value of an instance says the same as a condition on what
the conversions of the parts make, one lemma for each way to put a behaviour together.
-/

namespace Conformance

/-- Whether a list of steps, one after the other, leads from one state to another. -/
def Threads {α σ : Type} (makes : α → σ → σ → Prop) : List α → σ → σ → Prop
  | [], first, last => first = last
  | step :: steps, first, last => ∃ next, makes step first next ∧ Threads makes steps next last

section Threads

variable {ε α β σ : Type} {makes makes' : α → σ → σ → Prop} {steps : List α} {first last : σ}

theorem foldlM_eq_ok {f : σ → α → Except ε σ} :
    steps.foldlM f first = .ok last ↔
      Threads (fun step before after => f before step = .ok after) steps first last := by
  induction steps generalizing first with
  | nil => simp [Threads, pure, Except.pure]
  | cons step steps ih =>
      rw [List.foldlM_cons, bind_eq_ok]
      exact exists_congr fun next => and_congr_right fun _ => ih

theorem Threads.imp {makes : α → σ → σ → Prop} {makes' : β → σ → σ → Prop} {steps' : List β}
    (threads : Threads makes steps first last) (parallel : List.Forall₂ (fun step step' =>
      ∀ before after, makes step before after → makes' step' before after) steps steps') :
    Threads makes' steps' first last := by
  induction parallel generalizing first with
  | nil => exact threads
  | cons head _ ih =>
      obtain ⟨next, made, rest⟩ := threads
      exact ⟨next, head first next made, ih rest⟩

theorem threads_iff_of_parallel {makes : α → σ → σ → Prop} {makes' : β → σ → σ → Prop}
    {steps' : List β} (parallel : List.Forall₂ (fun step step' => ∀ before after,
      makes step before after ↔ makes' step' before after) steps steps') :
    Threads makes steps first last ↔ Threads makes' steps' first last := by
  induction parallel generalizing first with
  | nil => exact Iff.rfl
  | cons head _ ih => exact exists_congr fun next => and_congr (head first next) ih

theorem threads_congr
    (same : ∀ step ∈ steps, ∀ before after, makes step before after ↔ makes' step before after) :
    Threads makes steps first last ↔ Threads makes' steps first last :=
  threads_iff_of_parallel (List.forall₂_same.mpr same)

/-- What one step keeps, a thread of steps keeps. -/
theorem Threads.keeps {invariant : σ → Prop} (threads : Threads makes steps first last)
    (kept : ∀ step ∈ steps, ∀ before after, invariant before → makes step before after →
      invariant after) (start : invariant first) : invariant last := by
  induction steps generalizing first with
  | nil =>
      cases threads
      exact start
  | cons step steps ih =>
      obtain ⟨next, made, rest⟩ := threads
      have here := kept step List.mem_cons_self first next start made
      exact ih rest (fun step member => kept step (List.mem_cons_of_mem _ member)) here

theorem threads_map {f : β → α} {list : List β} :
    Threads makes (list.map f) first last ↔ Threads (fun entry => makes (f entry)) list first last := by
  induction list generalizing first with
  | nil => exact Iff.rfl
  | cons entry list ih => exact exists_congr fun next => and_congr_right fun _ => ih

/-- Steps that all make something of the states with an invariant, and keep it, thread such states. -/
theorem exists_threads {invariant : σ → Prop}
    (each : ∀ step ∈ steps, ∀ before, invariant before → ∃ after, makes step before after ∧
      invariant after) (start : invariant first) :
    ∃ last, Threads makes steps first last ∧ invariant last := by
  induction steps generalizing first with
  | nil => exact ⟨first, rfl, start⟩
  | cons step steps ih =>
      obtain ⟨next, made, kept⟩ := each step List.mem_cons_self first start
      obtain ⟨last, threads, held⟩ :=
        ih (fun step member => each step (List.mem_cons_of_mem _ member)) kept
      exact ⟨last, ⟨next, made, threads⟩, held⟩

/-- Steps that make a state of itself thread it through. -/
theorem threads_self (same : ∀ step ∈ steps, makes step first first) :
    Threads makes steps first first := by
  induction steps with
  | nil => rfl
  | cons step steps ih =>
      exact ⟨first, same step List.mem_cons_self,
        ih fun step member => same step (List.mem_cons_of_mem _ member)⟩

end Threads

namespace Check

/-- Whether conversion puts a value of its own in the place of an instance. -/
def replaces : Check → Bool
  | .ofKinds _ => true
  | .constant _ => true
  | _ => false

/-- The other checks let an instance pass, repair it or refuse it. -/
theorem convert_eq_ok {check : Check} {isPartial : Bool} {subject value : Value}
    (keeps : check.replaces = false) : check.convert isPartial subject = .ok value ↔
      check.violation? isPartial subject = none ∧ subject = value ∨
        (check.violation? isPartial subject).isSome ∧ check.repair? subject = some value := by
  cases check with
  | ofKinds kinds => cases keeps
  | constant expected => cases keeps
  | _ =>
      dsimp only [convert]
      split
      · rename_i accepted
        simp [accepted]
      · rename_i cause refused
        split
        · rename_i repaired found
          simp [refused, found]
        · rename_i unrepaired
          simp [refused, unrepaired]

theorem missing_congr {members others : Table Value}
    (same : ∀ name, Table.has members name = Table.has others name) (names : List String) :
    missing members names = missing others names := by
  unfold missing
  simp only [same]

end Check

namespace Behaviour

variable {isPartial : Bool} {subject value : Value} {behaviour : Behaviour}

/-- Whether conversion makes a value of an instance. -/
def Makes (behaviour : Behaviour) (isPartial : Bool) (subject value : Value) : Prop :=
  behaviour.convert isPartial subject = .ok value

@[simp]
theorem makes_pass : pass.Makes isPartial subject value ↔ subject = value := by
  simp [Makes, pass]

@[simp]
theorem makes_refuse : ¬ refuse.Makes isPartial subject value := by
  simp [Makes, refuse]

theorem makes_under (segment : Segment) :
    (behaviour.under segment).Makes isPartial subject value ↔
      behaviour.Makes isPartial subject value := mapError_eq_ok

theorem convert_delegation (segment : Segment) :
    Delegation.convert isPartial ⟨segment, behaviour, subject⟩ = .ok value ↔
      behaviour.Makes isPartial subject value := mapError_eq_ok

theorem makes_guarded (applicable : KindSet) (strict : Bool) :
    (behaviour.guarded applicable strict).Makes isPartial subject value ↔
      if subject.kind ∈ applicable then behaviour.Makes isPartial subject value
      else strict = false ∧ subject = value := by
  unfold Makes guarded
  dsimp only
  by_cases applies : subject.kind ∈ applicable
  · rw [if_pos applies, if_pos (show applicable.contains subject.kind = true from applies)]
  · rw [if_neg applies, if_neg (show ¬ applicable.contains subject.kind = true from applies)]
    cases strict with
    | true => simp
    | false => simp

theorem makes_ofCheck (check : Bool → Value → Option Failure) :
    (ofCheck check).Makes isPartial subject value ↔
      (ofCheck check).accepts isPartial subject = true ∧ subject = value := by
  rw [accepts_ofCheck]
  unfold Makes ofCheck
  dsimp only
  cases check isPartial subject with
  | none => simp
  | some failure => simp

theorem accepts_ofRule (check : Check) :
    (ofRule check).accepts isPartial subject = true ↔
      check.violation? isPartial subject = none := by
  rw [accepts_iff]
  exact Option.map_eq_none_iff

theorem makes_ofRule (check : Check) :
    (ofRule check).Makes isPartial subject value ↔ check.convert isPartial subject = .ok value :=
  mapError_eq_ok

theorem makes_items (positional : List Behaviour) (rest : Behaviour) :
    (items positional rest).Makes isPartial subject value ↔
      ∃ items results, subject = .array items ∧ value = .array results ∧
        positional.length ≤ items.length ∧ items.length = results.length ∧
        ∀ (position : Nat) (item result : Value), items[position]? = some item →
          results[position]? = some result →
          ((positional[position]?).getD rest).Makes isPartial item result := by
  unfold Makes items
  dsimp only
  split
  · rename_i items
    split
    · rename_i few
      simp only [reduceCtorEq, false_iff]
      rintro ⟨_, _, same, _, many, _⟩
      cases same
      omega
    · rename_i many
      rw [map_eq_ok]
      constructor
      · rintro ⟨results, mapped, rfl⟩
        obtain ⟨length, all⟩ := List.forall₂_iff_get.mp (mapM_eq_ok.mp mapped)
        rw [itemDelegations, List.length_mapIdx] at length
        refine ⟨items, results, rfl, rfl, Nat.not_lt.mp many, length, ?_⟩
        intro position item result found found'
        obtain ⟨bound, rfl⟩ := List.getElem?_eq_some_iff.mp found
        obtain ⟨bound', rfl⟩ := List.getElem?_eq_some_iff.mp found'
        have made := all position (by rwa [itemDelegations, List.length_mapIdx]) bound'
        simp only [itemDelegations, List.get_eq_getElem, List.getElem_mapIdx] at made
        exact (convert_delegation _).mp made
      · rintro ⟨_, results, same, rfl, _, length, all⟩
        cases same
        refine ⟨results, mapM_eq_ok.mpr (List.forall₂_iff_get.mpr ⟨?_, ?_⟩), rfl⟩
        · rw [itemDelegations, List.length_mapIdx, length]
        · intro position bound bound'
          rw [itemDelegations, List.length_mapIdx] at bound
          simp only [itemDelegations, List.get_eq_getElem, List.getElem_mapIdx]
          exact (convert_delegation _).mpr (all position _ _ (List.getElem?_eq_getElem bound)
            (List.getElem?_eq_getElem bound'))
  · rename_i notArray
    simp only [reduceCtorEq, false_iff]
    rintro ⟨items, _, rfl, _⟩
    exact notArray items rfl

/-- Whether the conversion of one entry makes a table of a table. -/
def MakesEntry (isPartial : Bool) (choice : String × Behaviour) (before after : Table Value) : Prop :=
  match Table.lookup before choice.1 with
  | none => before = after
  | some value => ∃ made, choice.2.Makes isPartial value made ∧ Table.put before choice.1 made = after

theorem convertEntry_eq_ok {choice : String × Behaviour} {before after : Table Value} :
    convertEntry isPartial before choice = .ok after ↔ MakesEntry isPartial choice before after := by
  unfold convertEntry MakesEntry
  cases Table.lookup before choice.1 with
  | none => simp
  | some value =>
      refine map_eq_ok.trans (exists_congr fun made => and_congr_left fun _ => ?_)
      exact convert_delegation _

theorem makes_onEntries (select : List String → List (String × Behaviour)) :
    (onEntries select).Makes isPartial subject value ↔
      ∃ members results, subject = .object members ∧ value = .object results ∧
        Threads (MakesEntry isPartial) (select (Table.names members)) members results := by
  unfold Makes onEntries
  dsimp only
  split
  · rename_i members
    rw [map_eq_ok]
    constructor
    · rintro ⟨results, folded, rfl⟩
      refine ⟨members, results, rfl, rfl, ?_⟩
      refine (threads_congr fun choice _ before after => ?_).mp (foldlM_eq_ok.mp folded)
      exact convertEntry_eq_ok
    · rintro ⟨_, results, same, rfl, threads⟩
      cases same
      refine ⟨results, foldlM_eq_ok.mpr ?_, rfl⟩
      refine (threads_congr fun choice _ before after => ?_).mpr threads
      exact convertEntry_eq_ok
  · rename_i notObject
    simp only [reduceCtorEq, false_iff]
    rintro ⟨members, _, rfl, _⟩
    exact notObject members rfl

/-- Whether the conversion for one demand makes a value of an instance. -/
def MakesDemand (isPartial : Bool) (demand : String × Demand) (subject value : Value) : Prop :=
  ∃ members, subject = .object members ∧
    if Table.has members demand.1 = true then
      (demand.2.behaviour demand.1 members).Makes isPartial subject value
    else subject = value

theorem convertDemand_eq_ok {demand : String × Demand} :
    convertDemand isPartial subject demand = .ok value ↔
      MakesDemand isPartial demand subject value := by
  unfold convertDemand MakesDemand
  split
  · rename_i members
    by_cases present : Table.has members demand.1 = true
    · rw [if_pos present, convert_delegation]
      constructor
      · exact fun made => ⟨members, rfl, by rwa [if_pos present]⟩
      · rintro ⟨_, same, made⟩
        cases same
        rwa [if_pos present] at made
    · rw [if_neg present]
      constructor
      · intro made
        cases made
        exact ⟨members, rfl, by rw [if_neg present]⟩
      · rintro ⟨_, same, made⟩
        cases same
        rw [if_neg present] at made
        rw [made]
  · rename_i notObject
    simp only [reduceCtorEq, false_iff]
    rintro ⟨members, rfl, _⟩
    exact notObject members rfl

theorem makes_dependencies (demands : List (String × Demand)) :
    (dependencies demands).Makes isPartial subject value ↔
      Threads (MakesDemand isPartial) demands subject value := by
  refine foldlM_eq_ok.trans (threads_congr fun demand _ before after => ?_)
  exact convertDemand_eq_ok

theorem threads_mapIdx {number : Nat → Behaviour → Delegation}
    (kept : ∀ position behaviour, (number position behaviour).behaviour = behaviour)
    (behaviours : List Behaviour) :
    Threads (fun branch before after =>
        Delegation.convert isPartial { branch with subject := before } = .ok after)
      (behaviours.mapIdx number) subject value ↔
      Threads (fun behaviour before after => behaviour.Makes isPartial before after) behaviours
        subject value := by
  induction behaviours generalizing number subject with
  | nil => exact Iff.rfl
  | cons behaviour behaviours ih =>
      rw [List.mapIdx_cons]
      refine exists_congr fun next => and_congr ?_ (ih fun position => kept (position + 1))
      refine (convert_delegation _).trans ?_
      rw [kept]

theorem makes_allOf (behaviours : List Behaviour) :
    (allOf behaviours).Makes isPartial subject value ↔
      Threads (fun behaviour before after => behaviour.Makes isPartial before after) behaviours
        subject value := by
  refine foldlM_eq_ok.trans ?_
  exact threads_mapIdx (fun _ _ => rfl) behaviours

/-- Whether the first behaviour that makes anything of an instance makes a value. -/
def MakesFirst (isPartial : Bool) (subject value : Value) : List Behaviour → Prop
  | [] => False
  | behaviour :: behaviours =>
    behaviour.Makes isPartial subject value ∨
      (∀ made, ¬ behaviour.Makes isPartial subject made) ∧
        MakesFirst isPartial subject value behaviours

theorem firstConversion_eq_ok {number : Nat → Behaviour → Delegation}
    (kept : ∀ position behaviour, (number position behaviour).behaviour = behaviour ∧
      (number position behaviour).subject = subject) (behaviours : List Behaviour) :
    firstConversion isPartial (behaviours.mapIdx number) = .ok value ↔
      MakesFirst isPartial subject value behaviours := by
  induction behaviours generalizing number with
  | nil => simp [firstConversion, MakesFirst]
  | cons behaviour behaviours ih =>
      obtain ⟨handed, whole⟩ := kept 0 behaviour
      have made : ∀ made, (number 0 behaviour).convert isPartial = .ok made ↔
          behaviour.Makes isPartial subject made := by
        intro made
        rw [← whole]
        refine mapError_eq_ok.trans ?_
        rw [handed]
        exact Iff.rfl
      rw [List.mapIdx_cons, firstConversion, MakesFirst]
      cases converted : (number 0 behaviour).convert isPartial with
      | ok first =>
          have makes := (made first).mp converted
          constructor
          · intro same
            cases same
            exact .inl makes
          · rintro (other | ⟨none, _⟩)
            · cases converted.symm.trans ((made value).mpr other)
              rfl
            · exact absurd makes (none first)
      | error failure =>
          have none : ∀ made, ¬ behaviour.Makes isPartial subject made := by
            intro other makes
            cases converted.symm.trans ((made other).mpr makes)
          rw [mapError_eq_ok, ih fun position => kept (position + 1)]
          simp [none]

theorem makes_anyOf (behaviours : List Behaviour) :
    (anyOf behaviours).Makes isPartial subject value ↔
      MakesFirst isPartial subject value behaviours := by
  refine mapError_eq_ok.trans (firstConversion_eq_ok ?_ behaviours)
  exact fun _ _ => ⟨rfl, rfl⟩

theorem makes_branch (label : String) (choice : Option Behaviour) :
    (branch label choice).Makes isPartial subject value ↔
      (choice.getD pass).Makes isPartial subject value := by
  cases choice with
  | none => exact Iff.rfl
  | some behaviour => exact makes_under _

theorem makes_conditional (positive negative : Option Behaviour) :
    (conditional behaviour positive negative).Makes isPartial subject value ↔
      ((if behaviour.accepts isPartial subject = true then positive else negative).getD pass).Makes
        isPartial subject value := by
  rw [← makes_branch (if behaviour.accepts isPartial subject = true then "then" else "else")]
  unfold Makes conditional
  dsimp only
  split
  · exact Iff.rfl
  · exact Iff.rfl

theorem mem_passing {delegations : List Delegation} {entry : Delegation × Nat} :
    entry ∈ passing (results isPartial delegations) ↔
      delegations[entry.2]? = some entry.1 ∧
        entry.1.behaviour.accepts isPartial entry.1.subject = true := by
  obtain ⟨delegation, position⟩ := entry
  unfold passing results
  constructor
  · intro member
    obtain ⟨⟨outcome, _⟩, filtered, same⟩ := List.mem_map.mp member
    cases same
    obtain ⟨listed, passed⟩ := List.mem_filter.mp filtered
    rw [List.mem_zipIdx_iff_getElem?, List.getElem?_map] at listed
    obtain ⟨found, handed, rfl⟩ := Option.map_eq_some_iff.mp listed
    exact ⟨handed, (failure?_eq_none found).mp (Option.isNone_iff_eq_none.mp passed)⟩
  · rintro ⟨found, accepted⟩
    refine List.mem_map.mpr ⟨((delegation, delegation.failure? isPartial), position), ?_, rfl⟩
    refine List.mem_filter.mpr ⟨?_, ?_⟩
    · rw [List.mem_zipIdx_iff_getElem?, List.getElem?_map]
      exact Option.map_eq_some_iff.mpr ⟨delegation, found, rfl⟩
    · exact Option.isNone_iff_eq_none.mpr ((failure?_eq_none delegation).mpr accepted)

/-- Conversion is that of the only branch that passes. -/
theorem makes_oneOf (behaviours : List Behaviour) :
    (oneOf behaviours).Makes isPartial subject value ↔
      (oneOf behaviours).accepts isPartial subject = true ∧
        ∃ behaviour ∈ behaviours, behaviour.accepts isPartial subject = true ∧
          behaviour.Makes isPartial subject value := by
  have branch : ∀ (position : Nat) (delegation : Delegation),
      (branches behaviours subject)[position]? = some delegation ↔
        ∃ behaviour, behaviours[position]? = some behaviour ∧
          ⟨.index position, behaviour, subject⟩ = delegation := by
    intro position delegation
    unfold branches
    rw [List.getElem?_mapIdx]
    exact Option.map_eq_some_iff
  rw [accepts_iff]
  unfold Makes oneOf
  dsimp only
  split
  · rename_i only position found
    have member : (only, position) ∈ passing (results isPartial (branches behaviours subject)) := by
      rw [found]
      exact List.mem_cons_self
    obtain ⟨listed, accepted⟩ := mem_passing.mp member
    obtain ⟨behaviour, present, same⟩ := (branch position only).mp listed
    subst only
    rw [convert_delegation, found]
    constructor
    · exact fun made => ⟨rfl, behaviour, List.mem_of_getElem? present, accepted, made⟩
    · rintro ⟨_, other, included, passed, made⟩
      obtain ⟨place, foundOther⟩ := List.getElem?_of_mem included
      have again : (⟨.index place, other, subject⟩, place) ∈
          passing (results isPartial (branches behaviours subject)) :=
        mem_passing.mpr ⟨(branch _ _).mpr ⟨other, foundOther, rfl⟩, passed⟩
      rw [found] at again
      cases List.mem_singleton.mp again
      exact made
  · rename_i several
    simp only [reduceCtorEq, false_iff]
    rintro ⟨passed, _⟩
    split at passed
    · rename_i only found
      exact several only.1 only.2 found
    · cases passed

end Behaviour

namespace Step

variable {isPartial : Bool} {subject value : Value}

theorem makes_sequence (schema : String) (steps : List Step) :
    (sequence schema steps).Makes isPartial subject value ↔
      Threads (fun step before after => step.behaviour.Makes isPartial before after) steps
        subject value := by
  refine foldlM_eq_ok.trans (threads_congr fun step _ before after => ?_)
  exact mapError_eq_ok

end Step

theorem Schema.makes_iff (schema : Schema) {isPartial : Bool} {subject value : Value} :
    schema.behaviour.Makes isPartial subject value ↔
      Threads (fun bound before after => bound.step.behaviour.Makes isPartial before after)
        schema.constraints subject value := by
  obtain ⟨header, constraints⟩ := schema
  unfold Schema.behaviour
  rw [Step.makes_sequence, stepsOf_eq_map]
  exact threads_map

end Conformance
