import Conformance.Report
/-!
Which instances behaviours accept. Validation collects the failures of all parts that a behaviour
hands on; that none is left says the same as a condition on the parts, one lemma for each way to put
a behaviour together. A schema accepts an instance if every one of its constraints does
(`Schema.success_iff`).
-/

namespace Conformance

namespace Behaviour

variable {isPartial : Bool} {subject : Value} {behaviour : Behaviour}

theorem accepts_iff (behaviour : Behaviour) : behaviour.accepts isPartial subject = true ↔
    behaviour.check isPartial subject = none := Option.isNone_iff_eq_none

@[simp]
theorem accepts_pass : pass.accepts isPartial subject = true := rfl

@[simp]
theorem accepts_refuse : refuse.accepts isPartial subject = false := rfl

theorem accepts_under (segment : Segment) :
    (behaviour.under segment).accepts isPartial subject = behaviour.accepts isPartial subject := by
  unfold accepts under
  dsimp only
  cases behaviour.check isPartial subject with
  | none => rfl
  | some failure => rfl

theorem accepts_guarded (applicable : KindSet) (strict : Bool) :
    (behaviour.guarded applicable strict).accepts isPartial subject = true ↔
      if subject.kind ∈ applicable then behaviour.accepts isPartial subject = true
      else strict = false := by
  rw [accepts_iff]
  unfold guarded
  dsimp only
  by_cases applies : subject.kind ∈ applicable
  · rw [if_pos applies, accepts_iff, if_pos (show applicable.contains subject.kind = true from applies)]
  · rw [if_neg applies, if_neg (show ¬ applicable.contains subject.kind = true from applies)]
    cases strict with
    | true => simp
    | false => simp

theorem compositeOf?_eq_none (cause : Cause) (parts : List Failure) :
    compositeOf? cause parts = none ↔ parts = [] := by
  cases parts with
  | nil => simp [compositeOf?]
  | cons part parts => simp [compositeOf?]

theorem failure?_eq_none (delegation : Delegation) :
    delegation.failure? isPartial = none ↔
      delegation.behaviour.accepts isPartial delegation.subject = true := by
  rw [accepts_iff]
  exact Option.map_eq_none_iff

theorem failures_eq_nil (delegations : List Delegation) :
    failures isPartial delegations = [] ↔
      ∀ delegation ∈ delegations,
        delegation.behaviour.accepts isPartial delegation.subject = true := by
  unfold failures
  rw [List.filterMap_eq_nil_iff]
  exact forall₂_congr fun delegation _ => failure?_eq_none delegation

/-- What a composite of the failures of some delegations says. -/
theorem compositeOf?_failures (cause : Cause) (delegations : List Delegation) :
    compositeOf? cause (failures isPartial delegations) = none ↔
      ∀ delegation ∈ delegations,
        delegation.behaviour.accepts isPartial delegation.subject = true := by
  rw [compositeOf?_eq_none, failures_eq_nil]

theorem accepts_items (positional : List Behaviour) (rest : Behaviour) :
    (items positional rest).accepts isPartial subject = true ↔
      ∃ items, subject = .array items ∧ positional.length ≤ items.length ∧
        ∀ (position : Nat) (item : Value), items[position]? = some item →
          ((positional[position]?).getD rest).accepts isPartial item = true := by
  rw [accepts_iff]
  unfold items
  dsimp only
  split
  · rename_i items
    split
    · rename_i few
      simp only [reduceCtorEq, Value.array.injEq, false_iff]
      rintro ⟨_, rfl, many, _⟩
      omega
    · rename_i many
      rw [compositeOf?_failures]
      constructor
      · intro all
        refine ⟨items, rfl, Nat.not_lt.mp many, ?_⟩
        intro position item found
        obtain ⟨bound, rfl⟩ := List.getElem?_eq_some_iff.mp found
        exact all _ (List.mem_mapIdx.mpr ⟨position, bound, rfl⟩)
      · rintro ⟨_, same, _, all⟩ delegation member
        cases same
        obtain ⟨position, bound, rfl⟩ := List.mem_mapIdx.mp member
        exact all position _ (List.getElem?_eq_getElem bound)
  · rename_i notArray
    simp only [reduceCtorEq, false_iff]
    rintro ⟨items, rfl, _⟩
    exact notArray items rfl

theorem accepts_ofCheck (check : Bool → Value → Option Failure) :
    (ofCheck check).accepts isPartial subject = true ↔ check isPartial subject = none :=
  accepts_iff _

theorem accepts_contains : (contains behaviour).accepts isPartial subject = true ↔
    ∃ items, subject = .array items ∧ ∃ item ∈ items, behaviour.accepts isPartial item = true := by
  unfold contains
  rw [accepts_ofCheck]
  split
  · rename_i items
    by_cases found : items.any (behaviour.accepts isPartial) = true
    · rw [if_pos found]
      simpa using found
    · rw [if_neg found]
      simpa using found
  · rename_i notArray
    simp only [reduceCtorEq, false_iff]
    rintro ⟨items, rfl, _⟩
    exact notArray items rfl

theorem accepts_onEntries (select : List String → List (String × Behaviour)) :
    (onEntries select).accepts isPartial subject = true ↔
      ∃ members, subject = .object members ∧
        ∀ choice ∈ select (Table.names members), ∀ member,
          Table.lookup members choice.1 = some member →
            choice.2.accepts isPartial member = true := by
  rw [accepts_iff]
  unfold onEntries
  dsimp only
  split
  · rename_i members
    rw [compositeOf?_failures]
    constructor
    · intro all
      refine ⟨members, rfl, ?_⟩
      intro choice selected member found
      exact all ⟨.key choice.1, choice.2, member⟩
        (List.mem_filterMap.mpr ⟨choice, selected, by rw [found]; rfl⟩)
    · rintro ⟨_, same, all⟩ delegation included
      cases same
      obtain ⟨choice, selected, handed⟩ := List.mem_filterMap.mp included
      obtain ⟨member, found, rfl⟩ := Option.map_eq_some_iff.mp handed
      exact all choice selected member found
  · rename_i notObject
    simp only [reduceCtorEq, false_iff]
    rintro ⟨members, rfl, _⟩
    exact notObject members rfl

theorem accepts_entries (listed : List (String × Behaviour)) :
    (entries listed).accepts isPartial subject = true ↔
      ∃ members, subject = .object members ∧
        ∀ choice ∈ listed, ∀ member, Table.lookup members choice.1 = some member →
          choice.2.accepts isPartial member = true := by
  unfold entries
  rw [accepts_onEntries]
  refine exists_congr fun members => and_congr_right fun _ => ?_
  constructor
  · intro all choice member value found
    refine all choice (List.mem_filter.mpr ⟨member, ?_⟩) value found
    exact decide_eq_true (List.mem_map_of_mem (Table.mem_of_lookup found))
  · intro all choice selected
    exact all choice (List.mem_filter.mp selected).1

theorem accepts_patternEntries (listed : List (Pattern × Behaviour)) :
    (patternEntries listed).accepts isPartial subject = true ↔
      ∃ members, subject = .object members ∧
        ∀ choice ∈ listed, ∀ name member, Table.lookup members name = some member →
          choice.1.isMatch name = true → choice.2.accepts isPartial member = true := by
  unfold patternEntries
  rw [accepts_onEntries]
  refine exists_congr fun members => and_congr_right fun _ => ?_
  constructor
  · intro all choice selected name member found matched
    refine all (name, choice.2) (List.mem_flatMap.mpr ⟨name, ?_, ?_⟩) member found
    · exact List.mem_map_of_mem (Table.mem_of_lookup found)
    · exact List.mem_map_of_mem (List.mem_filter.mpr ⟨selected, matched⟩)
  · rintro all ⟨name, behaviour⟩ selected member found
    obtain ⟨other, _, inside⟩ := List.mem_flatMap.mp selected
    obtain ⟨choice, matched, same⟩ := List.mem_map.mp inside
    cases same
    obtain ⟨listedChoice, isMatch⟩ := List.mem_filter.mp matched
    exact all choice listedChoice name member found isMatch

theorem isAdditional_iff (listed : List String) (patterns : List Pattern) (name : String) :
    isAdditional listed patterns name = true ↔
      name ∉ listed ∧ ∀ pattern ∈ patterns, pattern.isMatch name = false := by
  simp [isAdditional]

theorem accepts_additionalEntries (listed : List String) (patterns : List Pattern) :
    (additionalEntries listed patterns behaviour).accepts isPartial subject = true ↔
      ∃ members, subject = .object members ∧
        ∀ name member, Table.lookup members name = some member → name ∉ listed →
          (∀ pattern ∈ patterns, pattern.isMatch name = false) →
          behaviour.accepts isPartial member = true := by
  unfold additionalEntries
  rw [accepts_onEntries]
  refine exists_congr fun members => and_congr_right fun _ => ?_
  constructor
  · intro all name member found unlisted unmatched
    refine all (name, behaviour) (List.mem_map_of_mem (List.mem_filter.mpr ⟨?_, ?_⟩)) member found
    · exact List.mem_map_of_mem (Table.mem_of_lookup found)
    · exact (isAdditional_iff _ _ _).mpr ⟨unlisted, unmatched⟩
  · intro all choice selected member found
    obtain ⟨name, additional, rfl⟩ := List.mem_map.mp selected
    obtain ⟨unlisted, unmatched⟩ := (isAdditional_iff _ _ _).mp (List.mem_filter.mp additional).2
    exact all name member found unlisted unmatched

theorem accepts_entryNames : (entryNames behaviour).accepts isPartial subject = true ↔
    ∃ members, subject = .object members ∧
      ∀ name ∈ Table.names members, behaviour.accepts isPartial (.string name) = true := by
  unfold entryNames
  rw [accepts_ofCheck]
  split
  · rename_i members
    rw [compositeOf?_failures]
    constructor
    · intro all
      exact ⟨members, rfl, fun name member => all _ (List.mem_map_of_mem member)⟩
    · rintro ⟨_, same, all⟩ delegation included
      cases same
      obtain ⟨name, member, rfl⟩ := List.mem_map.mp included
      exact all name member
  · rename_i notObject
    simp only [reduceCtorEq, false_iff]
    rintro ⟨members, rfl, _⟩
    exact notObject members rfl

theorem accepts_dependencies (demands : List (String × Demand)) :
    (dependencies demands).accepts isPartial subject = true ↔
      demands = [] ∨ ∃ members, subject = .object members ∧
        ∀ demand ∈ demands, Table.has members demand.1 = true →
          (demand.2.behaviour demand.1 members).accepts isPartial subject = true := by
  rw [accepts_iff]
  unfold dependencies
  dsimp only
  split
  · simp
  · rename_i members asked
    rw [compositeOf?_failures]
    constructor
    · intro all
      refine .inr ⟨members, rfl, ?_⟩
      intro demand listed present
      exact all _ (List.mem_map_of_mem (List.mem_filter.mpr ⟨listed, present⟩))
    · rintro (none | ⟨_, same, all⟩) delegation included
      · exact absurd none asked
      · cases same
        obtain ⟨demand, selected, rfl⟩ := List.mem_map.mp included
        obtain ⟨listed, present⟩ := List.mem_filter.mp selected
        exact all demand listed present
  · rename_i asked notObject
    simp only [reduceCtorEq, false_iff]
    rintro (none | ⟨members, rfl, _⟩)
    · exact asked none
    · exact notObject members rfl

theorem accepts_allOf (behaviours : List Behaviour) :
    (allOf behaviours).accepts isPartial subject = true ↔
      ∀ behaviour ∈ behaviours, behaviour.accepts isPartial subject = true := by
  rw [accepts_iff]
  unfold allOf
  dsimp only
  rw [compositeOf?_failures]
  constructor
  · intro all behaviour member
    obtain ⟨position, bound, rfl⟩ := List.getElem_of_mem member
    exact all _ (List.mem_mapIdx.mpr ⟨position, bound, rfl⟩)
  · intro all delegation included
    obtain ⟨position, bound, rfl⟩ := List.mem_mapIdx.mp included
    exact all _ (List.getElem_mem bound)

theorem accepts_anyOf (behaviours : List Behaviour) :
    (anyOf behaviours).accepts isPartial subject = true ↔
      ∃ behaviour ∈ behaviours, behaviour.accepts isPartial subject = true := by
  have length : (branches behaviours subject).length = behaviours.length := List.length_mapIdx
  have allFail := List.filterMap_length_eq_length (f := Delegation.failure? isPartial)
    (l := branches behaviours subject)
  rw [accepts_iff]
  unfold anyOf
  dsimp only
  rw [← length, failures, ite_eq_right_iff]
  simp only [reduceCtorEq, imp_false, allFail]
  constructor
  · intro someAccepts
    apply Classical.byContradiction
    intro none
    apply someAccepts
    intro delegation included
    obtain ⟨position, bound, rfl⟩ := List.mem_mapIdx.mp included
    apply Option.isSome_iff_ne_none.mpr
    intro passed
    exact none ⟨_, List.getElem_mem bound, (failure?_eq_none _).mp passed⟩
  · rintro ⟨behaviour, member, passed⟩ allFailed
    obtain ⟨position, bound, rfl⟩ := List.getElem_of_mem member
    have failed := allFailed _ (List.mem_mapIdx.mpr ⟨position, bound, rfl⟩)
    rw [(failure?_eq_none _).mpr passed] at failed
    cases failed

/-- A test that one item of a list passes holds at one position only. -/
theorem countP_eq_one {α : Type} (test : α → Bool) (list : List α) :
    list.countP test = 1 ↔ ∃ position, position < list.length ∧
      ∀ (other : Nat) (item : α), list[other]? = some item →
        (test item = true ↔ other = position) := by
  induction list with
  | nil => simp
  | cons head tail ih =>
      by_cases passes : test head = true
      · rw [List.countP_cons_of_pos passes, Nat.add_eq_right, List.countP_eq_zero]
        constructor
        · intro others
          refine ⟨0, Nat.zero_lt_succ _, ?_⟩
          intro other item found
          cases other with
          | zero =>
              cases found
              simp [passes]
          | succ other =>
              simpa using others item (List.mem_of_getElem? found)
        · rintro ⟨position, _, only⟩ item member itemPasses
          obtain ⟨other, found⟩ := List.getElem?_of_mem member
          have first : 0 = position := (only 0 head rfl).mp passes
          have second : other + 1 = position := (only (other + 1) item found).mp itemPasses
          omega
      · rw [List.countP_cons_of_neg passes, ih]
        constructor
        · rintro ⟨position, bound, only⟩
          refine ⟨position + 1, Nat.succ_lt_succ bound, ?_⟩
          intro other item found
          cases other with
          | zero =>
              cases found
              simp [passes]
          | succ other => simpa using only other item found
        · rintro ⟨position, bound, only⟩
          cases position with
          | zero => exact absurd ((only 0 head rfl).mpr rfl) passes
          | succ position =>
              refine ⟨position, Nat.lt_of_succ_lt_succ bound, ?_⟩
              intro other item found
              simpa using only (other + 1) item found

theorem length_passing (behaviours : List Behaviour) :
    (passing (results isPartial (branches behaviours subject))).length =
      behaviours.countP fun behaviour => behaviour.accepts isPartial subject := by
  have pure : (branches behaviours subject).map Delegation.behaviour = behaviours := by
    apply List.ext_getElem
    · simp [branches]
    · intro position _ _
      simp [branches]
  have same : ∀ delegation ∈ branches behaviours subject,
      (delegation.failure? isPartial).isNone =
        delegation.behaviour.accepts isPartial subject := by
    intro delegation included
    obtain ⟨position, bound, rfl⟩ := List.mem_mapIdx.mp included
    rw [Bool.eq_iff_iff, Option.isNone_iff_eq_none, failure?_eq_none]
  unfold passing results
  rw [List.length_map, ← List.countP_eq_length_filter]
  generalize outcomes : (branches behaviours subject).map
    (fun delegation => (delegation, delegation.failure? isPartial)) = all
  calc all.zipIdx.countP (fun result => result.1.2.isNone)
      = (all.zipIdx.map Prod.fst).countP (fun result => result.2.isNone) := by
        rw [List.countP_map]
        rfl
    _ = (branches behaviours subject).countP
          (fun delegation => (delegation.failure? isPartial).isNone) := by
        rw [List.zipIdx_map_fst, ← outcomes, List.countP_map]
        rfl
    _ = (branches behaviours subject).countP
          (fun delegation => delegation.behaviour.accepts isPartial subject) :=
        List.countP_congr fun delegation included => by rw [same delegation included]
    _ = ((branches behaviours subject).map Delegation.behaviour).countP
          (fun behaviour => behaviour.accepts isPartial subject) := by
        rw [List.countP_map]
        rfl
    _ = behaviours.countP fun behaviour => behaviour.accepts isPartial subject := by rw [pure]

theorem accepts_oneOf (behaviours : List Behaviour) :
    (oneOf behaviours).accepts isPartial subject = true ↔
      ∃ position, position < behaviours.length ∧
        ∀ (other : Nat) (behaviour : Behaviour), behaviours[other]? = some behaviour →
          (behaviour.accepts isPartial subject = true ↔ other = position) := by
  rw [← countP_eq_one, ← length_passing, List.length_eq_one_iff, accepts_iff]
  unfold oneOf
  dsimp only
  split
  · rename_i only found
    simp [found]
  · rename_i several
    simp only [reduceCtorEq, false_iff]
    rintro ⟨only, found⟩
    exact several only found

theorem accepts_negation : (negation behaviour).accepts isPartial subject = true ↔
    ¬ behaviour.accepts isPartial subject = true := by
  unfold negation
  rw [accepts_ofCheck]
  cases behaviour.accepts isPartial subject <;> simp

theorem accepts_branch (label : String) (choice : Option Behaviour) :
    (branch label choice).accepts isPartial subject = true ↔
      ∀ behaviour, choice = some behaviour → behaviour.accepts isPartial subject = true := by
  cases choice with
  | none => simp [branch]
  | some behaviour => simp [branch, accepts]

theorem accepts_conditional (positive negative : Option Behaviour) :
    (conditional behaviour positive negative).accepts isPartial subject = true ↔
      (behaviour.accepts isPartial subject = true →
        ∀ choice, positive = some choice → choice.accepts isPartial subject = true) ∧
      (¬ behaviour.accepts isPartial subject = true →
        ∀ choice, negative = some choice → choice.accepts isPartial subject = true) := by
  rw [← accepts_branch "then", ← accepts_branch "else"]
  rw [accepts_iff (conditional _ _ _)]
  unfold conditional
  dsimp only
  cases condition : behaviour.accepts isPartial subject with
  | true => simp [accepts_iff]
  | false => simp [accepts_iff]

end Behaviour

namespace Step

variable {isPartial : Bool} {subject : Value}

/-- Validation reports success if every step accepts. -/
theorem outcomes_all (schema : String) (steps : List Step) :
    ((outcomes schema isPartial subject steps).all fun outcome => outcome.2.isNone) = true ↔
      ∀ step ∈ steps, step.behaviour.accepts isPartial subject = true := by
  induction steps with
  | nil => simp [outcomes]
  | cons step rest ih =>
      unfold outcomes
      cases checked : step.behaviour.check isPartial subject with
      | none =>
          simp only [List.all_cons, Option.isNone_none, Bool.true_and, List.mem_cons,
            forall_eq_or_imp, ih]
          rw [(Behaviour.accepts_iff _).mpr checked]
          simp
      | some failure =>
          have refused : ¬ step.behaviour.accepts isPartial subject = true := by
            rw [Behaviour.accepts_iff, checked]
            simp
          simp [refused]

theorem fold_eq_none (schema : String) (outcomes : List (String × Option Failure)) :
    fold schema outcomes = none ↔ (outcomes.all fun outcome => outcome.2.isNone) = true := by
  have empty : outcomes.filterMap Prod.snd = [] ↔
      (outcomes.all fun outcome => outcome.2.isNone) = true := by
    simp [List.filterMap_eq_nil_iff]
  unfold fold
  rw [← empty]
  split
  · rename_i none
    simp [none]
  · rename_i some
    simp only [reduceCtorEq, false_iff]
    exact fun none => some none

theorem accepts_sequence (schema : String) (steps : List Step) :
    (sequence schema steps).accepts isPartial subject = true ↔
      ∀ step ∈ steps, step.behaviour.accepts isPartial subject = true := by
  rw [Behaviour.accepts_iff]
  unfold sequence
  rw [fold_eq_none, outcomes_all]

end Step

namespace Schema

variable {isPartial : Bool} {subject : Value}

theorem accepts_iff (schema : Schema) :
    schema.behaviour.accepts isPartial subject = true ↔
      ∀ bound ∈ schema.constraints, bound.step.behaviour.accepts isPartial subject = true := by
  obtain ⟨header, constraints⟩ := schema
  unfold Schema.behaviour
  rw [Step.accepts_sequence, stepsOf_eq_map]
  simp [Schema.constraints]

theorem success_iff (schema : Schema) :
    (schema.validate subject isPartial).success = true ↔
      schema.behaviour.accepts isPartial subject = true := by
  rw [accepts_iff]
  unfold validate Report.success outcomes
  rw [Step.outcomes_all, stepsOf_eq_map]
  simp

end Schema

end Conformance
