import Conformance.Proofs.Conversion.Makes
import Conformance.Proofs.Satisfaction.Check
/-!
Fixpoints of conversion: the values that validation lets pass and that conversion leaves as they are. A
behaviour settles if conversion makes only such values. A thread of steps ends in a fixpoint of all of
them, if every step settles and no step disturbs a fixpoint of the steps before it (`Threads.fixed`).
-/

namespace Conformance

/-- A state that a thread of steps ends in is fixed by each of them. What a step fixes stays fixed under
the steps behind it; the states that matter share an invariant. -/
theorem Threads.fixed {α σ : Type} {makes : α → σ → σ → Prop} {fixes : α → σ → Prop}
    {invariant : σ → Prop} {steps : List α} {first last : σ} (threads : Threads makes steps first last)
    (settles : ∀ step ∈ steps, ∀ before after, invariant before → makes step before after →
      invariant after ∧ fixes step after)
    (kept : steps.Pairwise fun earlier later => ∀ before after, invariant before →
      fixes earlier before → makes later before after → fixes earlier after)
    (start : invariant first) : invariant last ∧ ∀ step ∈ steps, fixes step last := by
  induction steps generalizing first with
  | nil =>
      cases threads
      exact ⟨start, List.forall_mem_nil _⟩
  | cons step steps ih =>
      obtain ⟨next, made, rest⟩ := threads
      obtain ⟨here, fixed⟩ := settles step List.mem_cons_self first next start made
      have behind := fun other member => settles other (List.mem_cons_of_mem step member)
      obtain ⟨fromHere, others⟩ := List.pairwise_cons.mp kept
      obtain ⟨there, all⟩ := ih rest behind others here
      refine ⟨there, List.forall_mem_cons.mpr ⟨?_, all⟩⟩
      -- The steps behind keep the invariant together with what this step fixes.
      have both : ∀ other ∈ steps, ∀ before after, (invariant before ∧ fixes step before) →
          makes other before after → invariant after ∧ fixes step after := by
        rintro other member before after ⟨held, fixedBefore⟩ madeAfter
        exact ⟨(behind other member before after held madeAfter).1,
          fromHere other member before after held fixedBefore madeAfter⟩
      exact (rest.keeps both ⟨here, fixed⟩).2

namespace Table

variable {α : Type}

theorem has_congr {first second : Table α} (same : names first = names second) (name : String) :
    has first name = has second name := by
  rw [Bool.eq_iff_iff, has_iff_mem_names, has_iff_mem_names, same]

end Table

theorem Number.truncate?_eq_int {number truncated : Number}
    (found : number.truncate? = some truncated) : ∃ whole, truncated = .int whole := by
  unfold truncate? at found
  split at found
  · cases found
    exact ⟨_, rfl⟩
  · split at found
    · cases found
      exact ⟨_, rfl⟩
    · cases found

theorem Coercion.kind_of_to? {kind : Kind} {value coerced : Value}
    (found : to? kind value = some coerced) : coerced.kind = kind := by
  cases kind with
  | null => cases found
  | boolean =>
      change boolean? value = some coerced at found
      unfold boolean? at found
      split at found
      · cases found
        rfl
      · obtain ⟨truth, _, rfl⟩ := Option.map_eq_some_iff.mp found
        rfl
      · cases found
  | integer =>
      change integer? value = some coerced at found
      unfold integer? at found
      split at found
      · obtain ⟨truncated, integral, rfl⟩ := Option.map_eq_some_iff.mp found
        obtain ⟨whole, rfl⟩ := Number.truncate?_eq_int integral
        rfl
      · obtain ⟨whole, _, rfl⟩ := Option.map_eq_some_iff.mp found
        rfl
      · cases found
        rfl
      · cases found
  | float =>
      change float? value = some coerced at found
      unfold float? at found
      split at found
      · cases found
        rfl
      · split at found
        · split at found
          · cases found
            rfl
          · cases found
        · cases found
      · cases found
        rfl
      · cases found
  | string =>
      change string? value = some coerced at found
      unfold string? at found
      split at found
      · cases found
        rfl
      · cases found
        rfl
      · obtain ⟨text, _, rfl⟩ := Option.map_eq_some_iff.mp found
        rfl
      · cases found
  | bytes =>
      change bytes? value = some coerced at found
      unfold bytes? at found
      split at found
      · cases found
        rfl
      · obtain ⟨octets, _, rfl⟩ := Option.map_eq_some_iff.mp found
        rfl
      · cases found
  | array =>
      change array? value = some coerced at found
      unfold array? at found
      split at found
      · cases found
        rfl
      · cases found
  | object =>
      change object? value = some coerced at found
      unfold object? at found
      split at found
      · obtain ⟨entries, _, rfl⟩ := Option.map_eq_some_iff.mp found
        rfl
      · cases found

/-- What a value is brought into is of a wanted kind. -/
theorem Value.kind_of_coerce {kinds : KindSet} {value coerced : Value}
    (made : value.coerce kinds = .ok coerced) : coerced.kind ∈ kinds := by
  unfold coerce at made
  split at made
  · rename_i admitted
    cases made
    exact admitted
  · split at made
    · rename_i found
      cases made
      obtain ⟨kind, listed, converted⟩ := List.exists_of_findSome?_eq_some found
      rw [Coercion.kind_of_to? converted]
      exact (List.mem_filter.mp listed).2
    · cases made

namespace Behaviour

variable {isPartial : Bool} {subject value : Value} {behaviour : Behaviour}

/-- Whether validation lets a value pass and conversion leaves it as it is. -/
def Fixes (behaviour : Behaviour) (isPartial : Bool) (value : Value) : Prop :=
  behaviour.accepts isPartial value = true ∧ behaviour.Makes isPartial value value

/-- Whether conversion makes only values that validation lets pass and that it leaves as they are. -/
def Settles (behaviour : Behaviour) : Prop :=
  ∀ ⦃isPartial subject value⦄, behaviour.Makes isPartial subject value →
    behaviour.Fixes isPartial value

theorem settles_pass : pass.Settles := fun _ _ _ _ => ⟨rfl, rfl⟩

theorem settles_refuse : refuse.Settles := fun _ _ _ made => absurd made makes_refuse

theorem fixes_guarded (applicable : KindSet) (strict : Bool) :
    (behaviour.guarded applicable strict).Fixes isPartial value ↔
      if value.kind ∈ applicable then behaviour.Fixes isPartial value else strict = false := by
  unfold Fixes
  rw [accepts_guarded, makes_guarded]
  by_cases applies : value.kind ∈ applicable
  · simp only [if_pos applies]
  · simp only [if_neg applies, and_true, and_self]

section Items

variable {rest : Behaviour} {values : List Value}

theorem fixes_items : (items [] rest).Fixes isPartial (.array values) ↔
    ∀ item ∈ values, rest.Fixes isPartial item := by
  unfold Fixes
  rw [accepts_items, makes_items]
  constructor
  · rintro ⟨⟨_, same, _, accepted⟩, _, _, same', same'', _, _, made⟩ item member
    cases same
    cases same'
    cases same''
    obtain ⟨position, found⟩ := List.getElem?_of_mem member
    exact ⟨accepted position item found, made position item item found found⟩
  · intro fixed
    refine ⟨⟨values, rfl, Nat.zero_le _, ?_⟩, values, values, rfl, rfl, Nat.zero_le _, rfl, ?_⟩
    · intro position item found
      exact (fixed item (List.mem_of_getElem? found)).1
    · intro position item result found found'
      cases found.symm.trans found'
      exact (fixed item (List.mem_of_getElem? found)).2

theorem fixes_of_makes_items (settles : rest.Settles)
    (made : (items [] rest).Makes isPartial (.array values) value) :
    ∃ results, value = .array results ∧ results.length = values.length ∧
      (items [] rest).Fixes isPartial value := by
  obtain ⟨_, results, same, rfl, _, length, each⟩ := (makes_items _ _).mp made
  cases same
  refine ⟨results, rfl, length.symm, fixes_items.mpr ?_⟩
  intro result member
  obtain ⟨position, bound, rfl⟩ := List.getElem_of_mem member
  have before : position < values.length := by omega
  exact settles (each position values[position] results[position] (List.getElem?_eq_getElem before)
    (List.getElem?_eq_getElem bound))

end Items

section Entries

variable {choice other : String × Behaviour} {members results before after : Table Value}
  {choices : List (String × Behaviour)} {select select' : List String → List (String × Behaviour)}

theorem MakesEntry.cases (made : MakesEntry isPartial choice before after) :
    (Table.lookup before choice.1 = none ∧ after = before) ∨
      ∃ value result, Table.lookup before choice.1 = some value ∧
        choice.2.Makes isPartial value result ∧ after = Table.put before choice.1 result := by
  unfold MakesEntry at made
  cases found : Table.lookup before choice.1 with
  | none =>
      rw [found] at made
      exact .inl ⟨rfl, made.symm⟩
  | some value =>
      rw [found] at made
      obtain ⟨result, makes, rfl⟩ := made
      exact .inr ⟨value, result, rfl, makes, rfl⟩

theorem MakesEntry.names (made : MakesEntry isPartial choice before after) :
    Table.names after = Table.names before := by
  rcases made.cases with ⟨_, rfl⟩ | ⟨value, result, found, _, rfl⟩
  · rfl
  · have known : choice.1 ∈ Table.names before := List.mem_map_of_mem (Table.mem_of_lookup found)
    rw [Table.names_put, if_pos known]

theorem MakesEntry.lookup_of_ne (made : MakesEntry isPartial choice before after) {name : String}
    (apart : name ≠ choice.1) : Table.lookup after name = Table.lookup before name := by
  rcases made.cases with ⟨_, rfl⟩ | ⟨value, result, _, _, rfl⟩
  · rfl
  · exact Table.lookup_put_of_ne before result apart

/-- Whether a choice fixes the entry that it is about. -/
def FixesEntry (isPartial : Bool) (choice : String × Behaviour) (members : Table Value) : Prop :=
  ∀ value, Table.lookup members choice.1 = some value → choice.2.Fixes isPartial value

theorem MakesEntry.fixes (made : MakesEntry isPartial choice before after)
    (settles : choice.2.Settles) : FixesEntry isPartial choice after := by
  rcases made.cases with ⟨absent, rfl⟩ | ⟨value, result, _, makes, rfl⟩
  · intro value found
    cases absent.symm.trans found
  · intro other found
    cases (Table.lookup_put_self before choice.1 result).symm.trans found
    exact settles makes

theorem FixesEntry.makes (fixes : FixesEntry isPartial choice members) :
    MakesEntry isPartial choice members members := by
  unfold MakesEntry
  cases found : Table.lookup members choice.1 with
  | none => rfl
  | some value => exact ⟨value, (fixes value found).2, Table.put_of_lookup found⟩

/-- Whether choices settle and do not contradict one another. -/
structure IsCoherent (choices : List (String × Behaviour)) : Prop where
  settles : ∀ choice ∈ choices, choice.2.Settles
  single : ∀ choice ∈ choices, ∀ other ∈ choices, choice.1 = other.1 → choice.2 = other.2

theorem names_of_threads (threads : Threads (MakesEntry isPartial) choices members results) :
    Table.names results = Table.names members := by
  have kept : ∀ choice ∈ choices, ∀ before after, Table.names before = Table.names members →
      MakesEntry isPartial choice before after → Table.names after = Table.names members :=
    fun choice _ before after same made => made.names.trans same
  exact threads.keeps kept rfl

theorem lookup_of_threads (threads : Threads (MakesEntry isPartial) choices members results)
    {name : String} (unchosen : ∀ choice ∈ choices, choice.1 ≠ name) :
    Table.lookup results name = Table.lookup members name := by
  have kept : ∀ choice ∈ choices, ∀ before after,
      Table.lookup before name = Table.lookup members name → MakesEntry isPartial choice before after →
      Table.lookup after name = Table.lookup members name := by
    intro choice member before after same made
    exact (made.lookup_of_ne (unchosen choice member).symm).trans same
  exact threads.keeps kept rfl

theorem fixesEntry_of_threads (coherent : IsCoherent choices)
    (threads : Threads (MakesEntry isPartial) choices members results) :
    ∀ choice ∈ choices, FixesEntry isPartial choice results := by
  have settled : ∀ choice ∈ choices, ∀ before after, True →
      MakesEntry isPartial choice before after → True ∧ FixesEntry isPartial choice after :=
    fun choice member before after _ made => ⟨trivial, made.fixes (coherent.settles choice member)⟩
  have kept : choices.Pairwise fun earlier later => ∀ before after, True →
      FixesEntry isPartial earlier before → MakesEntry isPartial later before after →
      FixesEntry isPartial earlier after := by
    apply List.pairwise_of_forall_mem_list
    intro earlier member later member' before after _ fixes made
    by_cases same : earlier.1 = later.1
    · have fixesLater := made.fixes (coherent.settles later member')
      unfold FixesEntry at fixesLater ⊢
      rwa [same, coherent.single earlier member later member' same]
    · intro value found
      rw [made.lookup_of_ne same] at found
      exact fixes value found
  exact (threads.fixed settled kept trivial).2

theorem fixes_onEntries (coherent : IsCoherent (select (Table.names members))) :
    (onEntries select).Fixes isPartial (.object members) ↔
      ∀ choice ∈ select (Table.names members), FixesEntry isPartial choice members := by
  unfold Fixes
  rw [accepts_onEntries, makes_onEntries]
  constructor
  · rintro ⟨_, _, _, same, same', threads⟩
    cases same
    cases same'
    exact fixesEntry_of_threads coherent threads
  · intro fixes
    refine ⟨⟨members, rfl, fun choice member value found => (fixes choice member value found).1⟩, ?_⟩
    exact ⟨members, members, rfl, rfl, threads_self fun choice member => (fixes choice member).makes⟩

theorem fixes_of_makes_onEntries (coherent : IsCoherent (select (Table.names members)))
    (made : (onEntries select).Makes isPartial (.object members) value) :
    ∃ results, value = .object results ∧ Table.names results = Table.names members ∧
      (onEntries select).Fixes isPartial value := by
  obtain ⟨_, results, same, rfl, threads⟩ := (makes_onEntries _).mp made
  cases same
  have names := names_of_threads threads
  refine ⟨results, rfl, names, (fixes_onEntries ?_).mpr ?_⟩
  · rwa [names]
  · rw [names]
    exact fixesEntry_of_threads coherent threads

/-- The conversion of some entries keeps what the conversion of others fixes. -/
theorem Fixes.of_makes_onEntries (fixes : (onEntries select).Fixes isPartial (.object members))
    (coherent : IsCoherent (select (Table.names members)))
    (apart : ∀ choice ∈ select (Table.names members), ∀ other ∈ select' (Table.names members),
      other.1 ≠ choice.1)
    (made : (onEntries select').Makes isPartial (.object members) value) :
    (onEntries select).Fixes isPartial value := by
  obtain ⟨_, results, same, rfl, threads⟩ := (makes_onEntries _).mp made
  cases same
  have names := names_of_threads threads
  rw [fixes_onEntries (by rwa [names]), names]
  intro choice member found
  rw [lookup_of_threads threads (apart choice member)]
  exact (fixes_onEntries coherent).mp fixes choice member found

end Entries

section Checks

variable {limit : Nat} {text : String} {values : List Value} {names : List String}

theorem fixes_ofRule (check : Check) : (ofRule check).Fixes isPartial value ↔
    check.violation? isPartial value = none ∧ check.convert isPartial value = .ok value := by
  unfold Fixes
  rw [makes_ofRule, accepts_ofRule]

theorem fixes_of_violation {check : Check} (keeps : check.replaces = false) :
    (ofRule check).Fixes isPartial value ↔ check.violation? isPartial value = none := by
  rw [fixes_ofRule, Check.convert_eq_ok keeps]
  exact and_iff_left_of_imp fun passes => .inl ⟨passes, rfl⟩

/-- A check without repairs changes nothing. -/
theorem eq_of_makes_ofRule {check : Check} (keeps : check.replaces = false)
    (unrepaired : check.repair? subject = none) (made : (ofRule check).Makes isPartial subject value) :
    subject = value ∧ (ofRule check).Fixes isPartial value := by
  rcases (Check.convert_eq_ok keeps).mp ((makes_ofRule _).mp made) with ⟨passes, rfl⟩ | ⟨_, repaired⟩
  · exact ⟨rfl, (fixes_of_violation keeps).mpr passes⟩
  · cases unrepaired.symm.trans repaired

theorem fixes_maxLength : (ofRule (.maxLength limit)).Fixes isPartial (.string text) ↔
    text.length ≤ limit := by
  rw [fixes_of_violation rfl, Check.violation?, Check.onString_eq_none]
  simp

theorem fixes_of_makes_maxLength
    (made : (ofRule (.maxLength limit)).Makes isPartial (.string text) value) :
    ∃ kept, value = .string kept ∧ (ofRule (.maxLength limit)).Fixes isPartial value := by
  rcases (Check.convert_eq_ok rfl).mp ((makes_ofRule _).mp made) with ⟨passes, rfl⟩ | ⟨_, repaired⟩
  · exact ⟨text, rfl, (fixes_of_violation rfl).mpr passes⟩
  · cases repaired
    refine ⟨_, rfl, fixes_maxLength.mpr ?_⟩
    rw [String.length_ofList]
    exact List.length_take_le _ _

theorem fixes_maxSize : (ofRule (.maxSize limit)).Fixes isPartial (.array values) ↔
    values.length ≤ limit := by
  rw [fixes_of_violation rfl, Check.violation?, Check.onSize_eq_none]
  simp [Check.size?]

theorem fixes_of_makes_maxSize
    (made : (ofRule (.maxSize limit)).Makes isPartial (.array values) value) :
    ∃ kept, value = .array kept ∧ (∀ item ∈ kept, item ∈ values) ∧
      (ofRule (.maxSize limit)).Fixes isPartial value := by
  rcases (Check.convert_eq_ok rfl).mp ((makes_ofRule _).mp made) with ⟨passes, rfl⟩ | ⟨_, repaired⟩
  · exact ⟨values, rfl, fun _ member => member, (fixes_of_violation rfl).mpr passes⟩
  · cases repaired
    refine ⟨_, rfl, fun item member => List.mem_of_mem_take member, fixes_maxSize.mpr ?_⟩
    exact List.length_take_le _ _

/-- Whether the required entries are there depends on the names of an object only. -/
theorem fixes_required_congr {members others : Table Value}
    (same : Table.names members = Table.names others) :
    (ofRule (.required names)).Fixes isPartial (.object members) ↔
      (ofRule (.required names)).Fixes isPartial (.object others) := by
  rw [fixes_of_violation rfl, fixes_of_violation rfl]
  unfold Check.violation?
  dsimp only
  rw [Check.missing_congr (Table.has_congr same)]

theorem fixes_ofKinds {kinds : KindSet} :
    (ofRule (.ofKinds kinds)).Fixes isPartial value ↔ value.kind ∈ kinds := by
  rw [fixes_ofRule, Check.ofKinds_eq_none]
  constructor
  · rintro ⟨_, coerced⟩
    exact Value.kind_of_coerce coerced
  · exact fun admitted => ⟨.inl admitted, if_pos admitted⟩

end Checks

end Behaviour

end Conformance
