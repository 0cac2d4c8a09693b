import Conformance.Proofs.Conversion.Makes
import Conformance.Proofs.Satisfaction.Check
import Conformance.Proofs.Value.Equality
/-!
Faithful behaviours. They let pass what is equal to a value that they let pass, and their conversion makes
of it an equal value. Whatever is put together of faithful behaviours is faithful, apart from a choice of
the first that converts: that may be one that does not let the instance pass.
-/

namespace Conformance

namespace Check

variable {isPartial : Bool} {subject copy : Value}

/-- The values that stand in a check. -/
def choices : Check → List Value
  | .among choices => choices
  | .constant expected => [expected]
  | _ => []

theorem among_eq_none (choices : List Value) :
    (among choices).violation? isPartial subject = none ↔
      ∃ choice ∈ choices, (choice == subject) = true := by
  rw [violation?, ← List.any_eq_true, ite_eq_left_iff]
  simp

theorem constant_eq_none (expected : Value) :
    (constant expected).violation? isPartial subject = none ↔ (subject == expected) = true := by
  rw [violation?, ite_eq_left_iff]
  simp

theorem uniqueItems_eq_none (items : List Value) :
    uniqueItems.violation? isPartial (.array items) = none ↔
      items.Pairwise fun first second => (first == second) = false := by
  rw [← length_distinct_iff, violation?, ite_eq_left_iff]
  simp

theorem pairwise_of_copies {copies items : List Value}
    (copied : List.Forall₂ Value.IsCopy copies items)
    (apart : items.Pairwise fun first second => (first == second) = false) :
    copies.Pairwise fun first second => (first == second) = false := by
  induction copied with
  | nil => exact .nil
  | @cons copy item copies items pair others ih =>
      obtain ⟨fromHead, behind⟩ := List.pairwise_cons.mp apart
      refine List.pairwise_cons.mpr ⟨fun other member => ?_, ih behind⟩
      obtain ⟨position, bound, rfl⟩ := List.getElem_of_mem member
      have before : position < items.length := others.length_eq ▸ bound
      have pair' : copies[position].IsCopy items[position] := others.get bound before
      have differs := fromHead items[position] (List.getElem_mem before)
      rw [Bool.eq_false_iff] at differs ⊢
      intro equal
      have same : copy.IsCopy copies[position] := ⟨pair.plain, pair'.plain, equal⟩
      exact differs (pair.symm.trans (same.trans pair')).equal

theorem among_of_copy {choices : List Value} (plain : ∀ choice ∈ choices, choice.IsPlain)
    (same : copy.IsCopy subject)
    (passes : (among choices).violation? isPartial subject = none) :
    (among choices).violation? isPartial copy = none := by
  rw [among_eq_none] at passes ⊢
  obtain ⟨choice, member, equal⟩ := passes
  have matched : choice.IsCopy subject := ⟨plain choice member, same.plainOriginal, equal⟩
  exact ⟨choice, member, (matched.trans same.symm).equal⟩

theorem constant_of_copy {expected : Value} (plain : expected.IsPlain) (same : copy.IsCopy subject)
    (passes : (constant expected).violation? isPartial subject = none) :
    (constant expected).violation? isPartial copy = none := by
  rw [constant_eq_none] at passes ⊢
  have matched : subject.IsCopy expected := ⟨same.plainOriginal, plain, passes⟩
  exact (same.trans matched).equal

/-- What a check says of an instance it says of its copies. On anything but arrays and objects these are
the same; on arrays and objects, the checks that look further look at the sizes, the names or the equality
of items. -/
theorem violation?_of_copy {check : Check} (plain : ∀ choice ∈ check.choices, choice.IsPlain)
    (same : copy.IsCopy subject) (passes : check.violation? isPartial subject = none) :
    check.violation? isPartial copy = none := by
  rcases same.cases with rfl | ⟨copies, items, rfl, rfl, copied⟩ |
    ⟨others, members, rfl, rfl, length, related⟩
  · exact passes
  · cases check with
    | among choices => exact among_of_copy plain same passes
    | constant expected => exact constant_of_copy (plain expected List.mem_cons_self) same passes
    | maxSize limit =>
        rw [violation?, onSize, size?] at passes ⊢
        rwa [copied.length_eq]
    | minSize limit =>
        rw [violation?, onSize, size?] at passes ⊢
        rwa [copied.length_eq]
    | uniqueItems =>
        rw [uniqueItems_eq_none] at passes ⊢
        exact pairwise_of_copies copied passes
    | _ => exact passes
  · cases check with
    | among choices => exact among_of_copy plain same passes
    | constant expected => exact constant_of_copy (plain expected List.mem_cons_self) same passes
    | maxSize limit =>
        rw [violation?, onSize, size?] at passes ⊢
        rwa [length]
    | minSize limit =>
        rw [violation?, onSize, size?] at passes ⊢
        rwa [length]
    | required names =>
        rw [violation?] at passes ⊢
        have present := fun name => Table.has_of_rel (related name)
        dsimp only at passes ⊢
        rwa [missing_congr present]
    | _ => exact passes

end Check

namespace Behaviour

variable {isPartial : Bool} {subject copy : Value} {behaviour : Behaviour}

/-- Whether a behaviour does not tell equal values apart, and conversion makes of a value that passes an
equal one. -/
structure Faithful (behaviour : Behaviour) : Prop where
  respects : ∀ {isPartial copy subject}, copy.IsCopy subject →
    behaviour.accepts isPartial subject = true → behaviour.accepts isPartial copy = true
  keeps : ∀ {isPartial subject}, subject.IsPlain → behaviour.accepts isPartial subject = true →
    ∃ value, behaviour.Makes isPartial subject value ∧ value.IsCopy subject

theorem Faithful.accepts_iff (faithful : behaviour.Faithful) (same : copy.IsCopy subject) :
    behaviour.accepts isPartial copy = true ↔ behaviour.accepts isPartial subject = true :=
  ⟨faithful.respects same.symm, faithful.respects same⟩

/-- What passes a copy converts to a copy. -/
theorem Faithful.makes (faithful : behaviour.Faithful) (same : copy.IsCopy subject)
    (accepted : behaviour.accepts isPartial subject = true) :
    ∃ value, behaviour.Makes isPartial copy value ∧ value.IsCopy subject := by
  obtain ⟨value, made, copied⟩ := faithful.keeps same.plain (faithful.respects same accepted)
  exact ⟨value, made, copied.trans same⟩

theorem faithful_pass : pass.Faithful where
  respects _ _ := rfl
  keeps plain _ := ⟨_, rfl, plain.isCopy⟩

theorem faithful_refuse : refuse.Faithful where
  respects _ accepted := nomatch accepted
  keeps _ accepted := nomatch accepted

theorem faithful_guarded (faithful : behaviour.Faithful) (applicable : KindSet) (strict : Bool) :
    (behaviour.guarded applicable strict).Faithful where
  respects same accepted := by
    rw [accepts_guarded] at accepted ⊢
    simp only [same.kind]
    split at accepted
    · rename_i applies
      rw [if_pos applies]
      exact faithful.respects same accepted
    · rename_i other
      rwa [if_neg other]
  keeps plain accepted := by
    rw [accepts_guarded] at accepted
    simp only [makes_guarded]
    split at accepted
    · rename_i applies
      simp only [if_pos applies]
      exact faithful.keeps plain accepted
    · rename_i other
      simp only [if_neg other]
      exact ⟨_, ⟨accepted, rfl⟩, plain.isCopy⟩

/-- A check is faithful if the values in it are plain. The two that replace an instance make of one that
passes the same or an equal value. -/
theorem faithful_ofRule {check : Check} (plainChoices : ∀ choice ∈ check.choices, choice.IsPlain) :
    (ofRule check).Faithful where
  respects same accepted := by
    rw [accepts_ofRule] at accepted ⊢
    exact Check.violation?_of_copy plainChoices same accepted
  keeps {isPartial subject} plain accepted := by
    rw [accepts_ofRule] at accepted
    simp only [makes_ofRule]
    cases check with
    | ofKinds kinds =>
        rcases (Check.ofKinds_eq_none kinds).mp accepted with admitted | ⟨double, rfl, _⟩
        · exact ⟨subject, if_pos admitted, plain.isCopy⟩
        · exact absurd rfl plain.notFloat
    | constant expected =>
        have plainExpected := plainChoices expected List.mem_cons_self
        have equal := (Check.constant_eq_none expected).mp accepted
        have matched : subject.IsCopy expected := ⟨plain, plainExpected, equal⟩
        exact ⟨expected, rfl, matched.symm⟩
    | _ => exact ⟨subject, (Check.convert_eq_ok rfl).mpr (.inl ⟨accepted, rfl⟩), plain.isCopy⟩

/-- What only looks is faithful if it does not tell equal values apart. -/
theorem faithful_ofCheck {check : Bool → Value → Option Failure}
    (respects : ∀ {isPartial copy subject}, copy.IsCopy subject →
      (ofCheck check).accepts isPartial subject = true →
      (ofCheck check).accepts isPartial copy = true) : (ofCheck check).Faithful where
  respects := respects
  keeps plain accepted := ⟨_, (makes_ofCheck _).mpr ⟨accepted, rfl⟩, plain.isCopy⟩

theorem faithful_under (faithful : behaviour.Faithful) (segment : Segment) :
    (behaviour.under segment).Faithful where
  respects same accepted := by
    rw [accepts_under] at accepted ⊢
    exact faithful.respects same accepted
  keeps plain accepted := by
    rw [accepts_under] at accepted
    simp only [makes_under]
    exact faithful.keeps plain accepted

section Items

theorem exists_results {related : Nat → Value → Value → Prop} {items : List Value}
    (each : ∀ (position : Nat) (item : Value), items[position]? = some item →
      ∃ result, related position item result) :
    ∃ results : List Value, items.length = results.length ∧
      ∀ (position : Nat) (item result : Value), items[position]? = some item →
        results[position]? = some result → related position item result := by
  induction items generalizing related with
  | nil => exact ⟨[], rfl, fun position item result found => nomatch found⟩
  | cons item items ih =>
      obtain ⟨first, here⟩ := each 0 item rfl
      obtain ⟨others, length, behind⟩ := ih fun position => each (position + 1)
      refine ⟨first :: others, congrArg (· + 1) length, fun position item' result found found' => ?_⟩
      cases position with
      | zero =>
          cases found
          cases found'
          exact here
      | succ position => exact behind position item' result found found'

theorem faithful_getD {positional : List Behaviour} {rest : Behaviour}
    (each : ∀ behaviour ∈ positional, behaviour.Faithful) (others : rest.Faithful) (position : Nat) :
    ((positional[position]?).getD rest).Faithful := by
  cases found : positional[position]? with
  | none => exact others
  | some behaviour => exact each behaviour (List.mem_of_getElem? found)

theorem faithful_items {positional : List Behaviour} {rest : Behaviour}
    (each : ∀ behaviour ∈ positional, behaviour.Faithful) (others : rest.Faithful) :
    (items positional rest).Faithful where
  respects same accepted := by
    obtain ⟨items, rfl, many, all⟩ := (accepts_items _ _).mp accepted
    obtain ⟨copies, rfl, copied⟩ := same.symm.exists_array
    refine (accepts_items _ _).mpr ⟨copies, rfl, copied.length_eq ▸ many, ?_⟩
    intro position item found
    obtain ⟨bound, rfl⟩ := List.getElem?_eq_some_iff.mp found
    have before : position < items.length := copied.length_eq ▸ bound
    have pair : items[position].IsCopy copies[position] := copied.get before bound
    have passed := all position items[position] (List.getElem?_eq_getElem before)
    exact (faithful_getD each others position).respects pair.symm passed
  keeps {isPartial _} plain accepted := by
    obtain ⟨items, rfl, many, all⟩ := (accepts_items _ _).mp accepted
    have converted : ∀ (position : Nat) (item : Value), items[position]? = some item →
        ∃ result, ((positional[position]?).getD rest).Makes isPartial item result ∧
          result.IsCopy item := by
      intro position item found
      exact (faithful_getD each others position).keeps (plain.item (List.mem_of_getElem? found))
        (all position item found)
    obtain ⟨results, length, made⟩ := exists_results converted
    refine ⟨.array results, (makes_items _ _).mpr ?_, Value.isCopy_array ?_⟩
    · exact ⟨items, results, rfl, rfl, many, length, fun position item result found found' =>
        (made position item result found found').1⟩
    · refine List.forall₂_iff_get.mpr ⟨length.symm, fun position bound bound' => ?_⟩
      exact (made position _ _ (List.getElem?_eq_getElem bound') (List.getElem?_eq_getElem bound)).2

theorem faithful_contains (faithful : behaviour.Faithful) : (contains behaviour).Faithful := by
  refine faithful_ofCheck fun same accepted => ?_
  obtain ⟨items, rfl, item, member, passed⟩ := accepts_contains.mp accepted
  obtain ⟨copies, rfl, copied⟩ := same.symm.exists_array
  obtain ⟨position, bound, rfl⟩ := List.getElem_of_mem member
  have bound' : position < copies.length := copied.length_eq ▸ bound
  have pair : items[position].IsCopy copies[position] := copied.get bound bound'
  exact accepts_contains.mpr
    ⟨copies, rfl, copies[position], List.getElem_mem bound', faithful.respects pair.symm passed⟩

end Items

section Entries

variable {select : List String → List (String × Behaviour)}

theorem mem_names_iff {members others : Table Value}
    (related : ∀ name, Option.Rel Value.IsCopy (Table.lookup members name) (Table.lookup others name))
    (name : String) : name ∈ Table.names members ↔ name ∈ Table.names others := by
  rw [← Table.has_iff_mem_names, ← Table.has_iff_mem_names, Table.has_of_rel (related name)]

/-- A choice of entries by their names, without regard to the order of the names. -/
theorem faithful_onEntries (each : ∀ names, ∀ choice ∈ select names, choice.2.Faithful)
    (unordered : ∀ names names', (∀ name, name ∈ names ↔ name ∈ names') →
      ∀ choice ∈ select names, choice ∈ select names') : (onEntries select).Faithful where
  respects same accepted := by
    obtain ⟨members, rfl, all⟩ := (accepts_onEntries _).mp accepted
    obtain ⟨copies, rfl, related⟩ := same.symm.exists_object
    refine (accepts_onEntries _).mpr ⟨copies, rfl, fun choice chosen member found => ?_⟩
    have chosen' := unordered _ _ (fun name => (mem_names_iff related name).symm) choice chosen
    obtain ⟨original, found', pair⟩ := exists_of_rel (rel_flip (related choice.1)) found
    exact (each _ choice chosen).respects pair.symm (all choice chosen' original found')
  keeps {isPartial _} plain accepted := by
    obtain ⟨members, rfl, all⟩ := (accepts_onEntries _).mp accepted
    have step : ∀ choice ∈ select (Table.names members), ∀ before : Table Value,
        (Value.object before).IsCopy (.object members) →
        ∃ after, MakesEntry isPartial choice before after ∧
          (Value.object after).IsCopy (.object members) := by
      intro choice chosen before same
      unfold MakesEntry
      cases found : Table.lookup before choice.1 with
      | none => exact ⟨before, rfl, same⟩
      | some value =>
          obtain ⟨_, isObject, related⟩ := same.exists_object
          cases isObject
          obtain ⟨original, found', pair⟩ := exists_of_rel (related choice.1) found
          obtain ⟨made, makes, copied⟩ :=
            (each _ choice chosen).makes pair (all choice chosen original found')
          exact ⟨_, ⟨made, makes, rfl⟩, same.put found (copied.trans pair.symm)⟩
    obtain ⟨results, threads, same⟩ := exists_threads step plain.isCopy
    exact ⟨.object results, (makes_onEntries _).mpr ⟨members, results, rfl, rfl, threads⟩, same⟩

theorem faithful_entries {listed : List (String × Behaviour)}
    (each : ∀ choice ∈ listed, choice.2.Faithful) : (entries listed).Faithful := by
  refine faithful_onEntries (fun names choice chosen => each choice (List.mem_filter.mp chosen).1) ?_
  intro names names' same choice chosen
  obtain ⟨member, present⟩ := List.mem_filter.mp chosen
  exact List.mem_filter.mpr ⟨member, decide_eq_true ((same _).mp (of_decide_eq_true present))⟩

theorem faithful_patternEntries {listed : List (Pattern × Behaviour)}
    (each : ∀ choice ∈ listed, choice.2.Faithful) : (patternEntries listed).Faithful := by
  refine faithful_onEntries ?_ ?_
  · intro names choice chosen
    obtain ⟨name, _, inside⟩ := List.mem_flatMap.mp chosen
    obtain ⟨matched, member, rfl⟩ := List.mem_map.mp inside
    exact each matched (List.mem_filter.mp member).1
  · intro names names' same choice chosen
    obtain ⟨name, present, inside⟩ := List.mem_flatMap.mp chosen
    exact List.mem_flatMap.mpr ⟨name, (same name).mp present, inside⟩

theorem faithful_additionalEntries (faithful : behaviour.Faithful) (listed : List String)
    (patterns : List Pattern) : (additionalEntries listed patterns behaviour).Faithful := by
  refine faithful_onEntries ?_ ?_
  · intro names choice chosen
    obtain ⟨name, _, rfl⟩ := List.mem_map.mp chosen
    exact faithful
  · intro names names' same choice chosen
    obtain ⟨name, member, rfl⟩ := List.mem_map.mp chosen
    obtain ⟨present, additional⟩ := List.mem_filter.mp member
    exact List.mem_map_of_mem (List.mem_filter.mpr ⟨(same name).mp present, additional⟩)

theorem faithful_entryNames : (entryNames behaviour).Faithful := by
  refine faithful_ofCheck fun same accepted => ?_
  obtain ⟨members, rfl, all⟩ := accepts_entryNames.mp accepted
  obtain ⟨copies, rfl, related⟩ := same.symm.exists_object
  refine accepts_entryNames.mpr ⟨copies, rfl, fun name present => all name ?_⟩
  exact (mem_names_iff related name).mpr present

end Entries

section Demands

variable {demand : Demand} {members others : Table Value} {name : String}

/-- What a demand asks for does not depend on more than the names of the entries. -/
theorem demand_congr (same : ∀ name, Table.has members name = Table.has others name) :
    demand.behaviour name members = demand.behaviour name others := by
  cases demand with
  | peers names =>
      unfold Demand.behaviour
      dsimp only
      rw [Check.missing_congr same]
  | whole behaviour => rfl

theorem faithful_demand (each : ∀ behaviour, demand = .whole behaviour → behaviour.Faithful) :
    (demand.behaviour name members).Faithful := by
  cases demand with
  | peers names => exact faithful_ofCheck fun _ accepted => accepted
  | whole behaviour => exact each behaviour rfl

theorem faithful_dependencies {demands : List (String × Demand)}
    (each : ∀ demand ∈ demands, ∀ behaviour, demand.2 = .whole behaviour → behaviour.Faithful) :
    (dependencies demands).Faithful where
  respects same accepted := by
    refine (accepts_dependencies _).mpr ?_
    rcases (accepts_dependencies _).mp accepted with none | ⟨members, rfl, all⟩
    · exact .inl none
    · obtain ⟨copies, rfl, related⟩ := same.symm.exists_object
      have present := fun name => Table.has_of_rel (related name)
      refine .inr ⟨copies, rfl, fun demand listed asked => ?_⟩
      rw [← present] at asked
      rw [← demand_congr present]
      exact (faithful_demand (each demand listed)).respects same (all demand listed asked)
  keeps {isPartial _} plain accepted := by
    simp only [makes_dependencies]
    rcases (accepts_dependencies _).mp accepted with rfl | ⟨members, rfl, all⟩
    · exact ⟨_, rfl, plain.isCopy⟩
    · have step : ∀ demand ∈ demands, ∀ before : Value, before.IsCopy (.object members) →
          ∃ after, MakesDemand isPartial demand before after ∧ after.IsCopy (.object members) := by
        intro demand listed before same
        obtain ⟨copies, rfl, related⟩ := same.symm.exists_object
        have present := fun name => Table.has_of_rel (related name)
        by_cases asked : Table.has copies demand.1 = true
        · have passed := all demand listed ((present demand.1).trans asked)
          rw [demand_congr present] at passed
          obtain ⟨made, makes, copied⟩ := (faithful_demand (each demand listed)).makes same passed
          exact ⟨made, ⟨copies, rfl, by rwa [if_pos asked]⟩, copied⟩
        · exact ⟨_, ⟨copies, rfl, by rw [if_neg asked]⟩, same⟩
      exact exists_threads step plain.isCopy

end Demands

section Branches

variable {behaviours : List Behaviour} (each : ∀ behaviour ∈ behaviours, behaviour.Faithful)

include each

theorem faithful_allOf : (allOf behaviours).Faithful where
  respects same accepted := by
    rw [accepts_allOf] at accepted ⊢
    exact fun behaviour member => (each behaviour member).respects same (accepted behaviour member)
  keeps {isPartial subject} plain accepted := by
    rw [accepts_allOf] at accepted
    simp only [makes_allOf]
    have step : ∀ behaviour ∈ behaviours, ∀ before : Value, before.IsCopy subject →
        ∃ after, behaviour.Makes isPartial before after ∧ after.IsCopy subject :=
      fun behaviour member before same =>
        (each behaviour member).makes same (accepted behaviour member)
    exact exists_threads step plain.isCopy

theorem faithful_oneOf : (oneOf behaviours).Faithful where
  respects same accepted := by
    rw [accepts_oneOf] at accepted ⊢
    obtain ⟨position, bound, only⟩ := accepted
    refine ⟨position, bound, fun other behaviour found => ?_⟩
    rw [(each behaviour (List.mem_of_getElem? found)).accepts_iff same]
    exact only other behaviour found
  keeps plain accepted := by
    obtain ⟨position, bound, only⟩ := (accepts_oneOf _).mp accepted
    have member : behaviours[position] ∈ behaviours := List.getElem_mem bound
    have passed := (only position behaviours[position] (List.getElem?_eq_getElem bound)).mpr rfl
    obtain ⟨value, made, copied⟩ := (each _ member).keeps plain passed
    exact ⟨value, (makes_oneOf _).mpr ⟨accepted, _, member, passed, made⟩, copied⟩

end Branches

theorem faithful_negation (faithful : behaviour.Faithful) : (negation behaviour).Faithful := by
  refine faithful_ofCheck fun same accepted => ?_
  have refused := accepts_negation.mp accepted
  exact accepts_negation.mpr fun passed => refused ((faithful.accepts_iff same).mp passed)

theorem faithful_conditional (faithful : behaviour.Faithful) {positive negative : Option Behaviour}
    (each : ∀ choice, positive = some choice ∨ negative = some choice → choice.Faithful) :
    (conditional behaviour positive negative).Faithful where
  respects same accepted := by
    rw [accepts_conditional] at accepted ⊢
    rw [faithful.accepts_iff same]
    refine ⟨fun passed choice isChoice => ?_, fun refused choice isChoice => ?_⟩
    · exact (each choice (.inl isChoice)).respects same (accepted.1 passed choice isChoice)
    · exact (each choice (.inr isChoice)).respects same (accepted.2 refused choice isChoice)
  keeps {isPartial subject} plain accepted := by
    rw [accepts_conditional] at accepted
    simp only [makes_conditional]
    by_cases passed : behaviour.accepts isPartial subject = true
    · rw [if_pos passed]
      cases chosen : positive with
      | none => exact faithful_pass.keeps plain rfl
      | some choice => exact (each choice (.inl chosen)).keeps plain (accepted.1 passed choice chosen)
    · rw [if_neg passed]
      cases chosen : negative with
      | none => exact faithful_pass.keeps plain rfl
      | some choice => exact (each choice (.inr chosen)).keeps plain (accepted.2 passed choice chosen)

end Behaviour

theorem Step.faithful_sequence (schema : String) {steps : List Step}
    (each : ∀ step ∈ steps, step.behaviour.Faithful) : (sequence schema steps).Faithful where
  respects same accepted := by
    rw [accepts_sequence] at accepted ⊢
    exact fun step member => (each step member).respects same (accepted step member)
  keeps {isPartial subject} plain accepted := by
    rw [accepts_sequence] at accepted
    simp only [makes_sequence]
    have step : ∀ step ∈ steps, ∀ before : Value, before.IsCopy subject →
        ∃ after, step.behaviour.Makes isPartial before after ∧ after.IsCopy subject :=
      fun step member before same => (each step member).makes same (accepted step member)
    exact exists_threads step plain.isCopy

end Conformance
