import Conformance.Proofs.Conversion.Makes
import Conformance.Proofs.Report.Leaves
/-!
Behaviours up to the names of constraints. One behaviour mirrors another if both let the same
instances pass and make the same values of them, and if the failures of the one have the leaves of
the failures of the other, with the constraints on their paths renamed. Every way to put behaviours
together keeps this, so that it holds of two schemas when it holds of their constraints, one by one
(`Step.mirrors_sequence`).
-/

namespace Conformance

/-- A step in which a constraint is renamed. -/
def Segment.renamed (rename : String → String) : Segment → Segment
  | .constraint name => .constraint (rename name)
  | segment => segment

variable {rename : String → String}

namespace Failure

/-- A leaf on whose path the constraints are renamed. -/
def renamedLeaf (rename : String → String) (leaf : List Segment × Cause) : List Segment × Cause :=
  (leaf.1.map (Segment.renamed rename), leaf.2)

/-- Where no constraint is renamed, leaves stay as they are. -/
theorem renamedLeaf_id : renamedLeaf id = id := by
  have segments : Segment.renamed id = id := funext fun segment => by cases segment <;> rfl
  refine funext fun leaf => ?_
  unfold renamedLeaf
  rw [segments, List.map_id]
  rfl

/-- Whether one failure has the leaves of another, but for the names of constraints. -/
def Mirrors (rename : String → String) (failure failure' : Failure) : Prop :=
  failure'.leaves = failure.leaves.map (renamedLeaf rename)

variable {failure failure' : Failure} {parts parts' : List Failure}

theorem mirrors_ofCause (cause : Cause) : Mirrors rename (ofCause cause) (ofCause cause) := rfl

theorem mirrors_id (failure : Failure) : Mirrors id failure failure := by
  unfold Mirrors
  rw [renamedLeaf_id, List.map_id]

theorem Mirrors.under (mirrors : Mirrors rename failure failure') (segment : Segment) :
    Mirrors rename (failure.under segment) (failure'.under (segment.renamed rename)) := by
  unfold Mirrors at mirrors ⊢
  rw [leaves_under, leaves_under, mirrors, List.map_map, List.map_map]
  rfl

theorem Mirrors.attributed (mirrors : Mirrors rename failure failure')
    (constraint schema schema' : String) :
    Mirrors rename (failure.attributed constraint schema)
      (failure'.attributed (rename constraint) schema') := by
  unfold Mirrors at mirrors ⊢
  rw [leaves_attributed, leaves_attributed, mirrors, List.map_map, List.map_map]
  rfl

theorem flatMap_leaves (mirrors : List.Forall₂ (Mirrors rename) parts parts') :
    parts'.flatMap leaves = (parts.flatMap leaves).map (renamedLeaf rename) := by
  induction mirrors with
  | nil => rfl
  | cons first rest ih => rw [List.flatMap_cons, List.flatMap_cons, List.map_append, ih, first]

/-- The leaves of a failure with parts are those of its parts, whatever its cause. -/
theorem mirrors_of_parts (mirrors : List.Forall₂ (Mirrors rename) parts parts')
    (some : parts ≠ []) (cause cause' : Cause) (schema schema' : Option String) :
    Mirrors rename (mk none cause [] parts schema) (mk none cause' [] parts' schema') := by
  have some' : parts' ≠ [] := by
    rintro rfl
    cases mirrors
    exact some rfl
  unfold Mirrors
  rw [leaves_of_parts _ _ _ some, leaves_of_parts _ _ _ some', flatMap_leaves mirrors]

theorem mirrors_composite (mirrors : List.Forall₂ (Mirrors rename) parts parts') (cause : Cause) :
    Mirrors rename (composite cause parts) (composite cause parts') := by
  cases mirrors with
  | nil => exact mirrors_ofCause cause
  | cons first rest => exact mirrors_of_parts (.cons first rest) (List.cons_ne_nil _ _) _ _ _ _

end Failure

namespace Behaviour

/-- Whether one behaviour treats every instance like another, but for the names of constraints. -/
structure Mirrors (rename : String → String) (behaviour behaviour' : Behaviour) : Prop where
  check (isPartial : Bool) (subject : Value) :
    Option.Rel (Failure.Mirrors rename) (behaviour.check isPartial subject)
      (behaviour'.check isPartial subject)
  makes (isPartial : Bool) (subject value : Value) :
    behaviour.Makes isPartial subject value ↔ behaviour'.Makes isPartial subject value

variable {behaviour behaviour' : Behaviour} {behaviours behaviours' : List Behaviour}
  {isPartial : Bool} {subject : Value} {delegations delegations' : List Delegation}

theorem rel_ofCause (cause : Option Cause) :
    Option.Rel (Failure.Mirrors rename) (cause.map .ofCause) (cause.map .ofCause) := by
  cases cause with
  | none => exact .none
  | some cause => exact .some (Failure.mirrors_ofCause cause)

theorem Mirrors.accepts (mirrors : Mirrors rename behaviour behaviour') (isPartial : Bool)
    (subject : Value) :
    behaviour.accepts isPartial subject = behaviour'.accepts isPartial subject :=
  isNone_of_rel (mirrors.check isPartial subject)

theorem mirrors_id (behaviour : Behaviour) : Mirrors id behaviour behaviour where
  check isPartial subject := by
    cases behaviour.check isPartial subject with
    | none => exact .none
    | some failure => exact .some failure.mirrors_id
  makes _ _ _ := Iff.rfl

theorem mirrors_pass : Mirrors rename pass pass where
  check _ _ := .none
  makes _ _ _ := Iff.rfl

theorem mirrors_refuse : Mirrors rename refuse refuse where
  check _ _ := .some (Failure.mirrors_ofCause _)
  makes _ _ _ := Iff.rfl

theorem mirrors_ofRule (check : Check) : Mirrors rename (ofRule check) (ofRule check) where
  check isPartial subject := rel_ofCause (check.violation? isPartial subject)
  makes _ _ _ := Iff.rfl

theorem mirrors_ofCheck {check check' : Bool → Value → Option Failure}
    (rel : ∀ isPartial subject,
      Option.Rel (Failure.Mirrors rename) (check isPartial subject) (check' isPartial subject)) :
    Mirrors rename (ofCheck check) (ofCheck check') where
  check := rel
  makes isPartial subject value := by
    rw [makes_ofCheck, makes_ofCheck]
    have same : (ofCheck check).accepts isPartial subject =
        (ofCheck check').accepts isPartial subject := isNone_of_rel (rel isPartial subject)
    rw [same]

theorem Mirrors.under (mirrors : Mirrors rename behaviour behaviour') (segment : Segment) :
    Mirrors rename (behaviour.under segment) (behaviour'.under (segment.renamed rename)) where
  check isPartial subject :=
    rel_map (mirrors.check isPartial subject) fun _ _ failures => failures.under segment
  makes isPartial subject value := by
    rw [makes_under, makes_under]
    exact mirrors.makes isPartial subject value

theorem Mirrors.guarded (mirrors : Mirrors rename behaviour behaviour') (applicable : KindSet)
    (strict : Bool) :
    Mirrors rename (behaviour.guarded applicable strict)
      (behaviour'.guarded applicable strict) where
  check isPartial subject := by
    dsimp only [Behaviour.guarded]
    split
    · exact mirrors.check isPartial subject
    · split
      · exact .some (Failure.mirrors_ofCause _)
      · exact .none
  makes isPartial subject value := by
    rw [makes_guarded, makes_guarded, mirrors.makes isPartial subject value]

/-- Whether the same part is handed on, by the same step but for the names of constraints. -/
structure Delegation.Mirrors (rename : String → String) (delegation delegation' : Delegation) : Prop
    where
  segment : delegation'.segment = delegation.segment.renamed rename
  behaviour : delegation.behaviour.Mirrors rename delegation'.behaviour
  subject : delegation'.subject = delegation.subject

theorem Delegation.Mirrors.failure? {delegation delegation' : Delegation}
    (mirrors : Delegation.Mirrors rename delegation delegation') :
    Option.Rel (Failure.Mirrors rename) (delegation.failure? isPartial)
      (delegation'.failure? isPartial) := by
  unfold Delegation.failure?
  rw [mirrors.segment, mirrors.subject]
  refine rel_map (mirrors.behaviour.check isPartial delegation.subject) fun _ _ failures => ?_
  exact failures.under delegation.segment

theorem failures_mirrors
    (mirrors : List.Forall₂ (Delegation.Mirrors rename) delegations delegations') :
    List.Forall₂ (Failure.Mirrors rename) (failures isPartial delegations)
      (failures isPartial delegations') :=
  List.rel_filterMap (fun _ _ mirrors => mirrors.failure?) mirrors

theorem compositeOf?_mirrors {parts parts' : List Failure}
    (mirrors : List.Forall₂ (Failure.Mirrors rename) parts parts') (cause : Cause) :
    Option.Rel (Failure.Mirrors rename) (compositeOf? cause parts) (compositeOf? cause parts') := by
  cases mirrors with
  | nil => exact .none
  | cons first rest => exact .some (Failure.mirrors_composite (.cons first rest) cause)

/-- What handing on parts to behaviours that mirror each other reports. -/
theorem report_mirrors (mirrors : List.Forall₂ (Delegation.Mirrors rename) delegations delegations')
    (cause : Cause) :
    Option.Rel (Failure.Mirrors rename) (compositeOf? cause (failures isPartial delegations))
      (compositeOf? cause (failures isPartial delegations')) :=
  compositeOf?_mirrors (failures_mirrors mirrors) cause

theorem branches_mirrors (mirrors : List.Forall₂ (Mirrors rename) behaviours behaviours') :
    List.Forall₂ (Delegation.Mirrors rename) (branches behaviours subject)
      (branches behaviours' subject) :=
  forall₂_mapIdx mirrors fun _ _ _ mirrors => ⟨rfl, mirrors, rfl⟩

section

variable {positional positional' : List Behaviour} {rest rest' : Behaviour}

theorem itemDelegations_mirrors (mirrors : List.Forall₂ (Mirrors rename) positional positional')
    (mirrorsRest : Mirrors rename rest rest') (items : List Value) :
    List.Forall₂ (Delegation.Mirrors rename) (itemDelegations positional rest items)
      (itemDelegations positional' rest' items) := by
  have same : List.Forall₂ Eq items items := List.forall₂_same.mpr fun _ _ => rfl
  refine forall₂_mapIdx same fun position item item' equal => ⟨rfl, ?_, equal.symm⟩
  exact rel_getD (rel_getElem?_of_parallel mirrors position) mirrorsRest

theorem mirrors_items (mirrors : List.Forall₂ (Mirrors rename) positional positional')
    (mirrorsRest : Mirrors rename rest rest') :
    Mirrors rename (items positional rest) (items positional' rest') where
  check isPartial subject := by
    dsimp only [items]
    split
    · rw [mirrors.length_eq]
      split
      · exact .some (Failure.mirrors_ofCause _)
      · exact report_mirrors (itemDelegations_mirrors mirrors mirrorsRest _) _
    · exact .some (Failure.mirrors_ofCause _)
  makes isPartial subject value := by
    rw [makes_items, makes_items, mirrors.length_eq]
    refine exists_congr fun items => exists_congr fun results => and_congr_right fun _ =>
      and_congr_right fun _ => and_congr_right fun _ => and_congr_right fun _ => ?_
    refine forall_congr' fun position => forall_congr' fun item => forall_congr' fun result => ?_
    refine imp_congr_right fun _ => imp_congr_right fun _ => ?_
    have handed := rel_getD (rel_getElem?_of_parallel mirrors position) mirrorsRest
    exact handed.makes isPartial item result

end

theorem mirrors_contains (mirrors : Mirrors rename behaviour behaviour') :
    Mirrors rename (contains behaviour) (contains behaviour') := by
  refine mirrors_ofCheck fun isPartial subject => ?_
  split
  · rename_i items
    have same : behaviour.accepts isPartial = behaviour'.accepts isPartial :=
      funext fun item => mirrors.accepts isPartial item
    rw [same]
    split
    · exact .none
    · exact .some (Failure.mirrors_ofCause _)
  · exact .some (Failure.mirrors_ofCause _)

theorem mirrors_negation (mirrors : Mirrors rename behaviour behaviour') :
    Mirrors rename (negation behaviour) (negation behaviour') := by
  refine mirrors_ofCheck fun isPartial subject => ?_
  rw [mirrors.accepts]
  split
  · exact .some (Failure.mirrors_ofCause _)
  · exact .none

section Entries

variable {selected selected' : List (String × Behaviour)}

theorem entryDelegations_mirrors
    (mirrors : List.Forall₂ (AtKey (Mirrors rename)) selected selected')
    (entries : List (String × Value)) :
    List.Forall₂ (Delegation.Mirrors rename) (entryDelegations selected entries)
      (entryDelegations selected' entries) := by
  refine List.rel_filterMap (fun choice choice' both => ?_) mirrors
  obtain ⟨key, behaviour⟩ := choice
  obtain ⟨rfl, mirrors⟩ := both
  dsimp only
  cases Table.lookup entries choice'.1 with
  | none => exact .none
  | some value => exact .some ⟨rfl, mirrors, rfl⟩

theorem makesEntry_iff {choice choice' : String × Behaviour}
    (mirrors : AtKey (Mirrors rename) choice choice') (before after : Table Value) :
    MakesEntry isPartial choice before after ↔ MakesEntry isPartial choice' before after := by
  obtain ⟨key, behaviour⟩ := choice
  obtain ⟨rfl, mirrors⟩ := mirrors
  unfold MakesEntry
  dsimp only
  cases Table.lookup before choice'.1 with
  | none => exact Iff.rfl
  | some value =>
      exact exists_congr fun made => and_congr_left fun _ => mirrors.makes isPartial value made

theorem mirrors_onEntries {select select' : List String → List (String × Behaviour)}
    (mirrors : ∀ names, List.Forall₂ (AtKey (Mirrors rename)) (select names) (select' names)) :
    Mirrors rename (onEntries select) (onEntries select') where
  check isPartial subject := by
    dsimp only [onEntries]
    split
    · exact report_mirrors (entryDelegations_mirrors (mirrors _) _) _
    · exact .some (Failure.mirrors_ofCause _)
  makes isPartial subject value := by
    rw [makes_onEntries, makes_onEntries]
    refine exists_congr fun members => exists_congr fun results => and_congr_right fun _ =>
      and_congr_right fun _ => ?_
    exact threads_iff_of_parallel ((mirrors _).imp fun _ _ both => makesEntry_iff both)

theorem mirrors_entries (mirrors : List.Forall₂ (AtKey (Mirrors rename)) selected selected') :
    Mirrors rename (entries selected) (entries selected') := by
  refine mirrors_onEntries fun names => ?_
  refine List.rel_filter (fun choice choice' both => ?_) mirrors
  change decide (choice.1 ∈ names) = true ↔ decide (choice'.1 ∈ names) = true
  rw [both.1]

theorem mirrors_patternEntries {listed listed' : List (Pattern × Behaviour)}
    (mirrors : List.Forall₂ (AtKey (Mirrors rename)) listed listed') :
    Mirrors rename (patternEntries listed) (patternEntries listed') := by
  refine mirrors_onEntries fun names => ?_
  have same : List.Forall₂ Eq names names := List.forall₂_same.mpr fun _ _ => rfl
  refine List.rel_flatMap same fun name name' equal => ?_
  cases equal
  have matched {choice choice' : Pattern × Behaviour}
      (both : AtKey (Mirrors rename) choice choice') :
      choice.1.isMatch name = true ↔ choice'.1.isMatch name = true := by rw [both.1]
  have kept := List.rel_filter (fun _ _ both => matched both) mirrors
  exact List.rel_map (fun _ _ (both : AtKey (Mirrors rename) _ _) => ⟨rfl, both.2⟩) kept

theorem mirrors_additionalEntries (mirrors : Mirrors rename behaviour behaviour')
    (listed : List String) (patterns : List Pattern) :
    Mirrors rename (additionalEntries listed patterns behaviour)
      (additionalEntries listed patterns behaviour') := by
  refine mirrors_onEntries fun names => ?_
  exact List.forall₂_map_left_iff.mpr (List.forall₂_map_right_iff.mpr
    (List.forall₂_same.mpr fun name _ => ⟨rfl, mirrors⟩))

theorem mirrors_entryNames (mirrors : Mirrors rename behaviour behaviour') :
    Mirrors rename (entryNames behaviour) (entryNames behaviour') := by
  refine mirrors_ofCheck fun isPartial subject => ?_
  split
  · refine report_mirrors ?_ _
    exact List.forall₂_map_left_iff.mpr (List.forall₂_map_right_iff.mpr
      (List.forall₂_same.mpr fun name _ => ⟨rfl, mirrors, rfl⟩))
  · exact .some (Failure.mirrors_ofCause _)

end Entries

section Dependencies

/-- Whether the presence of an entry asks for the same. -/
inductive Demand.Mirrors (rename : String → String) : Demand → Demand → Prop
  | peers (names : List String) : Demand.Mirrors rename (.peers names) (.peers names)
  | whole {behaviour behaviour' : Behaviour} (mirrors : behaviour.Mirrors rename behaviour') :
      Demand.Mirrors rename (.whole behaviour) (.whole behaviour')

variable {demands demands' : List (String × Demand)}

theorem Demand.Mirrors.asked {demand demand' : Demand} (mirrors : demand.Mirrors rename demand')
    (key : String) (entries : List (String × Value)) :
    (demand.behaviour key entries).Mirrors rename (demand'.behaviour key entries) := by
  cases mirrors with
  | whole mirrors => exact mirrors
  | peers names =>
      refine mirrors_ofCheck fun isPartial _ => ?_
      dsimp only
      split
      · exact .none
      · exact .some (Failure.mirrors_ofCause _)

theorem demandDelegations_mirrors
    (mirrors : List.Forall₂ (AtKey (Demand.Mirrors rename)) demands demands')
    (entries : List (String × Value)) :
    List.Forall₂ (Delegation.Mirrors rename) (demandDelegations demands entries)
      (demandDelegations demands' entries) := by
  refine List.rel_map (fun demand demand' both => ?_)
    (List.rel_filter (fun demand demand' both => ?_) mirrors)
  · obtain ⟨same, mirrors⟩ := both
    rw [same]
    exact ⟨rfl, mirrors.asked _ _, rfl⟩
  · change Table.has entries demand.1 = true ↔ Table.has entries demand'.1 = true
    rw [both.1]

theorem makesDemand_iff {demand demand' : String × Demand}
    (mirrors : AtKey (Demand.Mirrors rename) demand demand') (before after : Value) :
    MakesDemand isPartial demand before after ↔ MakesDemand isPartial demand' before after := by
  obtain ⟨same, mirrors⟩ := mirrors
  unfold MakesDemand
  rw [same]
  refine exists_congr fun members => and_congr_right fun _ => ?_
  rw [(mirrors.asked demand'.1 members).makes]

theorem mirrors_dependencies
    (mirrors : List.Forall₂ (AtKey (Demand.Mirrors rename)) demands demands') :
    Mirrors rename (dependencies demands) (dependencies demands') where
  check isPartial subject := by
    have report := fun entries => @report_mirrors rename isPartial _ _
      (demandDelegations_mirrors mirrors entries) .dependenciesFail
    cases mirrors with
    | nil => exact .none
    | cons first rest =>
        cases subject with
        | object entries => exact report entries
        | _ => exact .some (Failure.mirrors_ofCause _)
  makes isPartial subject value := by
    rw [makes_dependencies, makes_dependencies]
    exact threads_iff_of_parallel (mirrors.imp fun _ _ both => makesDemand_iff both)

end Dependencies

section Branches

theorem mirrors_allOf (mirrors : List.Forall₂ (Mirrors rename) behaviours behaviours') :
    Mirrors rename (allOf behaviours) (allOf behaviours') where
  check isPartial subject := report_mirrors (branches_mirrors mirrors) _
  makes isPartial subject value := by
    rw [makes_allOf, makes_allOf]
    exact threads_iff_of_parallel (mirrors.imp fun _ _ both => both.makes isPartial)

theorem makesFirst_iff (mirrors : List.Forall₂ (Mirrors rename) behaviours behaviours')
    (value : Value) :
    MakesFirst isPartial subject value behaviours ↔
      MakesFirst isPartial subject value behaviours' := by
  induction mirrors with
  | nil => exact Iff.rfl
  | cons first rest ih =>
      have makes := first.makes isPartial subject
      exact or_congr (makes value) (and_congr (forall_congr' fun made => not_congr (makes made)) ih)

theorem mirrors_anyOf (mirrors : List.Forall₂ (Mirrors rename) behaviours behaviours') :
    Mirrors rename (anyOf behaviours) (anyOf behaviours') where
  check isPartial subject := by
    have branches := @branches_mirrors rename _ _ subject mirrors
    have parts := @failures_mirrors rename isPartial _ _ branches
    dsimp only [anyOf]
    rw [← mirrors.length_eq, ← parts.length_eq]
    split
    · exact .some (Failure.mirrors_composite parts _)
    · exact .none
  makes isPartial subject value := by
    rw [makes_anyOf, makes_anyOf]
    exact makesFirst_iff mirrors value

theorem results_mirror
    (mirrors : List.Forall₂ (Delegation.Mirrors rename) delegations delegations') :
    List.Forall₂ (fun result result' => Delegation.Mirrors rename result.1 result'.1 ∧
        Option.Rel (Failure.Mirrors rename) result.2 result'.2)
      (results isPartial delegations) (results isPartial delegations') :=
  List.rel_map (fun _ _ mirrors => ⟨mirrors, mirrors.failure?⟩) mirrors

theorem passing_mirror
    (mirrors : List.Forall₂ (Delegation.Mirrors rename) delegations delegations') :
    List.Forall₂ (fun passed passed' => Delegation.Mirrors rename passed.1 passed'.1 ∧
        passed.2 = passed'.2)
      (passing (results isPartial delegations)) (passing (results isPartial delegations')) := by
  have numbered := forall₂_zipIdx (@results_mirror rename isPartial _ _ mirrors)
  have kept := List.rel_filter (fun result result' both =>
    show result.1.2.isNone = true ↔ result'.1.2.isNone = true by rw [isNone_of_rel both.1.2]) numbered
  exact List.rel_map (fun _ _ both => ⟨both.1.1, both.2⟩) kept

theorem notOne_mirrors
    (mirrors : List.Forall₂ (Delegation.Mirrors rename) delegations delegations') :
    Failure.Mirrors rename (notOne (results isPartial delegations))
      (notOne (results isPartial delegations')) := by
  have parts := List.rel_filterMap (fun _ _ both => both.2)
    (@results_mirror rename isPartial _ _ mirrors)
  have passed := @passing_mirror rename isPartial _ _ mirrors
  have positions := List.rel_map (fun _ _ both => both.2) passed
  unfold notOne
  generalize passing (results isPartial delegations) = several at passed positions ⊢
  generalize passing (results isPartial delegations') = several' at passed positions ⊢
  cases passed with
  | nil => exact Failure.mirrors_composite parts _
  | cons first rest =>
      have same := List.forall₂_eq_eq_eq ▸ positions
      dsimp only
      rw [same]
      exact Failure.mirrors_ofCause _

theorem mirrors_oneOf (mirrors : List.Forall₂ (Mirrors rename) behaviours behaviours') :
    Mirrors rename (oneOf behaviours) (oneOf behaviours') := by
  have check : ∀ isPartial subject, Option.Rel (Failure.Mirrors rename)
      ((oneOf behaviours).check isPartial subject)
      ((oneOf behaviours').check isPartial subject) := by
    intro isPartial subject
    have branches := @branches_mirrors rename _ _ subject mirrors
    have refused := @notOne_mirrors rename isPartial _ _ branches
    have passed := @passing_mirror rename isPartial _ _ branches
    dsimp only [oneOf]
    generalize passing (results isPartial (Behaviour.branches behaviours subject)) = several
      at passed ⊢
    generalize passing (results isPartial (Behaviour.branches behaviours' subject)) = several'
      at passed ⊢
    cases passed with
    | nil => exact .some refused
    | cons first rest =>
        cases rest with
        | nil => exact .none
        | cons second rest => exact .some refused
  refine ⟨check, fun isPartial subject value => ?_⟩
  rw [makes_oneOf, makes_oneOf]
  have accepts : (oneOf behaviours).accepts isPartial subject =
      (oneOf behaviours').accepts isPartial subject := isNone_of_rel (check isPartial subject)
  rw [accepts]
  refine and_congr_right fun _ => (exists_mem_iff_of_parallel mirrors fun _ _ both => ?_).symm
  rw [both.accepts, both.makes]

end Branches

section Conditional

variable {positive positive' negative negative' : Option Behaviour}

theorem mirrors_branch (label : String) (mirrors : Option.Rel (Mirrors rename) positive positive') :
    Mirrors rename (branch label positive) (branch label positive') where
  check isPartial subject := by
    cases mirrors with
    | none => exact .none
    | some both =>
        refine rel_map (both.check isPartial subject) fun _ _ failures => ?_
        exact (Failure.mirrors_composite (.cons failures .nil) _).under (.label label)
  makes isPartial subject value := by
    rw [makes_branch, makes_branch]
    exact (rel_getD mirrors mirrors_pass).makes isPartial subject value

theorem mirrors_conditional (mirrors : Mirrors rename behaviour behaviour')
    (mirrors₁ : Option.Rel (Mirrors rename) positive positive')
    (mirrors₂ : Option.Rel (Mirrors rename) negative negative') :
    Mirrors rename (conditional behaviour positive negative)
      (conditional behaviour' positive' negative') where
  check isPartial subject := by
    dsimp only [conditional]
    rw [mirrors.accepts]
    split
    · exact (mirrors_branch "then" mirrors₁).check isPartial subject
    · exact (mirrors_branch "else" mirrors₂).check isPartial subject
  makes isPartial subject value := by
    rw [makes_conditional, makes_conditional, mirrors.accepts]
    split
    · exact (rel_getD mirrors₁ mirrors_pass).makes isPartial subject value
    · exact (rel_getD mirrors₂ mirrors_pass).makes isPartial subject value

end Conditional

end Behaviour

namespace Step

/-- Whether a step mirrors another, whose constraint has another name. -/
structure Mirrors (rename : String → String) (step step' : Step) : Prop where
  name : step'.name = rename step.name
  terminal : step'.terminal = step.terminal
  behaviour : step.behaviour.Mirrors rename step'.behaviour

variable {steps steps' : List Step} {isPartial : Bool} {subject : Value}

theorem outcomes_mirror (mirrors : List.Forall₂ (Mirrors rename) steps steps')
    (schema schema' : String) :
    List.Forall₂ (fun outcome outcome' : String × Option Failure =>
        Option.Rel (Failure.Mirrors rename) outcome.2 outcome'.2)
      (outcomes schema isPartial subject steps) (outcomes schema' isPartial subject steps') := by
  induction mirrors with
  | nil => exact .nil
  | @cons step step' steps steps' first rest ih =>
      have rel := first.behaviour.check isPartial subject
      unfold outcomes
      rw [first.name, first.terminal]
      generalize step.behaviour.check isPartial subject = failure at rel ⊢
      generalize step'.behaviour.check isPartial subject = failure' at rel ⊢
      cases rel with
      | none => exact .cons .none ih
      | some failures =>
          refine .cons (.some (failures.attributed _ _ _)) ?_
          split
          · exact .nil
          · exact ih

/-- The failures of two sequences of steps that mirror each other. -/
theorem failing_mirror (mirrors : List.Forall₂ (Mirrors rename) steps steps')
    (schema schema' : String) :
    List.Forall₂ (Failure.Mirrors rename)
      ((outcomes schema isPartial subject steps).filterMap Prod.snd)
      ((outcomes schema' isPartial subject steps').filterMap Prod.snd) :=
  List.rel_filterMap (fun _ _ both => both) (outcomes_mirror mirrors schema schema')

/-- Schemas mirror each other when their steps do, one by one. -/
theorem mirrors_sequence (mirrors : List.Forall₂ (Mirrors rename) steps steps')
    (schema schema' : String) :
    (sequence schema steps).Mirrors rename (sequence schema' steps') where
  check isPartial subject := by
    have failing := @failing_mirror rename _ _ isPartial subject mirrors schema schema'
    dsimp only [sequence, fold]
    generalize (outcomes schema isPartial subject steps).filterMap Prod.snd = parts at failing ⊢
    generalize (outcomes schema' isPartial subject steps').filterMap Prod.snd = parts' at failing ⊢
    cases failing with
    | nil => exact .none
    | cons first rest =>
        exact .some (Failure.mirrors_of_parts (.cons first rest) (List.cons_ne_nil _ _) _ _ _ _)
  makes isPartial subject value := by
    rw [makes_sequence, makes_sequence]
    exact threads_iff_of_parallel (mirrors.imp fun _ _ both => both.behaviour.makes isPartial)

end Step

namespace Bound

theorem step_mirrors {rule rule' : Rule}
    (rules : rule.behaviour.Mirrors rename rule'.behaviour) (name : String) (terminal : Bool)
    (restriction : Option Guard) :
    (Bound.mk name terminal restriction rule).step.Mirrors rename
      (Bound.mk (rename name) terminal restriction rule').step := by
  cases restriction with
  | none => exact ⟨rfl, rfl, rules⟩
  | some guard => exact ⟨rfl, rfl, rules.guarded guard.applicable guard.strict⟩

end Bound

namespace Schema

variable {schema schema' : Schema}

/-- Schemas mirror each other when their constraints do, one by one, whatever their names are. -/
theorem behaviour_mirrors
    (constraints : List.Forall₂ (fun bound bound' => bound.step.Mirrors rename bound'.step)
      schema.constraints schema'.constraints) :
    schema.behaviour.Mirrors rename schema'.behaviour := by
  obtain ⟨header, bound⟩ := schema
  obtain ⟨header', bound'⟩ := schema'
  unfold Schema.behaviour
  rw [stepsOf_eq_map, stepsOf_eq_map]
  exact Step.mirrors_sequence
    (List.forall₂_map_left_iff.mpr (List.forall₂_map_right_iff.mpr constraints)) _ _

variable (mirrors : schema.behaviour.Mirrors rename schema'.behaviour) (subject : Value)
  (isPartial : Bool)

include mirrors

theorem leaves_of_mirrors : (schema'.validate subject isPartial).leaves =
    (schema.validate subject isPartial).leaves.map (Failure.renamedLeaf rename) := by
  rw [Schema.leaves_validate, Schema.leaves_validate]
  unfold Behaviour.leaves
  have rel := mirrors.check isPartial subject
  generalize schema.behaviour.check isPartial subject = failure at rel ⊢
  generalize schema'.behaviour.check isPartial subject = failure' at rel ⊢
  cases rel with
  | none => rfl
  | some failures => exact failures

theorem success_of_mirrors : (schema.validate subject isPartial).success =
    (schema'.validate subject isPartial).success := by
  rw [Bool.eq_iff_iff, success_iff, success_iff, mirrors.accepts]

theorem toOption_convert_of_mirrors : (schema.convert subject isPartial).toOption =
    (schema'.convert subject isPartial).toOption := by
  refine Option.ext fun value => ?_
  rw [toOption_eq_some, toOption_eq_some]
  exact mirrors.makes isPartial subject value

end Schema

end Conformance
