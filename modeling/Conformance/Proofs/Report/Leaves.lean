import Conformance.Proofs.Satisfaction.Acceptance
import Mathlib.Data.List.Basic
/-!
The leaves of failures. Validation builds a tree of failures from the failures of the parts that a
behaviour hands on. Spread into leaves, the tree of a behaviour consists of the leaves of its parts, each
below the step to the part, or is one leaf of its own; one equation for each way to put a behaviour
together says which.
-/

namespace Conformance

/-- A path to a failure without parts, and its cause. -/
abbrev Leaf := List Segment × Cause

namespace Failure

/-- A leaf further down. -/
def leafUnder (above : List Segment) (leaf : List Segment × Cause) : List Segment × Cause :=
  (above ++ leaf.1, leaf.2)

mutual

theorem leavesUnder_append (above path : List Segment) : ∀ failure : Failure,
    leavesUnder (above ++ path) failure = (leavesUnder path failure).map (leafUnder above)
  | .mk _ _ own [] _ => by simp [leavesUnder, leafUnder]
  | .mk _ _ own (part :: parts) _ => by
      rw [leavesUnder, leavesUnder, List.append_assoc, leavesUnder_append above _ part,
        leavesOfParts_append above _ parts, List.map_append]

theorem leavesOfParts_append (above path : List Segment) : ∀ parts : List Failure,
    leavesOfParts (above ++ path) parts = (leavesOfParts path parts).map (leafUnder above)
  | [] => rfl
  | part :: parts => by
      rw [leavesOfParts, leavesOfParts, leavesUnder_append above path part,
        leavesOfParts_append above path parts, List.map_append]

end

theorem leaves_under (segment : Segment) (failure : Failure) :
    (failure.under segment).leaves = failure.leaves.map (leafUnder [segment]) := by
  rw [leaves, leaves, ← leavesUnder_append]
  obtain ⟨constraint, cause, path, _ | ⟨part, parts⟩, schema⟩ := failure
  · rfl
  · rfl

theorem leaves_attributed (constraint schema : String) (failure : Failure) :
    (failure.attributed constraint schema).leaves =
      failure.leaves.map (leafUnder [.constraint constraint]) := by
  rw [← leaves_under]
  obtain ⟨_, cause, path, _ | ⟨part, parts⟩, _⟩ := failure
  · rfl
  · rfl

theorem leaves_of_parts (constraint schema : Option String) (cause : Cause) {parts : List Failure}
    (some : parts ≠ []) :
    (mk constraint cause [] parts schema).leaves = parts.flatMap leaves := by
  have spread : ∀ parts, leavesOfParts [] parts = parts.flatMap leaves := by
    intro parts
    induction parts with
    | nil => rfl
    | cons part parts ih => rw [leavesOfParts, ih, List.flatMap_cons, leaves]
  cases parts with
  | nil => exact absurd rfl some
  | cons part parts => exact spread (part :: parts)

/-- Every failure has a leaf. -/
theorem leaves_ne_nil : ∀ failure : Failure, failure.leaves ≠ []
  | .mk _ _ _ [] _ => List.cons_ne_nil _ _
  | .mk constraint cause path (part :: parts) schema => by
      have first := leaves_ne_nil part
      intro none
      have split : leavesUnder ([] ++ path) part ++ leavesOfParts ([] ++ path) parts = [] := none
      rw [List.nil_append, ← List.append_nil path, leavesUnder_append] at split
      exact first (List.map_eq_nil_iff.mp (List.append_eq_nil_iff.mp split).1)

end Failure

namespace Behaviour

variable {isPartial : Bool} {subject : Value} {behaviour : Behaviour}

/-- The leaves of the failure that validation finds, if it finds one. -/
def leaves (isPartial : Bool) (subject : Value) (behaviour : Behaviour) : List Leaf :=
  ((behaviour.check isPartial subject).map Failure.leaves).getD []

/-- The leaf of a constraint that fails for a cause of its own. -/
def ownLeaves (cause? : Option Cause) : List Leaf := cause?.toList.map fun cause => ([], cause)

/-- The leaves of a failure that is made of parts, or is a leaf itself if there are none. -/
def leavesOr (cause : Cause) (leaves : List Leaf) : List Leaf :=
  if leaves.isEmpty then ownLeaves (some cause) else leaves

/-- The leaves of a rule on arrays. -/
def onArray (subject : Value) (leaves : List Value → List Leaf) : List Leaf :=
  match subject with
  | .array items => leaves items
  | other => ownLeaves (some (.unexpectedKind .array other.kind))

/-- The leaves of a rule on objects. -/
def onObject (subject : Value) (leaves : List (String × Value) → List Leaf) : List Leaf :=
  match subject with
  | .object entries => leaves entries
  | other => ownLeaves (some (.unexpectedKind .object other.kind))

/-- The leaves of a choice among alternatives of which those at some positions pass, given the leaves for
the case that none does. -/
def unlessOne (leaves : List Leaf) : List Nat → List Leaf
  | [] => leaves
  | [_] => []
  | several => ownLeaves (some (.severalMatch several))

/-- The leaves below the step to a part. -/
def Delegation.leaves (isPartial : Bool) (delegation : Delegation) : List Leaf :=
  (delegation.behaviour.leaves isPartial delegation.subject).map
    (Failure.leafUnder [delegation.segment])

theorem leaves_eq_nil : behaviour.leaves isPartial subject = [] ↔
    behaviour.accepts isPartial subject = true := by
  rw [accepts_iff]
  unfold leaves
  cases behaviour.check isPartial subject with
  | none => simp
  | some failure => simp [failure.leaves_ne_nil]

theorem isEmpty_leaves :
    (behaviour.leaves isPartial subject).isEmpty = behaviour.accepts isPartial subject := by
  rw [Bool.eq_iff_iff, List.isEmpty_iff, leaves_eq_nil]

theorem leaves_ofRule (rule : Check) :
    (ofRule rule).leaves isPartial subject = ownLeaves (rule.violation? isPartial subject) := by
  unfold leaves ofRule
  dsimp only
  cases rule.violation? isPartial subject <;> rfl

theorem leaves_under (segment : Segment) : (behaviour.under segment).leaves isPartial subject =
    (behaviour.leaves isPartial subject).map (Failure.leafUnder [segment]) := by
  unfold leaves under
  dsimp only
  cases behaviour.check isPartial subject with
  | none => rfl
  | some failure => exact failure.leaves_under segment

theorem leaves_guarded (applicable : KindSet) (strict : Bool) :
    (behaviour.guarded applicable strict).leaves isPartial subject =
      if applicable.contains subject.kind then behaviour.leaves isPartial subject
      else ownLeaves (if strict then some (.notApplicable subject.kind applicable) else none) := by
  unfold leaves guarded
  dsimp only
  split
  · rfl
  · cases strict <;> rfl

theorem leaves_failure? (delegation : Delegation) :
    ((delegation.failure? isPartial).map Failure.leaves).getD [] = delegation.leaves isPartial := by
  unfold Delegation.failure? Delegation.leaves leaves
  cases delegation.behaviour.check isPartial delegation.subject with
  | none => rfl
  | some failure => exact failure.leaves_under delegation.segment

/-- The leaves of all failing delegations are those of all delegations: one that passes has none. -/
theorem leaves_failures (delegations : List Delegation) :
    (failures isPartial delegations).flatMap Failure.leaves =
      delegations.flatMap (Delegation.leaves isPartial) := by
  unfold failures
  induction delegations with
  | nil => rfl
  | cons delegation delegations ih =>
      rw [List.flatMap_cons, ← leaves_failure?, ← ih]
      cases found : delegation.failure? isPartial with
      | none => simp [found]
      | some failure => simp [found]

theorem leaves_composite (cause : Cause) (parts : List Failure) :
    (Failure.composite cause parts).leaves = leavesOr cause (parts.flatMap Failure.leaves) := by
  unfold leavesOr
  cases parts with
  | nil => rfl
  | cons part parts =>
      have some : (part :: parts).flatMap Failure.leaves ≠ [] := by
        rw [List.flatMap_cons]
        exact List.append_ne_nil_of_left_ne_nil part.leaves_ne_nil _
      rw [if_neg (by simpa using some)]
      exact Failure.leaves_of_parts none none cause (List.cons_ne_nil part parts)

theorem leaves_compositeOf? (cause : Cause) (delegations : List Delegation) :
    ((compositeOf? cause (failures isPartial delegations)).map Failure.leaves).getD [] =
      delegations.flatMap (Delegation.leaves isPartial) := by
  rw [← leaves_failures]
  cases failures isPartial delegations with
  | nil => rfl
  | cons part parts => exact Failure.leaves_of_parts none none cause (List.cons_ne_nil part parts)

theorem leaves_items (positional : List Behaviour) (rest : Behaviour) :
    (items positional rest).leaves isPartial subject = onArray subject fun items =>
      if items.length < positional.length then
        ownLeaves (some (.missingItems positional.length items.length))
      else (itemDelegations positional rest items).flatMap (Delegation.leaves isPartial) := by
  cases subject with
  | array items =>
      unfold leaves Behaviour.items onArray
      dsimp only
      split
      · rfl
      · exact leaves_compositeOf? _ _
  | _ => rfl

theorem leaves_contains :
    (contains behaviour).leaves isPartial subject = onArray subject fun items =>
      ownLeaves (if items.any (behaviour.accepts isPartial) then none else some .noItemMatches) := by
  cases subject with
  | array items =>
      unfold leaves contains ofCheck onArray
      dsimp only
      split <;> rfl
  | _ => rfl

theorem leaves_onEntries (select : List String → List (String × Behaviour)) :
    (onEntries select).leaves isPartial subject = onObject subject fun entries =>
      (entryDelegations (select (Table.names entries)) entries).flatMap
        (Delegation.leaves isPartial) := by
  cases subject with
  | object entries => exact leaves_compositeOf? _ _
  | _ => rfl

theorem leaves_entryNames :
    (entryNames behaviour).leaves isPartial subject = onObject subject fun entries =>
      ((Table.names entries).map fun name => ⟨.key name, behaviour, .string name⟩).flatMap
        (Delegation.leaves isPartial) := by
  cases subject with
  | object entries => exact leaves_compositeOf? _ _
  | _ => rfl

theorem leaves_peers (key : String) (entries : List (String × Value)) (names : List String) :
    ((Demand.peers names).behaviour key entries).leaves isPartial subject =
      ownLeaves (if isPartial || (Check.missing entries names).isEmpty then none
        else some (.missingPeers key (Check.missing entries names))) := by
  unfold leaves Demand.behaviour ofCheck
  dsimp only
  split <;> rfl

theorem leaves_dependencies (demands : List (String × Demand)) :
    (dependencies demands).leaves isPartial subject =
      if demands.isEmpty then []
      else onObject subject fun entries =>
        (demandDelegations demands entries).flatMap (Delegation.leaves isPartial) := by
  cases demands with
  | nil => rfl
  | cons demand demands =>
      cases subject with
      | object entries => exact leaves_compositeOf? _ _
      | _ => rfl

theorem leaves_allOf (behaviours : List Behaviour) :
    (allOf behaviours).leaves isPartial subject =
      (branches behaviours subject).flatMap (Delegation.leaves isPartial) :=
  leaves_compositeOf? _ _

theorem leaves_anyOf (behaviours : List Behaviour) :
    (anyOf behaviours).leaves isPartial subject =
      if behaviours.any (·.accepts isPartial subject) then []
      else leavesOr .noneMatch
        ((branches behaviours subject).flatMap (Delegation.leaves isPartial)) := by
  by_cases passes : (anyOf behaviours).accepts isPartial subject = true
  · have some := List.any_eq_true.mpr ((accepts_anyOf behaviours).mp passes)
    rw [leaves_eq_nil.mpr passes, if_pos some]
  · have none : ¬ behaviours.any (·.accepts isPartial subject) = true := by
      intro some
      exact passes ((accepts_anyOf behaviours).mpr (List.any_eq_true.mp some))
    rw [if_neg none, ← leaves_failures, ← leaves_composite]
    rw [accepts_iff] at passes
    unfold anyOf at passes
    unfold leaves anyOf
    dsimp only at passes ⊢
    split at passes
    · rename_i all
      rw [if_pos all]
      rfl
    · exact absurd rfl passes

/-- The positions at which items pass a test do not depend on what the items are written as. -/
theorem positions_mapIdx {α β : Type} {make : Nat → α → β} (test : β → Bool) {test' : α → Bool}
    (same : ∀ position item, test (make position item) = test' item) (items : List α) (start : Nat) :
    (((items.mapIdx make).zipIdx start).filter fun item => test item.1).map Prod.snd =
      ((items.zipIdx start).filter fun item => test' item.1).map Prod.snd := by
  induction items generalizing make start with
  | nil => rfl
  | cons item items ih =>
      have rest := ih (fun position => same (position + 1)) (start + 1)
      rw [List.mapIdx_cons, List.zipIdx_cons, List.zipIdx_cons, List.filter_cons, List.filter_cons,
        same]
      split
      · rw [List.map_cons, List.map_cons, rest]
      · exact rest

/-- The positions of the behaviours that accept an instance. -/
def positions (isPartial : Bool) (subject : Value) (behaviours : List Behaviour) : List Nat :=
  (behaviours.zipIdx.filter fun choice => choice.1.accepts isPartial subject).map Prod.snd

theorem positions_passing (behaviours : List Behaviour) :
    (passing (results isPartial (branches behaviours subject))).map Prod.snd =
      positions isPartial subject behaviours := by
  unfold passing results branches positions
  rw [List.zipIdx_map, List.filter_map, List.map_map, List.map_map]
  have same : ∀ (position : Nat) (behaviour : Behaviour),
      (Delegation.failure? isPartial ⟨.index position, behaviour, subject⟩).isNone =
        behaviour.accepts isPartial subject := by
    intro position behaviour
    rw [Bool.eq_iff_iff]
    exact Option.isNone_iff_eq_none.trans (failure?_eq_none _)
  exact positions_mapIdx (fun delegation : Delegation => (delegation.failure? isPartial).isNone) same
    behaviours 0

theorem leaves_oneOf (behaviours : List Behaviour) :
    (oneOf behaviours).leaves isPartial subject =
      unlessOne (leavesOr .noneMatch
          ((branches behaviours subject).flatMap (Delegation.leaves isPartial)))
        (positions isPartial subject behaviours) := by
  rw [← positions_passing, ← leaves_failures, ← leaves_composite]
  unfold leaves oneOf notOne
  dsimp only
  match passing (results isPartial (branches behaviours subject)) with
  | [] =>
      unfold results failures
      rw [List.filterMap_map]
      rfl
  | [_] => rfl
  | _ :: _ :: _ => rfl

theorem leaves_negation : (negation behaviour).leaves isPartial subject =
    ownLeaves (if behaviour.accepts isPartial subject then some .forbiddenMatch else none) := by
  unfold leaves negation ofCheck
  dsimp only
  split <;> rfl

/-- The leaves of a branch of a conditional, which are reported below its label. -/
theorem leaves_branch (label : String) (choice : Option Behaviour) :
    (branch label choice).leaves isPartial subject = choice.toList.flatMap fun behaviour =>
      (behaviour.leaves isPartial subject).map (Failure.leafUnder [.label label]) := by
  cases choice with
  | none => rfl
  | some behaviour =>
      rw [Option.toList_some, List.flatMap_singleton]
      unfold leaves branch
      dsimp only
      cases behaviour.check isPartial subject with
      | none => rfl
      | some failure =>
          change ((Failure.composite _ [failure]).under _).leaves = _
          rw [Failure.leaves_under, leaves_composite, List.flatMap_singleton]
          unfold leavesOr
          rw [if_neg (by simpa using failure.leaves_ne_nil)]
          rfl

theorem leaves_conditional (positive negative : Option Behaviour) :
    (conditional behaviour positive negative).leaves isPartial subject =
      if behaviour.accepts isPartial subject then (branch "then" positive).leaves isPartial subject
      else (branch "else" negative).leaves isPartial subject := by
  unfold leaves conditional
  dsimp only
  split <;> rfl

end Behaviour

namespace Step

variable {isPartial : Bool} {subject : Value}

/-- The leaves of a step, below the name of its constraint. -/
def leaves (isPartial : Bool) (subject : Value) (step : Step) : List Leaf :=
  (step.behaviour.leaves isPartial subject).map (Failure.leafUnder [.constraint step.name])

/-- The steps up to the first terminal one that fails. -/
def reached (isPartial : Bool) (subject : Value) : List Step → List Step
  | [] => []
  | step :: rest =>
    step :: if step.terminal && !step.behaviour.accepts isPartial subject then []
      else reached isPartial subject rest

theorem outcomes_eq (schema : String) (steps : List Step) :
    (outcomes schema isPartial subject steps).map
        (fun outcome => (outcome.1, outcome.2.map Failure.leaves)) =
      (reached isPartial subject steps).map fun step =>
        (step.name, if step.behaviour.accepts isPartial subject then none
          else some (step.leaves isPartial subject)) := by
  induction steps with
  | nil => rfl
  | cons step rest ih =>
      unfold outcomes reached
      have leaves : step.leaves isPartial subject =
        (step.behaviour.leaves isPartial subject).map (Failure.leafUnder [.constraint step.name]) := rfl
      unfold Behaviour.leaves at leaves
      cases checked : step.behaviour.check isPartial subject with
      | none =>
          have accepted := (Behaviour.accepts_iff _).mpr checked
          simp [accepted, ih]
      | some failure =>
          have refused : step.behaviour.accepts isPartial subject = false := by
            rw [← Bool.not_eq_true, Behaviour.accepts_iff, checked]
            exact Option.some_ne_none failure
          rw [checked] at leaves
          cases terminal : step.terminal <;>
            simp [refused, ih, leaves, Failure.leaves_attributed]

/-- The leaves of all outcomes are those of the steps that are reached. -/
theorem leaves_outcomes (schema : String) (steps : List Step) :
    ((outcomes schema isPartial subject steps).filterMap Prod.snd).flatMap Failure.leaves =
      (reached isPartial subject steps).flatMap (leaves isPartial subject) := by
  have spread : ∀ failure? : Option Failure,
      failure?.toList.flatMap Failure.leaves = (failure?.map Failure.leaves).getD [] := by
    intro failure?
    cases failure? <;> simp
  have passed : ∀ step : Step, (if step.behaviour.accepts isPartial subject then none
      else some (step.leaves isPartial subject)).getD [] = step.leaves isPartial subject := by
    intro step
    split
    · rename_i accepted
      unfold leaves
      rw [Behaviour.leaves_eq_nil.mpr accepted]
      rfl
    · rfl
  calc ((outcomes schema isPartial subject steps).filterMap Prod.snd).flatMap Failure.leaves
      = ((outcomes schema isPartial subject steps).map
          fun outcome => (outcome.1, outcome.2.map Failure.leaves)).flatMap
            fun outcome => outcome.2.getD [] := by
        rw [List.filterMap_eq_flatMap_toList, List.flatMap_assoc, List.flatMap_map]
        exact List.flatMap_congr fun outcome _ => spread outcome.2
    _ = (reached isPartial subject steps).flatMap (leaves isPartial subject) := by
        rw [outcomes_eq, List.flatMap_map]
        exact List.flatMap_congr fun step _ => passed step

end Step

namespace Bound

theorem name_step (bound : Bound) : bound.step.name = bound.name := by
  obtain ⟨name, terminal, _ | restriction, rule⟩ := bound <;> rfl

theorem terminal_step (bound : Bound) : bound.step.terminal = bound.terminal := by
  obtain ⟨name, terminal, _ | restriction, rule⟩ := bound <;> rfl

end Bound

namespace Schema

/-- The leaves of a report are those of the failure that validation folds its outcomes into. -/
theorem leaves_validate (schema : Schema) (subject : Value) (isPartial : Bool) :
    (schema.validate subject isPartial).leaves = schema.behaviour.leaves isPartial subject := by
  unfold Behaviour.leaves
  rw [schema.behaviour_check]
  unfold Step.fold
  change ((schema.outcomes subject isPartial).filterMap Prod.snd).flatMap Failure.leaves = _
  generalize (schema.outcomes subject isPartial).filterMap Prod.snd = parts
  cases parts with
  | nil => rfl
  | cons part parts =>
      exact (Failure.leaves_of_parts none (some schema.name) _ (List.cons_ne_nil part parts)).symm

/-- What a schema reports are the leaves of the steps that validation reaches. -/
theorem leaves_eq (schema : Schema) (subject : Value) (isPartial : Bool) :
    schema.behaviour.leaves isPartial subject =
      (Step.reached isPartial subject (schema.constraints.map Bound.step)).flatMap
        (Step.leaves isPartial subject) := by
  rw [← leaves_validate, ← stepsOf_eq_map]
  exact Step.leaves_outcomes schema.name (stepsOf schema.constraints)

end Schema

end Conformance
