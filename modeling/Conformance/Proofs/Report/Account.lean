import Conformance.Environment
import Conformance.Proofs.Compilation.Constraints
import Conformance.Proofs.Compilation.Shape
import Conformance.Proofs.Report.Leaves
/-!
What reports say. The leaves of a report are told constraint by constraint, from the reports of the
sub-schemas on the parts that a rule hands to them, each below the name of the constraint and the step
to the part (`Rule.leaves`, `Bound.leaves`). The report of a compiled schema consists of just these
leaves, in order, up to a type that fails (`Site.leaves_of_reached`).
-/

namespace Conformance

open Behaviour (ownLeaves leavesOr onArray onObject unlessOne)

namespace Subschema

/-- The leaves that a sub-schema reports of an instance. -/
def leaves (isPartial : Bool) (subject : Value) : Subschema → List Leaf
  | .accept => []
  | .reject => ownLeaves (some .nothingAllowed)
  | .schema inner => (inner.validate subject isPartial).leaves

/-- Whether a sub-schema reports success. -/
def passes (isPartial : Bool) (subject : Value) : Subschema → Bool
  | .accept => true
  | .reject => false
  | .schema inner => (inner.validate subject isPartial).success

end Subschema

/-- A part of an instance that is handed to a sub-schema, and the step to it. -/
structure Handover where
  segment : Segment
  part : Subschema
  subject : Value

namespace Handover

/-- What the sub-schema reports of the part, below the step. -/
def leaves (isPartial : Bool) (handover : Handover) : List Leaf :=
  (handover.part.leaves isPartial handover.subject).map (Failure.leafUnder [handover.segment])

/-- What is reported of several parts, in order. -/
def spread (isPartial : Bool) (handovers : List Handover) : List Leaf :=
  handovers.flatMap (leaves isPartial)

/-- The whole instance, handed to several sub-schemas. -/
def toBranches (branches : List Subschema) (subject : Value) : List Handover :=
  branches.mapIdx fun position part => ⟨.index position, part, subject⟩

/-- The entry under a name, if there is one. -/
def toEntry? (entries : List (String × Value)) (name : String) (part : Subschema) : Option Handover :=
  (Table.lookup entries name).map fun value => ⟨.key name, part, value⟩

end Handover

open Handover (spread toBranches toEntry?)

/-- The leaves of a dependency on an entry that is present. -/
def Dependency.leaves (isPartial : Bool) (entries : List (String × Value)) (key : String) :
    Dependency → List Leaf
  | .peers names =>
    ownLeaves (if isPartial || (Check.missing entries names).isEmpty then none
      else some (.missingPeers key (Check.missing entries names)))
  | .whole part => part.leaves isPartial (.object entries)

namespace Rule

/-- The leaves of a rule: those of the parts that it hands on, below the steps to them, or one of its
own. -/
def leaves (isPartial : Bool) (subject : Value) : Rule → List Leaf
  | .check rule => ownLeaves (rule.violation? isPartial subject)
  | .items positional rest => onArray subject fun items =>
    if items.length < positional.length then
      ownLeaves (some (.missingItems positional.length items.length))
    else
      spread isPartial (items.mapIdx fun position item =>
        ⟨.index position, positional[position]?.getD rest, item⟩)
  | .contains part => onArray subject fun items =>
    ownLeaves (if items.any (part.passes isPartial) then none else some .noItemMatches)
  | .entries listed => onObject subject fun entries =>
    spread isPartial (listed.filterMap fun choice => toEntry? entries choice.1 choice.2)
  | .patternEntries listed => onObject subject fun entries =>
    spread isPartial ((Table.names entries).flatMap fun name =>
      (listed.filter fun choice => choice.1.isMatch name).filterMap fun choice =>
        toEntry? entries name choice.2)
  | .additionalEntries listed patterns part => onObject subject fun entries =>
    spread isPartial (((Table.names entries).filter
      (Behaviour.isAdditional listed patterns)).filterMap fun name => toEntry? entries name part)
  | .dependencies demands =>
    if demands.isEmpty then []
    else onObject subject fun entries =>
      (demands.filter fun demand => Table.has entries demand.1).flatMap fun demand =>
        (demand.2.leaves isPartial entries demand.1).map (Failure.leafUnder [.key demand.1])
  | .entryNames part => onObject subject fun entries =>
    spread isPartial ((Table.names entries).map fun name => ⟨.key name, part, .string name⟩)
  | .allOf branches => spread isPartial (toBranches branches subject)
  | .anyOf branches =>
    if branches.any (·.passes isPartial subject) then []
    else spread isPartial (toBranches branches subject)
  | .oneOf branches =>
    unlessOne (spread isPartial (toBranches branches subject))
      ((branches.zipIdx.filter fun branch => branch.1.passes isPartial subject).map Prod.snd)
  | .negation part =>
    ownLeaves (if part.passes isPartial subject then some .forbiddenMatch else none)
  | .conditional condition positive negative =>
    if condition.passes isPartial subject then
      spread isPartial (positive.toList.map fun part => ⟨.label "then", part, subject⟩)
    else spread isPartial (negative.toList.map fun part => ⟨.label "else", part, subject⟩)
  | .apply part => spread isPartial [⟨.label "apply", part, subject⟩]

/-- Whether a rule on alternatives has some. -/
def HasBranches : Rule → Prop
  | .anyOf branches => branches ≠ []
  | .oneOf branches => branches ≠ []
  | _ => True

end Rule

namespace Bound

/-- The leaves of a constraint, below its name. A constraint that does not apply to an instance has
none, or one of its own if its guard is strict. -/
def leaves (isPartial : Bool) (subject : Value) : Bound → List Leaf
  | .mk name _ none rule =>
    (rule.leaves isPartial subject).map (Failure.leafUnder [.constraint name])
  | .mk name _ (some guard) rule =>
    (if guard.applicable.contains subject.kind then rule.leaves isPartial subject
      else ownLeaves (if guard.strict then some (.notApplicable subject.kind guard.applicable)
        else none)).map (Failure.leafUnder [.constraint name])

/-- The constraints up to the first terminal one that fails. -/
def reached (isPartial : Bool) (subject : Value) : List Bound → List Bound
  | [] => []
  | bound :: rest =>
    bound :: if bound.terminal && !(bound.leaves isPartial subject).isEmpty then []
      else reached isPartial subject rest

end Bound

section

variable {isPartial : Bool} {subject : Value}

theorem Subschema.leaves_behaviour (part : Subschema) :
    part.behaviour.leaves isPartial subject = part.leaves isPartial subject := by
  cases part with
  | accept => rfl
  | reject => rfl
  | schema schema => exact (schema.leaves_validate subject isPartial).symm

theorem Subschema.accepts_behaviour (part : Subschema) :
    part.behaviour.accepts isPartial subject = part.passes isPartial subject := by
  cases part with
  | accept => rfl
  | reject => rfl
  | schema schema => exact Bool.eq_iff_iff.mpr schema.success_iff.symm

namespace Handover

def delegation (handover : Handover) : Behaviour.Delegation :=
  ⟨handover.segment, handover.part.behaviour, handover.subject⟩

/-- What is reported of parts is what the behaviours of their sub-schemas report. -/
theorem flatMap_leaves (handovers : List Handover) :
    (handovers.map delegation).flatMap (Behaviour.Delegation.leaves isPartial) =
      spread isPartial handovers := by
  rw [List.flatMap_map]
  refine List.flatMap_congr fun handover _ => ?_
  exact congrArg (List.map _) handover.part.leaves_behaviour

theorem map_mapIdx {α : Type} (make : Nat → α → Handover) (items : List α) :
    (items.mapIdx make).map delegation =
      items.mapIdx fun position item => (make position item).delegation := by
  rw [List.mapIdx_eq_zipIdx_map, List.mapIdx_eq_zipIdx_map, List.map_map]
  rfl

theorem branches_eq (branches : List Subschema) :
    Behaviour.branches (branches.map Subschema.behaviour) subject =
      (toBranches branches subject).map delegation := by
  unfold Behaviour.branches toBranches
  rw [map_mapIdx, List.mapIdx_eq_zipIdx_map, List.mapIdx_eq_zipIdx_map, List.zipIdx_map, List.map_map]
  rfl

theorem leaves_eq_nil (handover : Handover) : handover.leaves isPartial = [] ↔
    handover.part.passes isPartial handover.subject = true := by
  unfold leaves
  rw [List.map_eq_nil_iff, ← Subschema.leaves_behaviour, Behaviour.leaves_eq_nil,
    Subschema.accepts_behaviour]

/-- If no branch passes, and there are some, there is something to report of them. -/
theorem leavesOr_branches (cause : Cause) {branches : List Subschema} (some : branches ≠ [])
    (none : ∀ part ∈ branches, ¬ part.passes isPartial subject = true) :
    leavesOr cause (spread isPartial (toBranches branches subject)) =
      spread isPartial (toBranches branches subject) := by
  obtain ⟨part, rest, rfl⟩ := List.exists_cons_of_ne_nil some
  have first : (⟨.index 0, part, subject⟩ : Handover) ∈ toBranches (part :: rest) subject := by
    unfold toBranches
    rw [List.mapIdx_cons]
    exact List.mem_cons_self
  unfold leavesOr
  rw [if_neg]
  intro empty
  have nothing := List.flatMap_eq_nil_iff.mp (List.isEmpty_iff.mp empty) _ first
  exact none part List.mem_cons_self ((leaves_eq_nil _).mp nothing)

end Handover

namespace Rule

theorem leaves_items (positional : List Subschema) (rest : Subschema) :
    (Rule.items positional rest).behaviour.leaves isPartial subject =
      (Rule.items positional rest).leaves isPartial subject := by
  have delegations (items : List Value) :
      Behaviour.itemDelegations (positional.map Subschema.behaviour) rest.behaviour items =
        (items.mapIdx fun position item =>
          (⟨.index position, positional[position]?.getD rest, item⟩ : Handover)).map
            Handover.delegation := by
    rw [Handover.map_mapIdx]
    unfold Behaviour.itemDelegations Handover.delegation
    congr
    funext position item
    rw [List.getElem?_map]
    cases positional[position]? <;> rfl
  rw [Rule.behaviour, behavioursOf_eq_map, Behaviour.leaves_items, List.length_map]
  simp only [delegations, Handover.flatMap_leaves]
  rfl

theorem toEntries_eq (entries : List (String × Value)) (choices : List (String × Subschema)) :
    Behaviour.entryDelegations (choices.map fun choice => (choice.1, choice.2.behaviour)) entries =
      (choices.filterMap fun choice => toEntry? entries choice.1 choice.2).map
        Handover.delegation := by
  unfold Behaviour.entryDelegations toEntry?
  rw [List.filterMap_map, List.map_filterMap]
  congr
  funext choice
  rw [Option.map_map]
  rfl

theorem leaves_onEntries (select : List String → List (String × Subschema)) :
    (Behaviour.onEntries fun names => (select names).map fun choice =>
        (choice.1, choice.2.behaviour)).leaves isPartial subject =
      onObject subject fun entries => spread isPartial
        ((select (Table.names entries)).filterMap fun choice =>
          toEntry? entries choice.1 choice.2) := by
  rw [Behaviour.leaves_onEntries]
  simp only [toEntries_eq, Handover.flatMap_leaves]

theorem leaves_entries (listed : List (String × Subschema)) :
    (Rule.entries listed).behaviour.leaves isPartial subject =
      (Rule.entries listed).leaves isPartial subject := by
  have selected (names : List String) :
      (listed.map fun choice => (choice.1, choice.2.behaviour)).filter
          (fun choice => decide (choice.1 ∈ names)) =
        (listed.filter fun choice => decide (choice.1 ∈ names)).map
          fun choice => (choice.1, choice.2.behaviour) := by
    rw [List.filter_map]
    rfl
  have present (entries : List (String × Value)) :
      (listed.filter fun choice => decide (choice.1 ∈ Table.names entries)).filterMap
          (fun choice => toEntry? entries choice.1 choice.2) =
        listed.filterMap fun choice => toEntry? entries choice.1 choice.2 := by
    rw [List.filterMap_filter]
    congr
    funext choice
    split
    · rfl
    · rename_i absent
      have missing : Table.lookup entries choice.1 = none := by
        rw [← Option.not_isSome_iff_eq_none]
        rw [decide_eq_true_iff, ← Table.has_iff_mem_names] at absent
        exact absent
      unfold toEntry?
      rw [missing]
      rfl
  rw [Rule.behaviour, entryBehavioursOf_eq_map]
  unfold Behaviour.entries
  simp only [selected, leaves_onEntries, present]
  rfl

theorem leaves_patternEntries (listed : List (Pattern × Subschema)) :
    (Rule.patternEntries listed).behaviour.leaves isPartial subject =
      (Rule.patternEntries listed).leaves isPartial subject := by
  have selected (names : List String) :
      (names.flatMap fun name => ((listed.map fun choice => (choice.1, choice.2.behaviour)).filter
          fun choice => choice.1.isMatch name).map fun choice => (name, choice.2)) =
        (names.flatMap fun name => (listed.filter fun choice => choice.1.isMatch name).map
          fun choice => (name, choice.2)).map fun choice => (choice.1, choice.2.behaviour) := by
    rw [List.map_flatMap]
    refine List.flatMap_congr fun name _ => ?_
    rw [List.filter_map, List.map_map, List.map_map]
    rfl
  rw [Rule.behaviour, patternBehavioursOf_eq_map]
  unfold Behaviour.patternEntries
  simp only [selected, leaves_onEntries, List.filterMap_flatMap, List.filterMap_map]
  rfl

theorem leaves_additionalEntries (listed : List String) (patterns : List Pattern)
    (part : Subschema) :
    (Rule.additionalEntries listed patterns part).behaviour.leaves isPartial subject =
      (Rule.additionalEntries listed patterns part).leaves isPartial subject := by
  have selected (names : List String) :
      (names.map fun name => (name, part.behaviour)) =
        (names.map fun name => (name, part)).map fun choice => (choice.1, choice.2.behaviour) := by
    rw [List.map_map]
    rfl
  rw [Rule.behaviour]
  unfold Behaviour.additionalEntries
  simp only [selected, leaves_onEntries, List.filterMap_map]
  rfl

theorem leaves_dependencies (demands : List (String × Dependency)) :
    (Rule.dependencies demands).behaviour.leaves isPartial subject =
      (Rule.dependencies demands).leaves isPartial subject := by
  have each (entries : List (String × Value)) :
      (Behaviour.demandDelegations (demands.map fun demand => (demand.1, demand.2.demand))
          entries).flatMap (Behaviour.Delegation.leaves isPartial) =
        (demands.filter fun demand => Table.has entries demand.1).flatMap fun demand =>
          (demand.2.leaves isPartial entries demand.1).map (Failure.leafUnder [.key demand.1]) := by
    unfold Behaviour.demandDelegations
    rw [List.filter_map, List.map_map, List.flatMap_map]
    refine List.flatMap_congr fun demand _ => congrArg (List.map _) ?_
    obtain ⟨key, dependency⟩ := demand
    cases dependency with
    | peers names => exact Behaviour.leaves_peers _ _ _
    | whole part => exact part.leaves_behaviour
  rw [Rule.behaviour, demandsOf_eq_map, Behaviour.leaves_dependencies, List.isEmpty_map]
  simp only [each]
  rfl

theorem leaves_entryNames (part : Subschema) :
    (Rule.entryNames part).behaviour.leaves isPartial subject =
      (Rule.entryNames part).leaves isPartial subject := by
  have each (entries : List (String × Value)) :
      ((Table.names entries).map fun name =>
          (⟨.key name, part.behaviour, .string name⟩ : Behaviour.Delegation)) =
        ((Table.names entries).map fun name =>
          (⟨.key name, part, .string name⟩ : Handover)).map Handover.delegation := by
    rw [List.map_map]
    rfl
  rw [Rule.behaviour, Behaviour.leaves_entryNames]
  simp only [each, Handover.flatMap_leaves]
  rfl

theorem any_accepts (branches : List Subschema) :
    (branches.map Subschema.behaviour).any (·.accepts isPartial subject) =
      branches.any (·.passes isPartial subject) := by
  rw [List.any_map]
  exact List.any_congr rfl fun part => part.accepts_behaviour

theorem leaves_anyOf {branches : List Subschema} (some : branches ≠ []) :
    (Rule.anyOf branches).behaviour.leaves isPartial subject =
      (Rule.anyOf branches).leaves isPartial subject := by
  rw [Rule.behaviour, behavioursOf_eq_map, Behaviour.leaves_anyOf, any_accepts,
    Handover.branches_eq, Handover.flatMap_leaves]
  dsimp only [leaves]
  split
  · rfl
  · rename_i none
    refine Handover.leavesOr_branches _ some fun part member passes => ?_
    exact none (List.any_eq_true.mpr ⟨part, member, passes⟩)

theorem positions_behaviours (branches : List Subschema) :
    Behaviour.positions isPartial subject (branches.map Subschema.behaviour) =
      (branches.zipIdx.filter fun branch => branch.1.passes isPartial subject).map Prod.snd := by
  unfold Behaviour.positions
  rw [List.zipIdx_map, List.filter_map, List.map_map]
  simp only [Function.comp_def, Prod.map, Subschema.accepts_behaviour, id]

theorem leaves_oneOf {branches : List Subschema} (some : branches ≠ []) :
    (Rule.oneOf branches).behaviour.leaves isPartial subject =
      (Rule.oneOf branches).leaves isPartial subject := by
  rw [Rule.behaviour, behavioursOf_eq_map, Behaviour.leaves_oneOf, positions_behaviours,
    Handover.branches_eq, Handover.flatMap_leaves]
  dsimp only [leaves]
  -- Only if no position is left the leaves of the branches matter.
  cases chosen : (branches.zipIdx.filter fun branch => branch.1.passes isPartial subject).map
      Prod.snd with
  | nil =>
      refine Handover.leavesOr_branches _ some fun part member passes => ?_
      obtain ⟨position, found⟩ := List.getElem?_of_mem member
      have listed : (part, position) ∈ branches.zipIdx := List.mem_zipIdx_iff_getElem?.mpr found
      have kept : (part, position) ∈ branches.zipIdx.filter
          fun branch => branch.1.passes isPartial subject := List.mem_filter.mpr ⟨listed, passes⟩
      rw [List.map_eq_nil_iff.mp chosen] at kept
      cases kept
  | cons first rest => cases rest <;> rfl

theorem leaves_conditional (condition : Subschema) (positive negative : Option Subschema) :
    (Rule.conditional condition positive negative).behaviour.leaves isPartial subject =
      (Rule.conditional condition positive negative).leaves isPartial subject := by
  have branch (label : String) (choice : Option Subschema) :
      (Behaviour.branch label (choice.map Subschema.behaviour)).leaves isPartial subject =
        spread isPartial (choice.toList.map fun part => ⟨.label label, part, subject⟩) := by
    rw [Behaviour.leaves_branch]
    cases choice with
    | none => rfl
    | some part =>
        rw [← Handover.flatMap_leaves]
        rfl
  rw [Rule.behaviour, behaviourOf?_eq_map, behaviourOf?_eq_map, Behaviour.leaves_conditional,
    Subschema.accepts_behaviour, branch, branch]
  rfl

/-- The leaves of a rule are those of the failure that validation finds. -/
theorem leaves_behaviour {rule : Rule} (branched : rule.HasBranches) :
    rule.behaviour.leaves isPartial subject = rule.leaves isPartial subject := by
  cases rule with
  | check check => exact Behaviour.leaves_ofRule check
  | items positional rest => exact leaves_items positional rest
  | contains part =>
      have same : part.behaviour.accepts isPartial = fun item => part.passes isPartial item :=
        funext fun item => part.accepts_behaviour
      rw [Rule.behaviour, Behaviour.leaves_contains, same]
      rfl
  | entries listed => exact leaves_entries listed
  | patternEntries listed => exact leaves_patternEntries listed
  | additionalEntries listed patterns part => exact leaves_additionalEntries listed patterns part
  | dependencies demands => exact leaves_dependencies demands
  | entryNames part => exact leaves_entryNames part
  | allOf branches =>
      rw [Rule.behaviour, behavioursOf_eq_map, Behaviour.leaves_allOf, Handover.branches_eq,
        Handover.flatMap_leaves]
      rfl
  | anyOf branches => exact leaves_anyOf branched
  | oneOf branches => exact leaves_oneOf branched
  | negation part =>
      rw [Rule.behaviour, Behaviour.leaves_negation, Subschema.accepts_behaviour]
      rfl
  | conditional condition positive negative => exact leaves_conditional condition positive negative
  | apply part =>
      rw [Rule.behaviour, Behaviour.leaves_under, Subschema.leaves_behaviour]
      exact (List.flatMap_singleton _ _).symm

end Rule

namespace Bound

/-- The leaves of a constraint are those of its step. -/
theorem leaves_step {bound : Bound} (branched : bound.rule.HasBranches) :
    bound.step.leaves isPartial subject = bound.leaves isPartial subject := by
  obtain ⟨name, terminal, _ | restriction, rule⟩ := bound
  · exact congrArg (List.map _) (Rule.leaves_behaviour branched)
  · have own : rule.behaviour.leaves isPartial subject = rule.leaves isPartial subject :=
      Rule.leaves_behaviour branched
    refine congrArg (List.map _) ?_
    rw [← own]
    exact Behaviour.leaves_guarded restriction.applicable restriction.strict

theorem accepts_step {bound : Bound} (branched : bound.rule.HasBranches) :
    bound.step.behaviour.accepts isPartial subject = (bound.leaves isPartial subject).isEmpty := by
  rw [← leaves_step branched, ← Behaviour.isEmpty_leaves]
  unfold Step.leaves
  rw [List.isEmpty_map]

theorem mem_of_mem_reached {bound : Bound} {bounds : List Bound}
    (member : bound ∈ reached isPartial subject bounds) : bound ∈ bounds := by
  induction bounds with
  | nil => exact member
  | cons first rest ih =>
      rcases List.mem_cons.mp member with rfl | later
      · exact List.mem_cons_self
      · split at later
        · cases later
        · exact List.mem_cons_of_mem _ (ih later)

theorem reached_step {bounds : List Bound} (branched : ∀ bound ∈ bounds, bound.rule.HasBranches) :
    Step.reached isPartial subject (bounds.map step) = (reached isPartial subject bounds).map step := by
  induction bounds with
  | nil => rfl
  | cons bound rest ih =>
      obtain ⟨here, others⟩ := List.forall_mem_cons.mp branched
      rw [List.map_cons]
      unfold Step.reached reached
      rw [terminal_step, accepts_step here, ih others, List.map_cons]
      split <;> rfl

end Bound

/-- A report has the leaves of the constraints that are reached. -/
theorem Schema.leaves_of_branched {schema : Schema}
    (branched : ∀ bound ∈ schema.constraints, bound.rule.HasBranches) :
    (schema.validate subject isPartial).leaves =
      (Bound.reached isPartial subject schema.constraints).flatMap (Bound.leaves isPartial subject) := by
  rw [schema.leaves_validate, schema.leaves_eq, Bound.reached_step branched, List.flatMap_map]
  exact List.flatMap_congr fun bound member =>
    Bound.leaves_step (branched bound (Bound.mem_of_mem_reached member))

end

theorem Rule.IsOf.hasBranches {context : Context} {meaning : Meaning} {value : Value} {rule : Rule}
    (isOf : rule.IsOf context meaning value) : rule.HasBranches := by
  cases rule with
  | anyOf branches => exact isOf.2
  | oneOf branches => exact isOf.2
  | _ => trivial

namespace Context

variable {context : Context} {good : Value → Schema → Prop} {known : String → Schema → Prop}

/-- The type is bound under its name, and is terminal. -/
theorem yields_account_bindType : context.bindType.Yields good known fun bound =>
    bound.2 = [] ∨ ∃ (name : String) (rule : Rule), bound.2 = [.mk name true none rule] ∧
      context.typeName? = some name ∧ rule.HasBranches := by
  unfold bindType
  split
  · rename_i name value isType _
    refine (Binding.yields_trivial _).bind fun kinds _ => ?_
    dsimp only
    split
    · rename_i definition _
      refine (yields_shape_rule _ definition.meaning value).bind fun rule? shape => ?_
      cases rule? with
      | none => exact .inl rfl
      | some rule => exact .inr ⟨name, rule, rfl, isType, (shape rule rfl).hasBranches⟩
    · exact .inl rfl
  · exact .inl rfl

/-- Of the constraints that are bound for a document, the type is terminal and no other. No two have one
name, and every choice has alternatives. -/
theorem yields_account_bindAll : context.bindAll.Yields good known fun bound =>
    (bound.2.map Bound.name).Nodup ∧ ∀ other ∈ bound.2,
      (other.terminal = true ↔ context.typeName? = some other.name) ∧ other.rule.HasBranches := by
  refine yields_account_bindType.bind fun bound isType => ?_
  have each : ∀ entry name definition,
      { context with declared := bound.1 }.Introduces entry name definition →
      ({ context with declared := bound.1, constraint := name }.rule definition.meaning
        entry.2).Yields good known fun rule? => ∀ rule : Rule, rule? = some rule →
          some name ≠ context.typeName? ∧ rule.HasBranches := by
    intro entry name definition introduces
    refine (yields_shape_rule _ definition.meaning entry.2).mono fun rule? shape rule same => ?_
    exact ⟨introduces.notType, (shape rule same).hasBranches⟩
  have entries := @yields_constraints_bindEntries { context with declared := bound.1 } good known
    (fun name _ (rule : Rule) => some name ≠ context.typeName? ∧ rule.HasBranches) each []
    context.entries [] rfl (fun _ member => absurd member List.not_mem_nil)
  refine entries.bind fun others ⟨apart, held⟩ => ?_
  have distinct : (others.map Bound.name).Nodup := List.pairwise_map.mpr apart
  have behind : ∀ other ∈ others, some other.name ≠ context.typeName? ∧
      (other.terminal = true ↔ context.typeName? = some other.name) ∧ other.rule.HasBranches := by
    intro other member
    obtain ⟨definition, rule, same, notType, branched⟩ := (held other member).2
    refine ⟨notType, iff_of_false ?_ notType.symm, ?_⟩
    · rw [same]
      exact Bool.false_ne_true
    · rw [same]
      exact branched
  rcases isType with none | ⟨name, rule, first, isType, branched⟩
  · rw [none]
    exact ⟨distinct, fun other member => (behind other member).2⟩
  · rw [first]
    refine ⟨List.nodup_cons.mpr ⟨?_, distinct⟩, List.forall_mem_cons.mpr ⟨?_, ?_⟩⟩
    · intro again
      obtain ⟨other, member, same⟩ := List.mem_map.mp again
      exact (behind other member).1 (by rw [same, isType]; rfl)
    · exact ⟨iff_of_true rfl isType, branched⟩
    · exact fun other member => (behind other member).2

end Context

namespace Site

variable {site : Site} {source : Source} {schema : Schema} {cache after : Cache}

/-- What the constraints of a compiled schema are like. -/
theorem account_constraints {levels : Nat}
    (compiled : (site.compileWithin levels source).outcome cache = (.ok schema, after)) :
    schema.constraintNames.Nodup ∧ ∀ bound ∈ schema.constraints,
      (bound.terminal = true ↔ site.settings.constraints.resolve "type" = some bound.name) ∧
        bound.rule.HasBranches := by
  obtain ⟨below, rfl, compiled⟩ := compileWithin_ok compiled
  obtain ⟨entries, declared, constraints, references, _, ran, rfl⟩ := compileWith_ok compiled
  have yields := @Context.yields_account_bindAll (site.context source entries) (fun _ _ => True)
    fun _ _ => True
  exact (Binding.yielded_of_run (fun _ => True) (fun _ _ _ => ⟨trivial, fun _ _ => trivial⟩)
    (fun _ _ _ => ⟨trivial, fun _ _ => trivial⟩) yields [] trivial).2 _ (congrArg Prod.fst ran)

/-- The report of a compiled schema is told by its constraints up to a type that fails: it has their
leaves in their order, so that it reports success just if there are none, and one outcome under the name of
each. -/
theorem leaves_of_reached {levels : Nat}
    (compiled : (site.compileWithin levels source).outcome cache = (.ok schema, after))
    (subject : Value) (isPartial : Bool) :
    (schema.validate subject isPartial).leaves =
      (Bound.reached isPartial subject schema.constraints).flatMap (Bound.leaves isPartial subject) ∧
    ((schema.validate subject isPartial).leaves = [] ↔
      (schema.validate subject isPartial).success = true) ∧
    (schema.validate subject isPartial).outcomes.map
        (fun outcome => (outcome.1, outcome.2.map Failure.leaves)) =
      (Bound.reached isPartial subject schema.constraints).map (fun bound =>
        (bound.name, if (bound.leaves isPartial subject).isEmpty then none
          else some (bound.leaves isPartial subject))) ∧
    schema.constraintNames.Nodup ∧
    ∀ bound ∈ schema.constraints,
      bound.terminal = true ↔ site.settings.constraints.resolve "type" = some bound.name := by
  obtain ⟨distinct, each⟩ := account_constraints compiled
  have branched : ∀ bound ∈ schema.constraints, bound.rule.HasBranches :=
    fun bound member => (each bound member).2
  have steps : Step.reached isPartial subject (schema.constraints.map Bound.step) =
      (Bound.reached isPartial subject schema.constraints).map Bound.step := Bound.reached_step branched
  have within : ∀ bound ∈ Bound.reached isPartial subject schema.constraints,
      bound.rule.HasBranches := fun bound member => branched bound (Bound.mem_of_mem_reached member)
  refine ⟨Schema.leaves_of_branched branched, ?_, ?_, distinct, fun bound member => (each bound member).1⟩
  · rw [schema.leaves_validate, Behaviour.leaves_eq_nil, schema.success_iff]
  · change (Step.outcomes schema.name isPartial subject (stepsOf schema.constraints)).map _ = _
    rw [Step.outcomes_eq, stepsOf_eq_map, steps, List.map_map]
    refine List.map_congr_left fun bound member => ?_
    rw [Function.comp_apply, Bound.accepts_step (within bound member),
      Bound.leaves_step (within bound member), Bound.name_step]

/-- A document in which an entry is bounded, another is not allowed, one needs a peer, and the whole has
to match one of two branches. -/
def nested : Value :=
  .object
    [("entries", .object [("n", .object [("minimum", .ofNat 3)]), ("m", .bool false)]),
      ("any_of", .array [.object [("required", .array [.string "x"])],
        .object [("min_entries", .ofNat 5)]]),
      ("dependencies", .object [("n", .array [.string "k"])]),
      ("type", .string "dict")]

/-- An instance that fails everywhere but in its type. -/
def nestedSubject : Value := .object [("n", .ofNat 1), ("m", .null)]

/-- What is said of it, and where. -/
def nestedLines : List (String × String) :=
  [("entries/\x7bn\x7d/minimum", "must be no smaller than 3"),
    ("entries/\x7bm\x7d", "no value is allowed here"),
    ("any_of/[0]/required", "must have the required entries: x"),
    ("any_of/[1]/min_entries", "must not have less than 5 entries"),
    ("dependencies/\x7bn\x7d", "since n appears, k must also appear")]

theorem leaves_of_reached_nested :
    ∃ schema after,
      ((Environment.native 0).site.compileWithin 2 ⟨nested, none, true, 0⟩).outcome [] =
        (.ok schema, after) ∧
      ((Bound.reached false nestedSubject schema.constraints).flatMap
          (Bound.leaves false nestedSubject)).map
        (fun leaf => (pathText leaf.1, leaf.2.message)) = nestedLines := by
  obtain ⟨schema, after, compiled, seen⟩ := Compiling.exists_of_observed
    (show (((Environment.native 0).site.compileWithin 2 ⟨nested, none, true, 0⟩).outcome
        []).1.toOption.map (fun schema => (schema.validate nestedSubject false).leaves.map
          fun leaf => (pathText leaf.1, leaf.2.message)) = some nestedLines by decide +kernel)
  refine ⟨schema, after, compiled, ?_⟩
  rw [← (leaves_of_reached compiled _ false).1]
  exact seen

end Site

end Conformance
