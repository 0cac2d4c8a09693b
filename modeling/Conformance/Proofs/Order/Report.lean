import Conformance.Proofs.Order.Shuffle
import Conformance.Proofs.Report.Leaves
/-!
Reports alike. Two behaviours report alike if they have the same leaves on every instance, in any order;
then the one lets pass what the other does. What is put together alike of behaviours that report alike
reports alike, also where the entries of an object are checked in another order.
-/

namespace Conformance

namespace Behaviour

variable {behaviour behaviour' : Behaviour} {isPartial : Bool} {subject : Value}

/-- Whether two behaviours have the same leaves on every instance, in any order. -/
def Alike (behaviour behaviour' : Behaviour) : Prop :=
  ∀ isPartial subject,
    (behaviour.leaves isPartial subject).Perm (behaviour'.leaves isPartial subject)

theorem Alike.refl (behaviour : Behaviour) : behaviour.Alike behaviour := fun _ _ => .refl _

theorem Alike.accepts (alike : behaviour.Alike behaviour') (isPartial : Bool) :
    behaviour.accepts isPartial = behaviour'.accepts isPartial := by
  funext subject
  rw [← isEmpty_leaves, ← isEmpty_leaves]
  exact (alike isPartial subject).isEmpty_eq

/-- Whether one part is handed on in one step, to behaviours that report alike. -/
structure Delegation.Alike (delegation delegation' : Delegation) : Prop where
  segment : delegation.segment = delegation'.segment
  behaviour : delegation.behaviour.Alike delegation'.behaviour
  subject : delegation.subject = delegation'.subject

theorem perm_delegations {delegations delegations' : List Delegation}
    (shuffled : Shuffled Delegation.Alike delegations delegations') :
    (delegations.flatMap (Delegation.leaves isPartial)).Perm
      (delegations'.flatMap (Delegation.leaves isPartial)) := by
  refine shuffled.flatMap_perm fun delegation delegation' alike => ?_
  unfold Delegation.leaves
  rw [alike.segment, alike.subject]
  exact (alike.behaviour _ _).map _

theorem perm_onArray {leaves leaves' : List Value → List Leaf}
    (each : ∀ items, (leaves items).Perm (leaves' items)) :
    (onArray subject leaves).Perm (onArray subject leaves') := by
  unfold onArray
  split
  · exact each _
  · exact .refl _

theorem perm_onObject {leaves leaves' : List (String × Value) → List Leaf}
    (each : ∀ entries, (leaves entries).Perm (leaves' entries)) :
    (onObject subject leaves).Perm (onObject subject leaves') := by
  unfold onObject
  split
  · exact each _
  · exact .refl _

theorem perm_leavesOr (cause : Cause) {leaves leaves' : List Leaf} (perm : leaves.Perm leaves') :
    (leavesOr cause leaves).Perm (leavesOr cause leaves') := by
  unfold leavesOr
  rw [perm.isEmpty_eq]
  split
  · exact .refl _
  · exact perm

theorem alike_under (alike : behaviour.Alike behaviour') (segment : Segment) :
    (behaviour.under segment).Alike (behaviour'.under segment) := by
  intro isPartial subject
  rw [leaves_under, leaves_under]
  exact (alike isPartial subject).map _

theorem alike_guarded (alike : behaviour.Alike behaviour') (applicable : KindSet) (strict : Bool) :
    (behaviour.guarded applicable strict).Alike (behaviour'.guarded applicable strict) := by
  intro isPartial subject
  rw [leaves_guarded, leaves_guarded]
  split
  · exact alike isPartial subject
  · exact .refl _

theorem alike_items {positional positional' : List Behaviour} {rest rest' : Behaviour}
    (each : List.Forall₂ Alike positional positional') (others : rest.Alike rest') :
    (items positional rest).Alike (items positional' rest') := by
  intro isPartial subject
  rw [leaves_items, leaves_items, each.length_eq]
  refine perm_onArray fun items => ?_
  split
  · exact .refl _
  · have same : List.Forall₂ Eq items items := List.forall₂_same.mpr fun _ _ => rfl
    refine perm_delegations (.of_parallel (forall₂_mapIdx same fun position item _ same => ?_))
    exact ⟨rfl, rel_getD (rel_getElem?_of_parallel each position) others, same⟩

theorem alike_contains (alike : behaviour.Alike behaviour') :
    (contains behaviour).Alike (contains behaviour') := by
  intro isPartial subject
  rw [leaves_contains, leaves_contains, alike.accepts]

theorem alike_onEntries {select select' : List String → List (String × Behaviour)}
    (each : ∀ names, Shuffled (AtKey Alike) (select names) (select' names)) :
    (onEntries select).Alike (onEntries select') := by
  intro isPartial subject
  rw [leaves_onEntries, leaves_onEntries]
  refine perm_onObject fun entries => perm_delegations ((each _).filterMap ?_)
  rintro ⟨name, choice⟩ ⟨_, choice'⟩ ⟨rfl, alike⟩
  dsimp only
  cases Table.lookup entries name with
  | none => exact .none
  | some value => exact .some ⟨rfl, alike, rfl⟩

theorem alike_entries {listed listed' : List (String × Behaviour)}
    (each : Shuffled (AtKey Alike) listed listed') : (entries listed).Alike (entries listed') := by
  refine alike_onEntries fun names => each.filter fun choice choice' both => ?_
  rw [both.1]

theorem alike_patternEntries {listed listed' : List (Pattern × Behaviour)}
    (each : Shuffled (AtKey Alike) listed listed') :
    (patternEntries listed).Alike (patternEntries listed') := by
  refine alike_onEntries fun names => ?_
  have same : Shuffled Eq names names := .of_parallel (List.forall₂_same.mpr fun _ _ => rfl)
  refine same.flatMap fun name _ same => ?_
  subst same
  refine (each.filter fun choice choice' both => ?_).map fun choice choice' both => ⟨rfl, both.2⟩
  rw [both.1]

theorem alike_additionalEntries {listed listed' : List String} {patterns patterns' : List Pattern}
    (same : isAdditional listed patterns = isAdditional listed' patterns')
    (alike : behaviour.Alike behaviour') :
    (additionalEntries listed patterns behaviour).Alike
      (additionalEntries listed' patterns' behaviour') := by
  refine alike_onEntries fun names => ?_
  rw [same]
  refine .of_parallel (List.forall₂_map_left_iff.mpr (List.forall₂_map_right_iff.mpr ?_))
  exact List.forall₂_same.mpr fun _ _ => ⟨rfl, alike⟩

theorem alike_entryNames (alike : behaviour.Alike behaviour') :
    (entryNames behaviour).Alike (entryNames behaviour') := by
  intro isPartial subject
  rw [leaves_entryNames, leaves_entryNames]
  refine perm_onObject fun entries => perm_delegations (.of_parallel ?_)
  refine List.forall₂_map_left_iff.mpr (List.forall₂_map_right_iff.mpr ?_)
  exact List.forall₂_same.mpr fun _ _ => ⟨rfl, alike, rfl⟩

/-- Whether two demands ask for the same peers, or for behaviours that report alike. -/
inductive Demand.Alike : Demand → Demand → Prop
  | peers (names : List String) : Alike (.peers names) (.peers names)
  | whole {behaviour behaviour' : Behaviour} (alike : behaviour.Alike behaviour') :
      Alike (.whole behaviour) (.whole behaviour')

theorem alike_dependencies {demands demands' : List (String × Demand)}
    (each : Shuffled (AtKey Demand.Alike) demands demands') :
    (dependencies demands).Alike (dependencies demands') := by
  intro isPartial subject
  rw [leaves_dependencies, leaves_dependencies, each.isEmpty_eq]
  split
  · exact .refl _
  · refine perm_onObject fun entries => perm_delegations ?_
    refine (each.filter fun demand demand' both => ?_).map ?_
    · rw [both.1]
    · rintro ⟨key, demand⟩ ⟨_, demand'⟩ ⟨rfl, alike⟩
      cases alike with
      | peers names => exact ⟨rfl, .refl _, rfl⟩
      | whole alike => exact ⟨rfl, alike, rfl⟩

variable {behaviours behaviours' : List Behaviour}

theorem perm_branches (each : List.Forall₂ Alike behaviours behaviours') :
    ((branches behaviours subject).flatMap (Delegation.leaves isPartial)).Perm
      ((branches behaviours' subject).flatMap (Delegation.leaves isPartial)) :=
  perm_delegations (.of_parallel (forall₂_mapIdx each fun _ _ _ alike => ⟨rfl, alike, rfl⟩))

theorem alike_allOf (each : List.Forall₂ Alike behaviours behaviours') :
    (allOf behaviours).Alike (allOf behaviours') := by
  intro isPartial subject
  rw [leaves_allOf, leaves_allOf]
  exact perm_branches each

theorem positions_eq (each : List.Forall₂ Alike behaviours behaviours') :
    positions isPartial subject behaviours = positions isPartial subject behaviours' := by
  have accepts (choice choice' : Behaviour × Nat)
      (both : choice.1.Alike choice'.1 ∧ choice.2 = choice'.2) :
      choice.1.accepts isPartial subject = true ↔ choice'.1.accepts isPartial subject = true := by
    rw [both.1.accepts]
  have passing := List.rel_filter accepts (forall₂_zipIdx each)
  exact List.forall₂_eq_eq_eq ▸ List.rel_map (fun _ _ both => both.2) passing

theorem alike_anyOf (each : List.Forall₂ Alike behaviours behaviours') :
    (anyOf behaviours).Alike (anyOf behaviours') := by
  intro isPartial subject
  have some : behaviours.any (·.accepts isPartial subject) =
      behaviours'.any (·.accepts isPartial subject) := by
    induction each with
    | nil => rfl
    | cons alike _ ih => rw [List.any_cons, List.any_cons, ih, alike.accepts]
  rw [leaves_anyOf, leaves_anyOf, some]
  split
  · exact .refl _
  · exact perm_leavesOr _ (perm_branches each)

theorem alike_oneOf (each : List.Forall₂ Alike behaviours behaviours') :
    (oneOf behaviours).Alike (oneOf behaviours') := by
  intro isPartial subject
  rw [leaves_oneOf, leaves_oneOf, positions_eq each]
  unfold unlessOne
  split
  · exact perm_leavesOr _ (perm_branches each)
  · exact .refl _
  · exact .refl _

theorem alike_negation (alike : behaviour.Alike behaviour') :
    (negation behaviour).Alike (negation behaviour') := by
  intro isPartial subject
  rw [leaves_negation, leaves_negation, alike.accepts]

theorem alike_branch (label : String) {choice choice' : Option Behaviour}
    (alike : Option.Rel Alike choice choice') : (branch label choice).Alike (branch label choice') := by
  intro isPartial subject
  rw [leaves_branch, leaves_branch]
  cases alike with
  | none => exact .refl _
  | some alike =>
      rw [Option.toList_some, Option.toList_some, List.flatMap_singleton, List.flatMap_singleton]
      exact (alike isPartial subject).map _

theorem alike_conditional {positive positive' negative negative' : Option Behaviour}
    (alike : behaviour.Alike behaviour') (whenPassed : Option.Rel Alike positive positive')
    (whenFailed : Option.Rel Alike negative negative') :
    (conditional behaviour positive negative).Alike (conditional behaviour' positive' negative') := by
  intro isPartial subject
  rw [leaves_conditional, leaves_conditional, alike.accepts]
  split
  · exact alike_branch "then" whenPassed isPartial subject
  · exact alike_branch "else" whenFailed isPartial subject

end Behaviour

namespace Step

variable {isPartial : Bool} {subject : Value} {first first' others others' : List Step}

/-- Whether two steps have one name and report alike. -/
structure Alike (step step' : Step) : Prop where
  name : step.name = step'.name
  terminal : step.terminal = step'.terminal
  behaviour : step.behaviour.Alike step'.behaviour

theorem Alike.leaves {step step' : Step} (alike : step.Alike step') :
    (step.leaves isPartial subject).Perm (step'.leaves isPartial subject) := by
  unfold Step.leaves
  rw [alike.name]
  exact (alike.behaviour isPartial subject).map _

theorem reached_of_flat (flat : ∀ step ∈ others, step.terminal = false) :
    reached isPartial subject others = others := by
  induction others with
  | nil => rfl
  | cons step others ih =>
      obtain ⟨here, rest⟩ := List.forall_mem_cons.mp flat
      unfold reached
      rw [here, Bool.false_and, if_neg Bool.false_ne_true, ih rest]

/-- The steps behind the terminal ones may come in any order. -/
theorem perm_reached (alike : List.Forall₂ Alike first first') (shuffled : Shuffled Alike others others')
    (flat : ∀ step ∈ others, step.terminal = false)
    (flat' : ∀ step ∈ others', step.terminal = false) :
    ((reached isPartial subject (first ++ others)).flatMap (leaves isPartial subject)).Perm
      ((reached isPartial subject (first' ++ others')).flatMap (leaves isPartial subject)) := by
  induction alike with
  | nil =>
      rw [List.nil_append, List.nil_append, reached_of_flat flat, reached_of_flat flat']
      exact shuffled.flatMap_perm fun _ _ alike => alike.leaves
  | cons alike _ ih =>
      rw [List.cons_append, List.cons_append]
      unfold reached
      rw [alike.terminal, alike.behaviour.accepts, List.flatMap_cons, List.flatMap_cons]
      refine alike.leaves.append ?_
      split
      · exact .refl _
      · exact ih

end Step

/-- Whether two schemas report alike. -/
def Schema.Alike (schema schema' : Schema) : Prop := schema.behaviour.Alike schema'.behaviour

def Subschema.Alike (part part' : Subschema) : Prop := part.behaviour.Alike part'.behaviour

def Dependency.Alike (dependency dependency' : Dependency) : Prop :=
  dependency.demand.Alike dependency'.demand

def Rule.Alike (rule rule' : Rule) : Prop := rule.behaviour.Alike rule'.behaviour

def Bound.Alike (bound bound' : Bound) : Prop := bound.step.Alike bound'.step

/-- Whether two constraints report alike, and validation goes on behind them. -/
def Bound.AlikeGoingOn (bound bound' : Bound) : Prop :=
  bound.Alike bound' ∧ bound.terminal = false

theorem Schema.Alike.success {schema schema' : Schema} (alike : schema.Alike schema') (subject : Value)
    (isPartial : Bool) : (schema.validate subject isPartial).success =
      (schema'.validate subject isPartial).success := by
  rw [Bool.eq_iff_iff, schema.success_iff, schema'.success_iff, Behaviour.Alike.accepts alike]

theorem Schema.Alike.leaves {schema schema' : Schema} (alike : schema.Alike schema') (subject : Value)
    (isPartial : Bool) : (schema.validate subject isPartial).leaves.Perm
      (schema'.validate subject isPartial).leaves := by
  rw [schema.leaves_validate, schema'.leaves_validate]
  exact alike isPartial subject

theorem Subschema.Alike.refl (part : Subschema) : part.Alike part := Behaviour.Alike.refl _

namespace Rule

variable {parts parts' : List Subschema}

theorem Alike.refl (rule : Rule) : rule.Alike rule := Behaviour.Alike.refl _

theorem behaviours_alike (alike : List.Forall₂ Subschema.Alike parts parts') :
    List.Forall₂ Behaviour.Alike (behavioursOf parts) (behavioursOf parts') := by
  rw [behavioursOf_eq_map, behavioursOf_eq_map]
  exact List.forall₂_map_left_iff.mpr (List.forall₂_map_right_iff.mpr alike)

theorem behaviour?_alike {part part' : Option Subschema} (alike : Option.Rel Subschema.Alike part part') :
    Option.Rel Behaviour.Alike (behaviourOf? part) (behaviourOf? part') := by
  rw [behaviourOf?_eq_map, behaviourOf?_eq_map]
  exact rel_map alike fun _ _ both => both

theorem alike_entries {listed listed' : List (String × Subschema)}
    (alike : Shuffled (AtKey Subschema.Alike) listed listed') :
    (Rule.entries listed).Alike (.entries listed') := by
  refine Behaviour.alike_entries ?_
  rw [entryBehavioursOf_eq_map, entryBehavioursOf_eq_map]
  exact alike.map fun _ _ both => both

theorem alike_patternEntries {listed listed' : List (Pattern × Subschema)}
    (alike : Shuffled (AtKey Subschema.Alike) listed listed') :
    (Rule.patternEntries listed).Alike (.patternEntries listed') := by
  refine Behaviour.alike_patternEntries ?_
  rw [patternBehavioursOf_eq_map, patternBehavioursOf_eq_map]
  exact alike.map fun _ _ both => both

theorem alike_dependencies {demands demands' : List (String × Dependency)}
    (alike : Shuffled (AtKey Dependency.Alike) demands demands') :
    (Rule.dependencies demands).Alike (.dependencies demands') := by
  refine Behaviour.alike_dependencies ?_
  rw [demandsOf_eq_map, demandsOf_eq_map]
  exact alike.map fun _ _ both => both

end Rule

/-- One constraint with rules that report alike. -/
theorem Bound.alike_mk {rule rule' : Rule} (alike : rule.Alike rule') (name : String) (terminal : Bool)
    (restriction : Option Guard) :
    (Bound.mk name terminal restriction rule).Alike (.mk name terminal restriction rule') := by
  cases restriction with
  | none => exact ⟨rfl, rfl, alike⟩
  | some guard => exact ⟨rfl, rfl, Behaviour.alike_guarded alike _ _⟩

/-- Schemas report alike if what comes first in them does in turn, and the rest does in any order without
ending validation. -/
theorem Schema.alike_mk {header header' : Header} {first first' others others' : List Bound}
    (alike : List.Forall₂ Bound.Alike first first')
    (shuffled : Shuffled Bound.AlikeGoingOn others others') :
    (Schema.mk header (first ++ others)).Alike (.mk header' (first' ++ others')) := by
  have flat : ∀ bound ∈ others, bound.step.terminal = false :=
    shuffled.forall_left fun bound _ both => bound.terminal_step.trans both.2
  have flat' : ∀ bound ∈ others', bound.step.terminal = false :=
    shuffled.forall_right fun bound _ both =>
      both.1.terminal.symm.trans (bound.terminal_step.trans both.2)
  intro isPartial subject
  rw [Schema.leaves_eq, Schema.leaves_eq]
  change ((Step.reached isPartial subject ((first ++ others).map Bound.step)).flatMap _).Perm
    ((Step.reached isPartial subject ((first' ++ others').map Bound.step)).flatMap _)
  rw [List.map_append, List.map_append]
  refine Step.perm_reached ?_ (shuffled.map fun _ _ both => both.1) (List.forall_mem_map.mpr flat)
    (List.forall_mem_map.mpr flat')
  exact List.forall₂_map_left_iff.mpr (List.forall₂_map_right_iff.mpr alike)

end Conformance
