import Conformance.Proofs.Compilation.Subschemas
import Conformance.Proofs.Report.Account
/-!
Watched validation. A report says what became of every constraint, but not which rules looked at which
instances. So validation is run here with a record: it tells with what the rule of a constraint was entered,
and what parts the sub-schemas were asked about. To be watched changes nothing (`Schema.result_watch`). What
is recorded for a schema comes from the constraints that validation reaches, and each of these enters its
rule only if its guard lets the instance in (`Schema.mem_watch`). `Schema.Enters` follows the record through
the schemas that are asked.
-/

namespace Conformance

open Handover (spread toBranches toEntry?)

/-- Something that happens in the course of a validation. -/
inductive Event where
  /-- The rule of a constraint is entered with an instance. -/
  | entered (constraint : String) (subject : Value)
  /-- A rule asks a sub-schema about a part of the instance. -/
  | asked (part : Subschema) (subject : Value)

/-- A result, and what happened on the way to it, in order. -/
structure Watched (α : Type) where
  result : α
  record : List Event

namespace Watched

variable {α β : Type}

instance : Monad Watched where
  pure result := ⟨result, []⟩
  bind first next := ⟨(next first.result).result, first.record ++ (next first.result).record⟩

@[simp]
theorem result_pure (result : α) : (pure result : Watched α).result = result := rfl

@[simp]
theorem record_pure (result : α) : (pure result : Watched α).record = [] := rfl

@[simp]
theorem result_bind (first : Watched α) (next : α → Watched β) :
    (first >>= next).result = (next first.result).result := rfl

@[simp]
theorem record_bind (first : Watched α) (next : α → Watched β) :
    (first >>= next).record = first.record ++ (next first.result).record := rfl

/-- Notes that something happens. -/
def note (event : Event) : Watched Unit := ⟨(), [event]⟩

/-- Runs every test. -/
def outcomes : List (Watched Bool) → Watched (List Bool)
  | [] => pure []
  | test :: tests => do
    let outcome ← test
    let others ← outcomes tests
    pure (outcome :: others)

/-- Runs every test, and tells whether all pass. -/
def every (tests : List (Watched Bool)) : Watched Bool := do
  let outcomes ← outcomes tests
  pure (outcomes.all id)

/-- Runs tests until one passes, and tells whether one does. -/
def untilPass : List (Watched Bool) → Watched Bool
  | [] => pure false
  | test :: tests => do
    if ← test then pure true else untilPass tests

/-- A test of arrays, which nothing else passes. -/
def onArray (subject : Value) (test : List Value → Watched Bool) : Watched Bool :=
  match subject with
  | .array items => test items
  | _ => pure false

/-- A test of objects, which nothing else passes. -/
def onObject (subject : Value) (test : List (String × Value) → Watched Bool) : Watched Bool :=
  match subject with
  | .object entries => test entries
  | _ => pure false

theorem result_outcomes (tests : List (Watched Bool)) :
    (outcomes tests).result = tests.map Watched.result := by
  induction tests with
  | nil => rfl
  | cons test tests ih => exact congrArg (List.cons test.result) ih

theorem result_every (tests : List (Watched Bool)) :
    (every tests).result = tests.all Watched.result := by
  unfold every
  rw [result_bind, result_outcomes, result_pure, List.all_map]
  rfl

theorem result_untilPass (tests : List (Watched Bool)) :
    (untilPass tests).result = tests.any Watched.result := by
  induction tests with
  | nil => rfl
  | cons test tests ih =>
      unfold untilPass
      cases passed : test.result <;> simp [passed, ih]

/-- Whether nothing happens but that some sub-schemas are asked. -/
def AsksOnly (parts : List Subschema) (watched : Watched α) : Prop :=
  ∀ event ∈ watched.record, ∃ part ∈ parts, ∃ subject, event = .asked part subject

section

variable {parts : List Subschema} {tests : List (Watched Bool)} {subject : Value}

theorem asksOnly_pure (result : α) : (pure result : Watched α).AsksOnly parts :=
  List.forall_mem_nil _

theorem AsksOnly.bind {first : Watched α} {next : α → Watched β} (asks : first.AsksOnly parts)
    (others : (next first.result).AsksOnly parts) : (first >>= next).AsksOnly parts :=
  List.forall_mem_append.mpr ⟨asks, others⟩

theorem asksOnly_outcomes (each : ∀ test ∈ tests, test.AsksOnly parts) :
    (outcomes tests).AsksOnly parts := by
  induction tests with
  | nil => exact asksOnly_pure _
  | cons test tests ih =>
      obtain ⟨here, others⟩ := List.forall_mem_cons.mp each
      exact here.bind ((ih others).bind (asksOnly_pure _))

theorem asksOnly_every (each : ∀ test ∈ tests, test.AsksOnly parts) : (every tests).AsksOnly parts :=
  (asksOnly_outcomes each).bind (asksOnly_pure _)

theorem asksOnly_untilPass (each : ∀ test ∈ tests, test.AsksOnly parts) :
    (untilPass tests).AsksOnly parts := by
  induction tests with
  | nil => exact asksOnly_pure _
  | cons test tests ih =>
      obtain ⟨here, others⟩ := List.forall_mem_cons.mp each
      refine here.bind ?_
      split
      · exact asksOnly_pure _
      · exact ih others

theorem asksOnly_onArray {test : List Value → Watched Bool}
    (each : ∀ items, (test items).AsksOnly parts) : (onArray subject test).AsksOnly parts := by
  unfold onArray
  split
  · exact each _
  · exact asksOnly_pure _

theorem asksOnly_onObject {test : List (String × Value) → Watched Bool}
    (each : ∀ entries, (test entries).AsksOnly parts) : (onObject subject test).AsksOnly parts := by
  unfold onObject
  split
  · exact each _
  · exact asksOnly_pure _

end

end Watched

open Watched (note outcomes every untilPass onArray onObject)

/-- Asks a sub-schema about a part of an instance. -/
def Subschema.ask (isPartial : Bool) (subject : Value) (part : Subschema) : Watched Bool :=
  ⟨part.passes isPartial subject, [.asked part subject]⟩

/-- Asks every sub-schema that a part is handed to. -/
def Handover.askAll (isPartial : Bool) (handovers : List Handover) : Watched Bool :=
  every (handovers.map fun handover => handover.part.ask isPartial handover.subject)

open Handover (askAll)

/-- What a dependency does on an entry that is present. -/
def Dependency.watch (isPartial : Bool) (entries : List (String × Value)) : Dependency → Watched Bool
  | .peers names => pure (isPartial || (Check.missing entries names).isEmpty)
  | .whole part => part.ask isPartial (.object entries)

/-- What a rule does with an instance. The branches of a choice are asked in turn, up to the first that
passes if one is enough. -/
def Rule.watch (isPartial : Bool) (subject : Value) : Rule → Watched Bool
  | .check rule => pure (rule.violation? isPartial subject).isNone
  | .items positional rest => onArray subject fun items =>
    if items.length < positional.length then pure false
    else askAll isPartial (items.mapIdx fun position item =>
      ⟨.index position, positional[position]?.getD rest, item⟩)
  | .contains part => onArray subject fun items => untilPass (items.map (part.ask isPartial ·))
  | .entries listed => onObject subject fun entries =>
    askAll isPartial (listed.filterMap fun choice => toEntry? entries choice.1 choice.2)
  | .patternEntries listed => onObject subject fun entries =>
    askAll isPartial ((Table.names entries).flatMap fun name =>
      (listed.filter fun choice => choice.1.isMatch name).filterMap fun choice =>
        toEntry? entries name choice.2)
  | .additionalEntries listed patterns part => onObject subject fun entries =>
    askAll isPartial (((Table.names entries).filter
      (Behaviour.isAdditional listed patterns)).filterMap fun name => toEntry? entries name part)
  | .dependencies demands =>
    if demands.isEmpty then pure true
    else onObject subject fun entries =>
      every ((demands.filter fun demand => Table.has entries demand.1).map fun demand =>
        demand.2.watch isPartial entries)
  | .entryNames part => onObject subject fun entries =>
    askAll isPartial ((Table.names entries).map fun name => ⟨.key name, part, .string name⟩)
  | .allOf branches => askAll isPartial (toBranches branches subject)
  | .anyOf branches => untilPass (branches.map (·.ask isPartial subject))
  | .oneOf branches => do
    let outcomes ← outcomes (branches.map (·.ask isPartial subject))
    pure (outcomes.count true == 1)
  | .negation part => do
    let passed ← part.ask isPartial subject
    pure !passed
  | .conditional condition positive negative => do
    if ← condition.ask isPartial subject then
      askAll isPartial (positive.toList.map fun part => ⟨.label "then", part, subject⟩)
    else askAll isPartial (negative.toList.map fun part => ⟨.label "else", part, subject⟩)
  | .apply part => part.ask isPartial subject

/-- Enters the rule of a constraint. -/
def Rule.enter (name : String) (isPartial : Bool) (subject : Value) (rule : Rule) : Watched Bool := do
  note (.entered name subject)
  rule.watch isPartial subject

namespace Bound

/-- What a constraint does with an instance. One that does not apply to it does not enter its rule. -/
def watch (isPartial : Bool) (subject : Value) : Bound → Watched Bool
  | .mk name _ none rule => rule.enter name isPartial subject
  | .mk name _ (some guard) rule =>
    if guard.applicable.contains subject.kind then rule.enter name isPartial subject
    else pure !guard.strict

/-- Runs constraints in turn, up to the first terminal one that fails. -/
def watchAll (isPartial : Bool) (subject : Value) : List Bound → Watched Bool
  | [] => pure true
  | bound :: rest => do
    let passed ← bound.watch isPartial subject
    if bound.terminal && !passed then pure false
    else do
      let others ← watchAll isPartial subject rest
      pure (passed && others)

end Bound

/-- What validation does with an instance. -/
def Schema.watch (isPartial : Bool) (subject : Value) (schema : Schema) : Watched Bool :=
  Bound.watchAll isPartial subject schema.constraints

/-- Whether the validation of an instance enters the rule of a constraint with a value: a constraint of the
schema itself, or of a schema that is asked about a part. -/
inductive Schema.Enters (isPartial : Bool) : Schema → Value → String → Value → Prop
  | here {schema : Schema} {subject part : Value} {name : String}
      (entered : .entered name part ∈ (schema.watch isPartial subject).record) :
      Enters isPartial schema subject name part
  | inside {schema inner : Schema} {subject asked part : Value} {name : String}
      (asks : .asked (.schema inner) asked ∈ (schema.watch isPartial subject).record)
      (enters : Enters isPartial inner asked name part) : Enters isPartial schema subject name part

/-- The rules that validation enters within some levels of schemas, in order, and with what. -/
def Schema.enteredWithin (isPartial : Bool) : Nat → Value → Schema → List (String × Value)
  | 0, _, _ => []
  | levels + 1, subject, schema =>
    (schema.watch isPartial subject).record.flatMap fun event =>
      match event with
      | .entered name part => [(name, part)]
      | .asked (.schema inner) part => inner.enteredWithin isPartial levels part
      | .asked _ _ => []

section

variable {isPartial : Bool} {subject : Value}

namespace Handover

theorem isEmpty_spread (handovers : List Handover) : (spread isPartial handovers).isEmpty =
    handovers.all fun handover => handover.part.passes isPartial handover.subject := by
  unfold spread
  rw [Bool.eq_iff_iff, List.isEmpty_iff, List.flatMap_eq_nil_iff, List.all_eq_true]
  exact forall₂_congr fun handover _ => handover.leaves_eq_nil

theorem result_askAll (handovers : List Handover) :
    (askAll isPartial handovers).result = (spread isPartial handovers).isEmpty := by
  unfold askAll
  rw [Watched.result_every, List.all_map, isEmpty_spread]
  rfl

/-- Parts are handed to the sub-schemas that a rule has for them. -/
theorem part_mem_items (positional : List Subschema) (rest : Subschema) (items : List Value) :
    ∀ handover ∈ items.mapIdx fun position item =>
      (⟨.index position, positional[position]?.getD rest, item⟩ : Handover),
        handover.part ∈ positional ++ [rest] := by
  intro handover member
  obtain ⟨position, _, rfl⟩ := List.mem_mapIdx.mp member
  dsimp only
  cases found : positional[position]? with
  | none => exact List.mem_append_right _ List.mem_cons_self
  | some part => exact List.mem_append_left _ (List.mem_of_getElem? found)

theorem part_mem_toBranches (branches : List Subschema) (subject : Value) :
    ∀ handover ∈ toBranches branches subject, handover.part ∈ branches := by
  intro handover member
  obtain ⟨position, bound, rfl⟩ := List.mem_mapIdx.mp member
  exact List.getElem_mem bound

theorem part_of_handed {entries : List (String × Value)} {name : String} {part : Subschema}
    {handover : Handover} (handed : toEntry? entries name part = some handover) :
    handover.part = part := by
  obtain ⟨value, _, rfl⟩ := Option.map_eq_some_iff.mp handed
  rfl

theorem part_mem_entries (listed : List (String × Subschema)) (entries : List (String × Value)) :
    ∀ handover ∈ listed.filterMap fun choice => toEntry? entries choice.1 choice.2,
      handover.part ∈ listed.map Prod.snd := by
  intro handover member
  obtain ⟨choice, included, handed⟩ := List.mem_filterMap.mp member
  rw [part_of_handed handed]
  exact List.mem_map_of_mem included

theorem part_mem_patternEntries (listed : List (Pattern × Subschema))
    (entries : List (String × Value)) :
    ∀ handover ∈ (Table.names entries).flatMap fun name =>
      (listed.filter fun choice => choice.1.isMatch name).filterMap fun choice =>
        toEntry? entries name choice.2, handover.part ∈ listed.map Prod.snd := by
  intro handover member
  obtain ⟨name, _, inside⟩ := List.mem_flatMap.mp member
  obtain ⟨choice, selected, handed⟩ := List.mem_filterMap.mp inside
  rw [part_of_handed handed]
  exact List.mem_map_of_mem (List.mem_filter.mp selected).1

theorem part_mem_namedEntries (part : Subschema) (names : List String)
    (entries : List (String × Value)) :
    ∀ handover ∈ names.filterMap fun name => toEntry? entries name part,
      handover.part ∈ [part] := by
  intro handover member
  obtain ⟨name, _, handed⟩ := List.mem_filterMap.mp member
  exact List.mem_singleton.mpr (part_of_handed handed)

end Handover

theorem Subschema.asksOnly_ask {part : Subschema} {parts : List Subschema} (member : part ∈ parts) :
    (part.ask isPartial subject).AsksOnly parts :=
  List.forall_mem_singleton.mpr ⟨part, member, subject, rfl⟩

theorem Handover.asksOnly_askAll {parts : List Subschema} {handovers : List Handover}
    (each : ∀ handover ∈ handovers, handover.part ∈ parts) :
    (askAll isPartial handovers).AsksOnly parts :=
  Watched.asksOnly_every (List.forall_mem_map.mpr fun handover member =>
    Subschema.asksOnly_ask (each handover member))

theorem Dependency.asksOnly_watch (dependency : Dependency) {entries : List (String × Value)}
    {parts : List Subschema} (included : ∀ part ∈ dependency.subschemas, part ∈ parts) :
    (dependency.watch isPartial entries).AsksOnly parts := by
  cases dependency with
  | peers names => exact Watched.asksOnly_pure _
  | whole part => exact Subschema.asksOnly_ask (included part List.mem_cons_self)

namespace Watched

theorem result_onArray {test : List Value → Watched Bool} {leaves : List Value → List Leaf}
    (same : ∀ items, (test items).result = (leaves items).isEmpty) :
    (onArray subject test).result = (Behaviour.onArray subject leaves).isEmpty := by
  cases subject with
  | array items => exact same items
  | _ => rfl

theorem result_onObject {test : List (String × Value) → Watched Bool}
    {leaves : List (String × Value) → List Leaf}
    (same : ∀ entries, (test entries).result = (leaves entries).isEmpty) :
    (onObject subject test).result = (Behaviour.onObject subject leaves).isEmpty := by
  cases subject with
  | object entries => exact same entries
  | _ => rfl

end Watched

open Watched (result_onArray result_onObject)

theorem Behaviour.isEmpty_ownLeaves (test : Bool) (cause : Cause) :
    (ownLeaves (if test = true then none else some cause)).isEmpty = test := by
  cases test <;> rfl

theorem Subschema.isEmpty_leaves (part : Subschema) :
    (part.leaves isPartial subject).isEmpty = part.passes isPartial subject := by
  rw [← leaves_behaviour, Behaviour.isEmpty_leaves, accepts_behaviour]

theorem Dependency.result_watch (entries : List (String × Value)) (key : String)
    (dependency : Dependency) : (dependency.watch isPartial entries).result =
      (dependency.leaves isPartial entries key).isEmpty := by
  cases dependency with
  | peers names => exact (Behaviour.isEmpty_ownLeaves _ _).symm
  | whole part => exact part.isEmpty_leaves.symm

namespace Rule

theorem result_watch_dependencies (demands : List (String × Dependency)) :
    ((Rule.dependencies demands).watch isPartial subject).result =
      ((Rule.dependencies demands).leaves isPartial subject).isEmpty := by
  dsimp only [watch, leaves]
  split
  · rfl
  · refine result_onObject fun entries => ?_
    rw [Watched.result_every, List.all_map, Bool.eq_iff_iff, List.all_eq_true, List.isEmpty_iff,
      List.flatMap_eq_nil_iff]
    refine forall₂_congr fun demand _ => ?_
    rw [List.map_eq_nil_iff, ← List.isEmpty_iff, ← demand.2.result_watch]
    rfl

/-- A rule that is watched lets the same instances pass. -/
theorem result_watch (rule : Rule) :
    (rule.watch isPartial subject).result = rule.behaviour.accepts isPartial subject := by
  -- All but the choices are told by their leaves, whose lists of parts are the same.
  have ofLeaves {rule : Rule} (branched : rule.HasBranches)
      (same : (rule.watch isPartial subject).result = (rule.leaves isPartial subject).isEmpty) :
      (rule.watch isPartial subject).result = rule.behaviour.accepts isPartial subject := by
    rw [same, ← leaves_behaviour branched, Behaviour.isEmpty_leaves]
  cases rule with
  | check check =>
      refine ofLeaves trivial ?_
      dsimp only [watch, leaves]
      cases check.violation? isPartial subject <;> rfl
  | items positional rest =>
      refine ofLeaves trivial (result_onArray fun items => ?_)
      split
      · rfl
      · exact Handover.result_askAll _
  | contains part =>
      refine ofLeaves trivial (result_onArray fun items => ?_)
      rw [Watched.result_untilPass, List.any_map, Behaviour.isEmpty_ownLeaves]
      rfl
  | entries listed => exact ofLeaves trivial (result_onObject fun entries => Handover.result_askAll _)
  | patternEntries listed =>
      exact ofLeaves trivial (result_onObject fun entries => Handover.result_askAll _)
  | additionalEntries listed patterns part =>
      exact ofLeaves trivial (result_onObject fun entries => Handover.result_askAll _)
  | dependencies demands => exact ofLeaves trivial (result_watch_dependencies demands)
  | entryNames part => exact ofLeaves trivial (result_onObject fun entries => Handover.result_askAll _)
  | allOf branches => exact ofLeaves trivial (Handover.result_askAll _)
  | anyOf branches =>
      rw [Rule.behaviour, behavioursOf_eq_map, Bool.eq_iff_iff, Behaviour.accepts_anyOf,
        ← List.any_eq_true, any_accepts]
      dsimp only [watch]
      rw [Watched.result_untilPass, List.any_map]
      rfl
  | oneOf branches =>
      rw [Rule.behaviour, behavioursOf_eq_map, Bool.eq_iff_iff, Behaviour.accepts_oneOf,
        ← Behaviour.countP_eq_one, List.countP_map]
      dsimp only [watch]
      rw [Watched.result_bind, Watched.result_outcomes, Watched.result_pure, beq_iff_eq, List.map_map,
        List.count_eq_countP, List.countP_map]
      refine iff_of_eq (congrArg (· = 1) (List.countP_congr fun part _ => ?_))
      change (part.passes isPartial subject == true) = true ↔ part.behaviour.accepts isPartial subject = true
      rw [beq_iff_eq, part.accepts_behaviour]
  | negation part =>
      refine ofLeaves trivial ?_
      change (!part.passes isPartial subject) = _
      dsimp only [leaves]
      cases part.passes isPartial subject <;> rfl
  | conditional condition positive negative =>
      refine ofLeaves trivial ?_
      dsimp only [watch, leaves]
      rw [Watched.result_bind]
      change (if condition.passes isPartial subject = true then _ else _ : Watched Bool).result = _
      split
      · exact Handover.result_askAll _
      · exact Handover.result_askAll _
  | apply part =>
      refine ofLeaves trivial ?_
      dsimp only [leaves]
      rw [Handover.isEmpty_spread, List.all_cons, List.all_nil, Bool.and_true]
      rfl

/-- A rule asks no sub-schemas but its own. -/
theorem asksOnly_watch (rule : Rule) : (rule.watch isPartial subject).AsksOnly rule.subschemas := by
  cases rule with
  | check check => exact Watched.asksOnly_pure _
  | items positional rest =>
      refine Watched.asksOnly_onArray fun items => ?_
      split
      · exact Watched.asksOnly_pure _
      · exact Handover.asksOnly_askAll (Handover.part_mem_items positional rest items)
  | contains part =>
      refine Watched.asksOnly_onArray fun items => Watched.asksOnly_untilPass ?_
      exact List.forall_mem_map.mpr fun item _ => Subschema.asksOnly_ask List.mem_cons_self
  | entries listed =>
      exact Watched.asksOnly_onObject fun entries =>
        Handover.asksOnly_askAll (Handover.part_mem_entries listed entries)
  | patternEntries listed =>
      exact Watched.asksOnly_onObject fun entries =>
        Handover.asksOnly_askAll (Handover.part_mem_patternEntries listed entries)
  | additionalEntries listed patterns part =>
      exact Watched.asksOnly_onObject fun entries =>
        Handover.asksOnly_askAll (Handover.part_mem_namedEntries part _ entries)
  | dependencies demands =>
      dsimp only [watch]
      split
      · exact Watched.asksOnly_pure _
      · refine Watched.asksOnly_onObject fun entries => Watched.asksOnly_every ?_
        refine List.forall_mem_map.mpr fun demand selected => ?_
        exact demand.2.asksOnly_watch fun part inside =>
          List.mem_flatMap.mpr ⟨demand, (List.mem_filter.mp selected).1, inside⟩
  | entryNames part =>
      refine Watched.asksOnly_onObject fun entries => Handover.asksOnly_askAll ?_
      exact List.forall_mem_map.mpr fun name _ => List.mem_cons_self
  | allOf branches => exact Handover.asksOnly_askAll (Handover.part_mem_toBranches branches subject)
  | anyOf branches =>
      refine Watched.asksOnly_untilPass ?_
      exact List.forall_mem_map.mpr fun part member => Subschema.asksOnly_ask member
  | oneOf branches =>
      refine Watched.AsksOnly.bind (Watched.asksOnly_outcomes ?_) (Watched.asksOnly_pure _)
      exact List.forall_mem_map.mpr fun part member => Subschema.asksOnly_ask member
  | negation part =>
      exact (Subschema.asksOnly_ask List.mem_cons_self).bind (Watched.asksOnly_pure _)
  | conditional condition positive negative =>
      refine (Subschema.asksOnly_ask List.mem_cons_self).bind ?_
      split
      · refine Handover.asksOnly_askAll (List.forall_mem_map.mpr fun part member => ?_)
        exact List.mem_cons_of_mem _ (List.mem_append_left _ member)
      · refine Handover.asksOnly_askAll (List.forall_mem_map.mpr fun part member => ?_)
        exact List.mem_cons_of_mem _ (List.mem_append_right _ member)
  | apply part => exact Subschema.asksOnly_ask List.mem_cons_self

end Rule

namespace Bound

theorem result_watch (bound : Bound) :
    (bound.watch isPartial subject).result = bound.step.behaviour.accepts isPartial subject := by
  obtain ⟨name, terminal, _ | guard, rule⟩ := bound
  · exact rule.result_watch
  · rw [Bool.eq_iff_iff, step, Behaviour.accepts_guarded]
    dsimp only [watch]
    by_cases applies : subject.kind ∈ guard.applicable
    · rw [if_pos applies, if_pos (show guard.applicable.contains subject.kind = true from applies),
        ← rule.result_watch]
      rfl
    · rw [if_neg applies, if_neg (show ¬ guard.applicable.contains subject.kind = true from applies),
        Watched.result_pure, Bool.not_eq_true']

theorem result_watchAll (bounds : List Bound) : (watchAll isPartial subject bounds).result =
    bounds.all fun bound => bound.step.behaviour.accepts isPartial subject := by
  induction bounds with
  | nil => rfl
  | cons bound rest ih =>
      dsimp only [watchAll]
      rw [Watched.result_bind, bound.result_watch, List.all_cons]
      cases bound.step.behaviour.accepts isPartial subject with
      | true =>
          rw [Bool.not_true, Bool.and_false, if_neg Bool.false_ne_true, Watched.result_bind, ih]
          rfl
      | false => cases bound.terminal <;> rfl

/-- What is recorded is recorded by the constraints that are reached. -/
theorem record_watchAll {bounds : List Bound}
    (branched : ∀ bound ∈ bounds, bound.rule.HasBranches) :
    (watchAll isPartial subject bounds).record =
      (reached isPartial subject bounds).flatMap fun bound => (bound.watch isPartial subject).record := by
  induction bounds with
  | nil => rfl
  | cons bound rest ih =>
      obtain ⟨here, others⟩ := List.forall_mem_cons.mp branched
      dsimp only [watchAll, reached]
      rw [Watched.record_bind, bound.result_watch, accepts_step here, List.flatMap_cons]
      split
      · rfl
      · rw [Watched.record_bind, Watched.record_pure, List.append_nil, ih others]

/-- Whether a constraint's rule is entered with instances of a kind. -/
def LetsIn (kind : Kind) (bound : Bound) : Prop :=
  ∀ guard, bound.restriction = some guard → kind ∈ guard.applicable

theorem mem_watch {bound : Bound} {event : Event}
    (happens : event ∈ (bound.watch isPartial subject).record) : bound.LetsIn subject.kind ∧
      (event = .entered bound.name subject ∨
        ∃ part ∈ bound.rule.subschemas, ∃ value, event = .asked part value) := by
  have enters (name : String) (rule : Rule)
      (happens : event ∈ (rule.enter name isPartial subject).record) :
      event = .entered name subject ∨
        ∃ part ∈ rule.subschemas, ∃ value, event = .asked part value := by
    rcases List.mem_append.mp happens with here | inside
    · exact .inl (List.mem_singleton.mp here)
    · exact .inr (rule.asksOnly_watch event inside)
  obtain ⟨name, terminal, _ | guard, rule⟩ := bound
  · exact ⟨fun _ absent => (nomatch absent), enters name rule happens⟩
  · dsimp only [watch] at happens
    split at happens
    · rename_i applies
      refine ⟨fun _ same => ?_, enters name rule happens⟩
      cases same
      exact applies
    · cases happens

end Bound

namespace Schema

/-- To be watched changes nothing. -/
theorem result_watch (schema : Schema) (isPartial : Bool) (subject : Value) :
    (schema.watch isPartial subject).result = (schema.validate subject isPartial).success := by
  rw [Bool.eq_iff_iff, success_iff, accepts_iff]
  unfold watch
  rw [Bound.result_watchAll, List.all_eq_true]

/-- What is recorded for a schema is done by constraints that validation reaches, and whose rules are
entered with the instance. -/
theorem mem_watch {schema : Schema} (branched : ∀ bound ∈ schema.constraints, bound.rule.HasBranches)
    {event : Event} (happens : event ∈ (schema.watch isPartial subject).record) :
    ∃ bound ∈ Bound.reached isPartial subject schema.constraints, bound.LetsIn subject.kind ∧
      (event = .entered bound.name subject ∨
        ∃ part ∈ bound.rule.subschemas, ∃ value, event = .asked part value) := by
  unfold watch at happens
  rw [Bound.record_watchAll branched] at happens
  obtain ⟨bound, member, inside⟩ := List.mem_flatMap.mp happens
  exact ⟨bound, member, Bound.mem_watch inside⟩

theorem enters_iff {schema : Schema} {name : String} {part : Value} :
    schema.Enters isPartial subject name part ↔
      ∃ levels, (name, part) ∈ schema.enteredWithin isPartial levels subject := by
  constructor
  · intro enters
    induction enters with
    | here entered => exact ⟨1, List.mem_flatMap.mpr ⟨_, entered, List.mem_singleton.mpr rfl⟩⟩
    | inside asks enters ih =>
        obtain ⟨levels, within⟩ := ih
        exact ⟨levels + 1, List.mem_flatMap.mpr ⟨_, asks, within⟩⟩
  · rintro ⟨levels, within⟩
    induction levels generalizing schema subject with
    | zero => cases within
    | succ levels ih =>
        obtain ⟨event, happens, here⟩ := List.mem_flatMap.mp within
        split at here
        · cases List.mem_singleton.mp here
          exact .here happens
        · exact .inside happens (ih here)
        · cases here

/-- A rule is entered by a constraint of the schema itself, with the whole instance, or in a sub-schema of
such a constraint's rule. -/
theorem Enters.exists_bound {schema : Schema} {name : String} {part : Value}
    (enters : schema.Enters isPartial subject name part)
    (branched : ∀ bound ∈ schema.constraints, bound.rule.HasBranches) :
    ∃ bound ∈ Bound.reached isPartial subject schema.constraints, bound.LetsIn subject.kind ∧
      (name = bound.name ∧ part = subject ∨
        ∃ inner, .schema inner ∈ bound.rule.subschemas ∧
          ∃ asked, inner.Enters isPartial asked name part) := by
  cases enters with
  | here entered =>
      obtain ⟨bound, member, letsIn, own | ⟨_, _, _, other⟩⟩ := mem_watch branched entered
      · cases own
        exact ⟨bound, member, letsIn, .inl ⟨rfl, rfl⟩⟩
      · cases other
  | inside asks enters =>
      obtain ⟨bound, member, letsIn, other | ⟨_, included, _, own⟩⟩ := mem_watch branched asks
      · cases other
      · cases own
        exact ⟨bound, member, letsIn, .inr ⟨_, included, _, enters⟩⟩

end Schema

end

end Conformance
