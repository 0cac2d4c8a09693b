import Conformance.Proofs.Compilation.Postcondition
import Conformance.Proofs.Satisfaction.Relation
/-!
The sub-schemas of rules. What is true of the schemas that a script gets, for the documents inside and
for names, is true of all sub-schemas in the rule that it ends with (`Context.yields_subschemas_rule`,
and `Context.ensures_subschemas_rule` without names).
-/

namespace Conformance

/-- Whether something is true of the schema at the position of a sub-schema, if one stands there. -/
def Subschema.Holds (good : Schema → Prop) (part : Subschema) : Prop :=
  ∀ schema, part = .schema schema → good schema

theorem Subschema.Holds.behaviour {good : Behaviour → Prop} (accept : good .pass)
    (reject : good .refuse) {part : Subschema}
    (holds : part.Holds fun schema => good schema.behaviour) : good part.behaviour := by
  cases part with
  | accept => exact accept
  | reject => exact reject
  | schema schema => exact holds schema rfl

section Behaviours

variable {good : Behaviour → Prop}

/-- What holds of the behaviours of sub-schemas holds of the behaviours that a rule is put together of. -/
theorem forall_behavioursOf {branches : List Subschema}
    (each : ∀ part ∈ branches, good part.behaviour) : ∀ behaviour ∈ behavioursOf branches,
      good behaviour := by
  rw [behavioursOf_eq_map]
  exact List.forall_mem_map.mpr each

theorem forall_entryBehavioursOf {listed : List (String × Subschema)}
    (each : ∀ part ∈ listed.map Prod.snd, good part.behaviour) :
    ∀ choice ∈ entryBehavioursOf listed, good choice.2 := by
  rw [entryBehavioursOf_eq_map]
  exact List.forall_mem_map.mpr fun entry member => each _ (List.mem_map_of_mem member)

theorem forall_patternBehavioursOf {listed : List (Pattern × Subschema)}
    (each : ∀ part ∈ listed.map Prod.snd, good part.behaviour) :
    ∀ choice ∈ patternBehavioursOf listed, good choice.2 := by
  rw [patternBehavioursOf_eq_map]
  exact List.forall_mem_map.mpr fun entry member => each _ (List.mem_map_of_mem member)

theorem forall_behaviourOf? {choice : Option Subschema}
    (each : ∀ part ∈ choice.toList, good part.behaviour) :
    ∀ behaviour, behaviourOf? choice = some behaviour → good behaviour := by
  intro behaviour found
  rw [behaviourOf?_eq_map] at found
  obtain ⟨part, rfl, rfl⟩ := Option.map_eq_some_iff.mp found
  exact each part List.mem_cons_self

end Behaviours

namespace Dependency

def subschemas : Dependency → List Subschema
  | .peers _ => []
  | .whole schema => [schema]

end Dependency

namespace Rule

/-- The sub-schemas that a rule delegates to. -/
def subschemas : Rule → List Subschema
  | .check _ => []
  | .items positional rest => positional ++ [rest]
  | .contains item => [item]
  | .entries listed => listed.map Prod.snd
  | .patternEntries listed => listed.map Prod.snd
  | .additionalEntries _ _ entry => [entry]
  | .dependencies demands => demands.flatMap fun demand => demand.2.subschemas
  | .entryNames name => [name]
  | .allOf branches => branches
  | .anyOf branches => branches
  | .oneOf branches => branches
  | .negation excluded => [excluded]
  | .conditional condition positive negative => condition :: (positive.toList ++ negative.toList)
  | .apply whole => [whole]

/-- Whether something is true of all schemas that a rule delegates to. -/
def BuiltOf (good : Schema → Prop) (rule : Rule) : Prop := ∀ part ∈ rule.subschemas, part.Holds good

/-- Whether something is true of all behaviours that a rule delegates to. -/
def MadeOf (good : Behaviour → Prop) (rule : Rule) : Prop :=
  ∀ schema ∈ rule.subschemas, good schema.behaviour

theorem BuiltOf.madeOf {rule : Rule} {good : Behaviour → Prop} (accept : good .pass)
    (reject : good .refuse) (built : rule.BuiltOf fun schema => good schema.behaviour) :
    rule.MadeOf good :=
  fun part member => (built part member).behaviour accept reject

end Rule

namespace Context

section

variable (context : Context) {good : Schema → Prop}

/-- Whether a script ends well if all the schemas that it gets are good. -/
abbrev EndsBuilt {α : Type} (good : Schema → Prop) (post : α → Prop) (script : Binding α) : Prop :=
  script.Yields (fun _ => good) (fun _ => good) post

theorem yields_subschemas_subschema (value : Value) :
    EndsBuilt good (fun part => part.Holds good) (context.subschema value) := by
  unfold subschema
  split
  · exact fun schema same => nomatch same
  · exact fun schema same => nomatch same
  · rintro schema isGood _ ⟨⟩
    exact isGood
  · rintro schema isGood _ ⟨⟩
    exact isGood
  · trivial

theorem yields_subschemas_ofItems (items : List Value) :
    EndsBuilt good (fun parts => ∀ part ∈ parts, part.Holds good) (context.subschemasOfItems items) := by
  induction items with
  | nil => exact List.forall_mem_nil _
  | cons item items ih =>
      refine (context.yields_subschemas_subschema item).bind fun part first => ?_
      exact ih.bind fun parts others => List.forall_mem_cons.mpr ⟨first, others⟩

theorem yields_subschemas_list (value : Value) :
    EndsBuilt good (fun parts => ∀ part ∈ parts, part.Holds good) (context.subschemas value) := by
  unfold Context.subschemas
  split
  · exact context.yields_subschemas_ofItems _
  · trivial

theorem yields_subschemas_ofEntries (entries : List (String × Value)) :
    EndsBuilt good (fun parts => Table.names parts = Table.names entries ∧
      ∀ part ∈ parts, part.2.Holds good) (context.subschemasOfEntries entries) := by
  induction entries with
  | nil => exact ⟨rfl, List.forall_mem_nil _⟩
  | cons entry entries ih =>
      refine (context.yields_subschemas_subschema entry.2).bind fun part first => ?_
      refine ih.bind fun parts ⟨names, others⟩ => ?_
      exact ⟨congrArg (List.cons entry.1) names, List.forall_mem_cons.mpr ⟨first, others⟩⟩

theorem yields_subschemas_table (value : Value) :
    EndsBuilt good (fun parts => Table.names parts = Table.names value.fields ∧
      ∀ part ∈ parts, part.2.Holds good) (context.subschemaTable value) := by
  unfold subschemaTable
  split
  · exact context.yields_subschemas_ofEntries _
  · trivial

theorem yields_subschemas_sibling (name : String) :
    EndsBuilt good (fun part? => ∀ part ∈ part?, part.Holds good) (context.siblingSubschema? name) := by
  unfold siblingSubschema?
  split
  · refine (context.yields_subschemas_subschema _).bind fun part isGood => ?_
    rintro _ ⟨⟩
    exact isGood
  · exact fun _ absent => nomatch absent

theorem yields_subschemas_dependency (key : String) (value : Value) :
    EndsBuilt good (fun demand => ∀ part ∈ demand.subschemas, part.Holds good)
      (context.dependency key value) := by
  unfold dependency
  split
  · exact (Binding.yields_trivial _).bind fun names _ => List.forall_mem_nil _
  · refine (context.yields_subschemas_subschema _).bind fun part isGood => ?_
    exact List.forall_mem_singleton.mpr isGood
  · refine (context.yields_subschemas_subschema _).bind fun part isGood => ?_
    exact List.forall_mem_singleton.mpr isGood
  · trivial

theorem yields_subschemas_dependencies (entries : List (String × Value)) :
    EndsBuilt good (fun demands => ∀ demand ∈ demands, ∀ part ∈ demand.2.subschemas, part.Holds good)
      (context.dependenciesOfEntries entries) := by
  induction entries with
  | nil => exact List.forall_mem_nil _
  | cons entry entries ih =>
      refine (context.yields_subschemas_dependency entry.1 entry.2).bind fun demand first => ?_
      exact ih.bind fun demands others => List.forall_mem_cons.mpr ⟨first, others⟩

theorem yields_subschemas_items (value : Value) :
    EndsBuilt good (fun rule => rule.BuiltOf good) (context.items value) := by
  unfold items
  split
  · refine (context.yields_subschemas_ofItems _).bind fun positional first => ?_
    refine (context.yields_subschemas_sibling _).bind fun rest? others => ?_
    refine List.forall_mem_append.mpr ⟨first, List.forall_mem_singleton.mpr ?_⟩
    cases rest? with
    | none =>
        intro schema same
        cases same
    | some rest => exact others rest rfl
  · refine (context.yields_subschemas_subschema _).bind fun rest isGood => ?_
    exact List.forall_mem_singleton.mpr isGood

theorem yields_subschemas_patternEntries (value : Value) :
    EndsBuilt good (fun rule => rule.BuiltOf good) (context.patternEntries value) := by
  refine (context.yields_subschemas_table value).bind fun parts ⟨_, each⟩ => ?_
  refine (Binding.yields_trivial _).bind fun patterns _ => ?_
  intro part member
  obtain ⟨choice, listed, rfl⟩ := List.mem_map.mp member
  obtain ⟨entry, included, same⟩ := List.mem_map.mp (List.of_mem_zip listed).2
  rw [← same]
  exact each entry included

theorem yields_subschemas_conditional (value : Value) :
    EndsBuilt good (fun rule? => ∀ rule, rule? = some rule → rule.BuiltOf good)
      (context.conditional value) := by
  refine (context.yields_subschemas_subschema value).bind fun condition first => ?_
  refine (context.yields_subschemas_sibling _).bind fun positive second => ?_
  refine (context.yields_subschemas_sibling _).bind fun negative third => ?_
  intro rule same
  split at same
  · cases same
  · cases same
    refine List.forall_mem_cons.mpr ⟨first, List.forall_mem_append.mpr ⟨?_, ?_⟩⟩
    · exact fun part member => second part (Option.mem_toList.mp member)
    · exact fun part member => third part (Option.mem_toList.mp member)

/-- All sub-schemas of a rule that is made of good schemas are good. -/
theorem yields_subschemas_rule (meaning : Meaning) (value : Value) :
    EndsBuilt good (fun rule? => ∀ rule, rule? = some rule → rule.BuiltOf good)
      (context.rule meaning value) := by
  have single {make : Subschema → Rule} (own : ∀ part, (make part).subschemas = [part]) :
      EndsBuilt good (fun rule? => ∀ rule, rule? = some rule → rule.BuiltOf good)
        (context.subschema value >>= fun part => pure (some (make part))) := by
    refine (context.yields_subschemas_subschema value).bind fun part isGood => ?_
    rintro rule ⟨⟩
    unfold Rule.BuiltOf
    rw [own]
    exact List.forall_mem_singleton.mpr isGood
  have list {make : List Subschema → Rule} (own : ∀ parts, (make parts).subschemas = parts) :
      EndsBuilt good (fun rule? => ∀ rule, rule? = some rule → rule.BuiltOf good)
        (context.subschemas value >>= fun parts => pure (some (make parts))) := by
    refine (context.yields_subschemas_list value).bind fun parts isGood => ?_
    rintro rule ⟨⟩
    unfold Rule.BuiltOf
    rw [own]
    exact isGood
  have whole {script : Binding Rule}
      (yields : EndsBuilt good (fun rule => rule.BuiltOf good) script) :
      EndsBuilt good (fun rule? => ∀ rule, rule? = some rule → rule.BuiltOf good)
        (some <$> script) := by
    refine yields.bind fun rule isGood => ?_
    rintro other ⟨⟩
    exact isGood
  unfold rule
  split
  · exact fun rule absent => nomatch absent
  · exact whole (context.yields_subschemas_items value)
  · exact single fun _ => rfl
  · refine (context.yields_subschemas_table value).bind fun parts ⟨_, each⟩ => ?_
    rintro rule ⟨⟩
    exact List.forall_mem_map.mpr each
  · exact whole (context.yields_subschemas_patternEntries value)
  · refine whole ?_
    refine (context.yields_subschemas_subschema value).bind fun entry isGood => ?_
    refine (Binding.yields_trivial _).bind fun patterns _ => ?_
    exact List.forall_mem_singleton.mpr isGood
  · refine whole ?_
    unfold dependencies
    split
    · refine (context.yields_subschemas_dependencies _).bind fun demands each => ?_
      intro part member
      obtain ⟨demand, listed, inside⟩ := List.mem_flatMap.mp member
      exact each demand listed part inside
    · trivial
  · exact single fun _ => rfl
  · exact list fun _ => rfl
  · exact list fun _ => rfl
  · exact list fun _ => rfl
  · exact single fun _ => rfl
  · exact context.yields_subschemas_conditional value
  · exact single fun _ => rfl
  · refine (Binding.yields_trivial _).bind fun check _ => ?_
    intro rule same
    obtain ⟨check, _, rfl⟩ := Option.map_eq_some_iff.mp same
    exact List.forall_mem_nil _

end

section

variable (context : Context) {good : Behaviour → Prop}

/-- Whether a script ends well if the schemas that it gets for the documents inside behave well. -/
abbrev EndsWith {α : Type} (good : Behaviour → Prop) (post : α → Prop) (script : Binding α) : Prop :=
  script.Ensures (fun _ schema => good schema.behaviour) post

variable (accept : good .pass) (reject : good .refuse)

include accept reject

theorem ensures_subschemas_subschema (value : Value) :
    EndsWith good (fun schema => good schema.behaviour) (context.subschema value) :=
  (context.yields_subschemas_subschema value).ensures.mono fun _ holds =>
    holds.behaviour accept reject

theorem ensures_subschemas_table (value : Value) :
    EndsWith good (fun schemas => Table.names schemas = Table.names value.fields ∧
      ∀ schema ∈ schemas, good schema.2.behaviour) (context.subschemaTable value) :=
  (context.yields_subschemas_table value).ensures.mono fun _ ⟨names, each⟩ =>
    ⟨names, fun schema member => (each schema member).behaviour accept reject⟩

/-- The same of what the sub-schemas do with instances, in documents that ask for no schema by name. -/
theorem ensures_subschemas_rule (meaning : Meaning) (value : Value) :
    EndsWith good (fun rule? => ∀ rule, rule? = some rule → rule.MadeOf good)
      (context.rule meaning value) :=
  (context.yields_subschemas_rule meaning value).ensures.mono fun _ built rule same part member =>
    (built rule same part member).behaviour accept reject

end

end Context

end Conformance
