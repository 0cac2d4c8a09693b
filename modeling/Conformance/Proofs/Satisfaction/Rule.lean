import Conformance.Proofs.Compilation.Postcondition
import Conformance.Proofs.Parallel
import Conformance.Proofs.Satisfaction.Check
/-!
Rules against the relations of their constraints. If every schema that a script gets for a document
inside lets pass what satisfies that document, then the rule that the script ends with lets pass what
its constraint asks for (`Context.ensures_rule`). Lists of sub-schemas stand in parallel to the values
that they were made of.
-/

namespace Conformance

theorem forall_entry_iff_of_parallel {β : Type} {results : List β}
    {entries : List (String × Value)} {related : String × Value → β → Prop} (parallel : List.Forall₂ related entries results)
    {asked : String → Value → Prop} {given : β → Prop}
    (agree : ∀ name value result, related (name, value) result → (given result ↔ asked name value)) :
    (∀ result ∈ results, given result) ↔
      ∀ name value, (name, value) ∈ entries → asked name value := by
  have whole : (∀ result ∈ results, given result) ↔ ∀ entry ∈ entries, asked entry.1 entry.2 :=
    forall_mem_iff_of_parallel parallel fun entry => agree entry.1 entry.2
  exact whole.trans Prod.forall

namespace Context

variable (context : Context)

/-- Whether a behaviour lets pass what satisfies a document. -/
def Agrees (document : Value) (behaviour : Behaviour) : Prop :=
  ∀ isPartial subject, behaviour.accepts isPartial subject = true ↔
    (context.reading isPartial).Satisfies document subject

/-- Whether a schema lets pass what satisfies a document. -/
def IsGood (document : Value) (schema : Schema) : Prop :=
  context.Agrees document schema.behaviour

/-- Whether an entry has the name of another, and its sub-schema lets pass what satisfies the value
of the other. -/
def AgreesAt (entry : String × Value) (result : String × Subschema) : Prop :=
  entry.1 = result.1 ∧ context.Agrees entry.2 result.2.behaviour

/-- Whether a dependency asks for what a value says. -/
def Demands (value : Value) : Dependency → Prop
  | .peers names => ∃ items, value = .array items ∧ ∀ name, name ∈ names ↔ .string name ∈ items
  | .whole schema => (∀ items, value ≠ .array items) ∧ context.Agrees value schema.behaviour

theorem ensures_subschema (value : Value) :
    (context.subschema value).Ensures context.IsGood fun schema =>
      context.Agrees value schema.behaviour := by
  unfold subschema
  split
  · intro isPartial subject
    rw [Reading.Satisfies]
    exact iff_of_true rfl rfl
  · intro isPartial subject
    rw [Reading.Satisfies]
    exact iff_of_false Bool.false_ne_true Bool.false_ne_true
  · trivial
  · exact fun schema good => good
  · trivial

theorem ensures_subschemasOfItems (values : List Value) :
    (context.subschemasOfItems values).Ensures context.IsGood
      (List.Forall₂ (fun value schema => context.Agrees value schema.behaviour) values) := by
  induction values with
  | nil => exact .nil
  | cons value values ih =>
      refine (ensures_subschema context value).bind fun schema first => ?_
      exact ih.bind fun schemas rest => .cons first rest

theorem ensures_subschemas (value : Value) :
    (context.subschemas value).Ensures context.IsGood
      (List.Forall₂ (fun value schema => context.Agrees value schema.behaviour) value.items) := by
  unfold subschemas
  split
  · exact ensures_subschemasOfItems context _
  · trivial

theorem ensures_subschemasOfEntries (entries : List (String × Value)) :
    (context.subschemasOfEntries entries).Ensures context.IsGood
      (List.Forall₂ context.AgreesAt entries) := by
  induction entries with
  | nil => exact .nil
  | cons entry entries ih =>
      refine (ensures_subschema context entry.2).bind fun schema first => ?_
      exact ih.bind fun schemas rest => .cons ⟨rfl, first⟩ rest

theorem ensures_subschemaTable (value : Value) :
    (context.subschemaTable value).Ensures context.IsGood
      (List.Forall₂ context.AgreesAt value.fields) := by
  unfold subschemaTable
  split
  · exact ensures_subschemasOfEntries context _
  · trivial

theorem ensures_siblingSubschema? (name : String) :
    (context.siblingSubschema? name).Ensures context.IsGood
      (Option.Rel (fun value schema => context.Agrees value schema.behaviour)
        (context.sibling? name)) := by
  unfold siblingSubschema?
  split
  · rename_i value found
    rw [found]
    exact (ensures_subschema context value).bind fun schema agrees => .some agrees
  · rename_i missing
    rw [missing]
    exact .none

theorem parallel_entryPatterns {sources : List String} {patterns : List Pattern}
    (read : context.entryPatterns sources = .ok patterns) :
    List.Forall₂ (fun source pattern => Pattern.ofSource source = .ok pattern) sources patterns := by
  induction sources generalizing patterns with
  | nil =>
      cases read
      exact .nil
  | cons source sources ih =>
      unfold entryPatterns at read
      split at read
      · rename_i pattern first
        obtain ⟨others, rest, rfl⟩ := exists_of_map_ok read
        refine .cons ?_ (ih rest)
        unfold entryPattern at first
        split at first
        · rename_i parsed
          cases first
          exact parsed
        · cases first
      · cases read

theorem ensures_dependency (key : String) (value : Value) :
    (context.dependency key value).Ensures context.IsGood (context.Demands value) := by
  unfold dependency
  split
  · rename_i items
    refine (Binding.ensures_ofExcept fun names read => ?_).bind fun names listed => listed
    exact ⟨items, rfl, mem_of_namesOfItems read⟩
  · refine (ensures_subschema context _).bind fun schema agrees => ⟨?_, agrees⟩
    intro items same
    cases same
  · refine (ensures_subschema context _).bind fun schema agrees => ⟨?_, agrees⟩
    intro items same
    cases same
  · trivial

theorem ensures_dependenciesOfEntries (entries : List (String × Value)) :
    (context.dependenciesOfEntries entries).Ensures context.IsGood
      (List.Forall₂ (fun entry demand => entry.1 = demand.1 ∧ context.Demands entry.2 demand.2)
        entries) := by
  induction entries with
  | nil => exact .nil
  | cons entry entries ih =>
      refine (ensures_dependency context entry.1 entry.2).bind fun demand first => ?_
      exact ih.bind fun demands rest => .cons ⟨rfl, first⟩ rest

variable {context} {value : Value} {isPartial : Bool} {subject : Value}

theorem accepts_of_rel {expected : Option Value} {schema? : Option Subschema}
    (agrees : Option.Rel (fun value schema => context.Agrees value schema.behaviour) expected schema?) :
    (∀ choice, schema?.map Subschema.behaviour = some choice →
      choice.accepts isPartial subject = true) ↔
      ∀ value, expected = some value → (context.reading isPartial).Satisfies value subject := by
  cases agrees with
  | none => simp
  | some agrees => simp [agrees isPartial subject]

/-- What stands for a missing sub-schema lets everything pass. -/
theorem accepts_getD_of_rel {expected : Option Value} {schema? : Option Subschema}
    (agrees : Option.Rel (fun value schema => context.Agrees value schema.behaviour) expected schema?) :
    (schema?.getD .accept).behaviour.accepts isPartial subject = true ↔
      ∀ value, expected = some value → (context.reading isPartial).Satisfies value subject := by
  rw [← accepts_of_rel agrees]
  cases schema? with
  | none => simp [Subschema.behaviour]
  | some schema => simp

/-- Of items by position, those beyond the listed schemas satisfy the sibling for the rest. -/
theorem interprets_items_positional {schemas : List Value} {positional : List Subschema}
    {rest : Option Subschema}
    (parallel : List.Forall₂ (fun value schema => context.Agrees value schema.behaviour) schemas
      positional)
    (others : Option.Rel (fun value schema => context.Agrees value schema.behaviour)
      (context.sibling? "additional_items") rest) :
    context.Interprets .items (.array schemas) (some (.items positional (rest.getD .accept))) := by
  intro isPartial
  refine ⟨trivial, fun subject => ?_⟩
  unfold Rule.behaviour
  rw [Behaviour.accepts_items, behavioursOf_eq_map, Reading.Upholds]
  refine exists_congr fun items => and_congr_right fun _ => and_congr ?_ ?_
  · rw [List.length_map, parallel.length_eq]
  · refine forall_congr' fun position => forall_congr' fun item => imp_congr_right fun _ => ?_
    have pair := rel_getElem?_of_parallel parallel position
    rw [List.getElem?_map]
    generalize schemas[position]? = listed at pair
    generalize positional[position]? = compiled at pair
    cases pair with
    | some agrees => simp [agrees isPartial item]
    | none =>
        have beyond : (rest.getD .accept).behaviour.accepts isPartial item = true ↔
            ∀ value, (context.reading isPartial).sibling? context.entries "additional_items" =
              some value → (context.reading isPartial).Satisfies value item :=
          accepts_getD_of_rel others
        simpa using beyond

theorem interprets_items_uniform {rest : Subschema} (notArray : ∀ schemas, value ≠ .array schemas)
    (agrees : context.Agrees value rest.behaviour) :
    context.Interprets .items value (some (.items [] rest)) := by
  intro isPartial
  refine ⟨trivial, fun subject => ?_⟩
  unfold Rule.behaviour
  rw [Behaviour.accepts_items, behavioursOf_eq_map, Reading.Upholds]
  refine exists_congr fun items => and_congr_right fun _ => ?_
  have every : (∀ (position : Nat) (item : Value), items[position]? = some item →
      rest.behaviour.accepts isPartial item = true) ↔
      ∀ item ∈ items, (context.reading isPartial).Satisfies value item := by
    simp only [agrees isPartial, List.mem_iff_getElem?]
    constructor
    · rintro all item ⟨position, found⟩
      exact all position item found
    · intro all position item found
      exact all item ⟨position, found⟩
  cases value with
  | array schemas => exact absurd rfl (notArray schemas)
  | _ => simpa using every

theorem ensures_items (value : Value) :
    (context.items value).Ensures context.IsGood fun rule =>
      context.Interprets .items value (some rule) := by
  unfold items
  split
  · refine (ensures_subschemasOfItems context _).bind fun positional parallel => ?_
    refine (ensures_siblingSubschema? context _).bind fun rest others => ?_
    exact interprets_items_positional parallel others
  · rename_i notArray
    refine (ensures_subschema context _).bind fun rest agrees => ?_
    exact interprets_items_uniform (fun schemas same => notArray schemas same) agrees

theorem interprets_contains {item : Subschema} (agrees : context.Agrees value item.behaviour) :
    context.Interprets .contains value (some (.contains item)) := by
  intro isPartial
  refine ⟨trivial, fun subject => ?_⟩
  unfold Rule.behaviour
  rw [Behaviour.accepts_contains, Reading.Upholds]
  simp only [agrees isPartial]

theorem interprets_entries {listed : List (String × Subschema)}
    (parallel : List.Forall₂ context.AgreesAt value.fields listed) :
    context.Interprets .entries value (some (.entries listed)) := by
  intro isPartial
  refine ⟨trivial, fun subject => ?_⟩
  unfold Rule.behaviour
  rw [Behaviour.accepts_entries, entryBehavioursOf_eq_map, Reading.Upholds]
  refine exists_congr fun members => and_congr_right fun _ => ?_
  rw [List.forall_mem_map]
  apply forall_entry_iff_of_parallel parallel
  rintro name schema ⟨_, compiled⟩ ⟨rfl, agrees⟩
  exact forall_congr' fun member => imp_congr_right fun _ => agrees isPartial member

theorem parallel_zip {fields : List (String × Value)} {schemas : List (String × Subschema)}
    {patterns : List Pattern} (parallel : List.Forall₂ context.AgreesAt fields schemas)
    (parsed : List.Forall₂ (fun source pattern => Pattern.ofSource source = .ok pattern)
      (Table.names schemas) patterns) :
    List.Forall₂ (fun (field : String × Value) (choice : Pattern × Subschema) =>
      Pattern.ofSource field.1 = .ok choice.1 ∧ context.Agrees field.2 choice.2.behaviour)
      fields (patterns.zip (schemas.map Prod.snd)) := by
  induction parallel generalizing patterns with
  | nil =>
      cases parsed
      exact .nil
  | cons head _ ih =>
      cases parsed with
      | cons first others =>
          rw [← head.1] at first
          exact .cons ⟨first, head.2⟩ (ih others)

theorem ensures_patternEntries (value : Value) :
    (context.patternEntries value).Ensures context.IsGood fun rule =>
      context.Interprets .patternEntries value (some rule) := by
  refine (ensures_subschemaTable context value).bind fun schemas parallel => ?_
  refine (Binding.ensures_ofExcept fun patterns read => parallel_entryPatterns context read).bind
    fun patterns parsed isPartial => ⟨trivial, fun subject => ?_⟩
  have together := parallel_zip parallel parsed
  unfold Rule.behaviour
  rw [Behaviour.accepts_patternEntries, patternBehavioursOf_eq_map, Reading.Upholds]
  refine exists_congr fun members => and_congr_right fun _ => ?_
  rw [List.forall_mem_map]
  apply forall_entry_iff_of_parallel together
  rintro source schema ⟨pattern, compiled⟩ ⟨parsed, agrees⟩
  change Pattern.ofSource source = .ok pattern at parsed
  change context.Agrees schema compiled.behaviour at agrees
  simp [parsed, agrees isPartial _]

theorem siblingNames_eq (context : Context) (isPartial : Bool) (name : String) :
    context.siblingNames name =
      Table.names (((context.reading isPartial).sibling? context.entries name).getD .null).fields := by
  change _ = Table.names ((context.sibling? name).getD .null).fields
  unfold siblingNames
  split
  · rename_i entries found
    rw [found]
    rfl
  · rename_i notObject
    cases found : context.sibling? name with
    | none => rfl
    | some sibling =>
        cases sibling with
        | object entries => exact absurd found (notObject entries)
        | _ => rfl

theorem ensures_additionalEntries (value : Value) :
    (context.additionalEntries value).Ensures context.IsGood fun rule =>
      context.Interprets .additionalEntries value (some rule) := by
  refine (ensures_subschema context value).bind fun entry agrees => ?_
  refine (Binding.ensures_ofExcept fun patterns read => parallel_entryPatterns context read).bind
    fun patterns parsed isPartial => ⟨trivial, fun subject => ?_⟩
  unfold Rule.behaviour
  rw [Behaviour.accepts_additionalEntries, Reading.Upholds]
  rw [siblingNames_eq context isPartial] at parsed ⊢
  refine exists_congr fun members => and_congr_right fun _ => ?_
  refine forall_congr' fun name => forall_congr' fun member => ?_
  refine imp_congr_right fun _ => imp_congr_right fun _ => ?_
  rw [agrees isPartial, forall_mem_iff_of_parallel parsed]
  intro source pattern read
  simp [read]

theorem accepts_demand {dependency : Dependency} (name : String) (members : List (String × Value)) :
    context.Demands value dependency → ((dependency.demand.behaviour name members).accepts isPartial subject = true ↔
      match value with
      | .array peers =>
        isPartial = true ∨ ∀ peer, .string peer ∈ peers → Table.has members peer = true
      | _ => (context.reading isPartial).Satisfies value subject) := by
  intro demands
  cases dependency with
  | peers names =>
      obtain ⟨items, rfl, listed⟩ := demands
      have present := Check.missing_isEmpty members names
      simp only [listed] at present
      unfold Dependency.demand Behaviour.Demand.behaviour
      rw [Behaviour.accepts_ofCheck]
      cases isPartial <;> simp [← present]
  | whole schema =>
      obtain ⟨notArray, agrees⟩ := demands
      have same := agrees isPartial subject
      cases value with
      | array items => exact absurd rfl (notArray items)
      | _ => exact same

theorem interprets_dependencies {demands : List (String × Dependency)}
    (parallel : List.Forall₂ (fun entry demand => entry.1 = demand.1 ∧ context.Demands entry.2 demand.2)
      value.fields demands) :
    context.Interprets .dependencies value (some (.dependencies demands)) := by
  intro isPartial
  refine ⟨trivial, fun subject => ?_⟩
  unfold Rule.behaviour
  rw [Behaviour.accepts_dependencies, demandsOf_eq_map, Reading.Upholds]
  refine or_congr ?_ (exists_congr fun members => and_congr_right fun _ => ?_)
  · rw [List.map_eq_nil_iff, ← List.length_eq_zero_iff, ← List.length_eq_zero_iff,
      parallel.length_eq]
  · rw [List.forall_mem_map]
    apply forall_entry_iff_of_parallel parallel
    rintro name value ⟨_, dependency⟩ ⟨rfl, demands⟩
    exact imp_congr_right fun _ => accepts_demand name members demands

theorem ensures_dependencies (value : Value) :
    (context.dependencies value).Ensures context.IsGood fun rule =>
      context.Interprets .dependencies value (some rule) := by
  unfold dependencies
  split
  · exact (ensures_dependenciesOfEntries context _).bind fun demands parallel =>
      interprets_dependencies parallel
  · trivial

theorem interprets_entryNames {name : Subschema} (agrees : context.Agrees value name.behaviour) :
    context.Interprets .entryNames value (some (.entryNames name)) := by
  intro isPartial
  refine ⟨trivial, fun subject => ?_⟩
  unfold Rule.behaviour
  rw [Behaviour.accepts_entryNames, Reading.Upholds]
  simp only [agrees isPartial]

section Branches

variable {branches : List Subschema}
  (parallel : List.Forall₂ (fun value schema => context.Agrees value schema.behaviour) value.items
    branches)

include parallel

theorem interprets_allOf : context.Interprets .allOf value (some (.allOf branches)) := by
  intro isPartial
  refine ⟨trivial, fun subject => ?_⟩
  unfold Rule.behaviour
  rw [Behaviour.accepts_allOf, behavioursOf_eq_map, Reading.Upholds, List.forall_mem_map]
  exact forall_mem_iff_of_parallel parallel fun _ _ agrees => agrees isPartial subject

theorem interprets_anyOf : context.Interprets .anyOf value (some (.anyOf branches)) := by
  intro isPartial
  refine ⟨trivial, fun subject => ?_⟩
  unfold Rule.behaviour
  rw [Behaviour.accepts_anyOf, behavioursOf_eq_map, Reading.Upholds]
  simp only [List.mem_map, exists_exists_and_eq_and, exists_prop]
  exact exists_mem_iff_of_parallel parallel fun _ _ agrees => agrees isPartial subject

theorem interprets_oneOf : context.Interprets .oneOf value (some (.oneOf branches)) := by
  intro isPartial
  refine ⟨trivial, fun subject => ?_⟩
  unfold Rule.behaviour
  rw [Behaviour.accepts_oneOf, behavioursOf_eq_map, Reading.Upholds, List.length_map,
    ← parallel.length_eq]
  refine exists_congr fun position => and_congr_right fun _ => forall_congr' fun other => ?_
  have pair := rel_getElem?_of_parallel parallel other
  rw [List.getElem?_map]
  generalize value.items[other]? = listed at pair
  generalize branches[other]? = compiled at pair
  cases pair with
  | none => simp
  | some agrees => simp [agrees isPartial subject]

end Branches

theorem interprets_negation {excluded : Subschema}
    (agrees : context.Agrees value excluded.behaviour) :
    context.Interprets .negation value (some (.negation excluded)) := by
  intro isPartial
  refine ⟨trivial, fun subject => ?_⟩
  unfold Rule.behaviour
  rw [Behaviour.accepts_negation, agrees isPartial, Reading.Upholds]

theorem interprets_apply {whole : Subschema} (agrees : context.Agrees value whole.behaviour) :
    context.Interprets .apply value (some (.apply whole)) := by
  intro isPartial
  refine ⟨trivial, fun subject => ?_⟩
  unfold Rule.behaviour
  rw [Behaviour.accepts_under, agrees isPartial, Reading.Upholds]

theorem ensures_conditional (value : Value) :
    (context.conditional value).Ensures context.IsGood (context.Interprets .conditional value) := by
  refine (ensures_subschema context value).bind fun condition agrees => ?_
  refine (ensures_siblingSubschema? context "then").bind fun positive onTrue => ?_
  refine (ensures_siblingSubschema? context "else").bind fun negative onFalse => ?_
  change context.Interprets .conditional value
    (if positive.isNone && negative.isNone then none else some (.conditional condition positive negative))
  have bound := isSome_of_rel onTrue
  have bound' := isSome_of_rel onFalse
  by_cases absent : (positive.isNone && negative.isNone) = true
  · rw [if_pos absent]
    simp only [Bool.and_eq_true, Option.isNone_iff_eq_none] at absent
    rw [absent.1] at bound
    rw [absent.2] at bound'
    intro isPartial binds
    rcases binds with positive | negative
    · cases bound.symm.trans positive
    · cases bound'.symm.trans negative
  · rw [if_neg absent]
    intro isPartial
    constructor
    · change (context.sibling? "then").isSome = true ∨ (context.sibling? "else").isSome = true
      rw [bound, bound']
      cases positive with
      | some _ => exact .inl rfl
      | none =>
          cases negative with
          | some _ => exact .inr rfl
          | none => exact absurd rfl absent
    · intro subject
      unfold Rule.behaviour
      rw [Behaviour.accepts_conditional, behaviourOf?_eq_map, behaviourOf?_eq_map,
        accepts_of_rel onTrue, accepts_of_rel onFalse, agrees isPartial, Reading.Upholds]
      rfl

/-- The rule that a constraint's value stands for lets pass what the constraint asks for. -/
theorem ensures_rule (context : Context) (meaning : Meaning) (value : Value) :
    (context.rule meaning value).Ensures context.IsGood (context.Interprets meaning value) := by
  unfold rule
  split
  · exact fun isPartial binds => binds
  · exact (ensures_items value).bind fun _ interprets => interprets
  · exact (ensures_subschema context value).bind fun _ agrees => interprets_contains agrees
  · exact (ensures_subschemaTable context value).bind fun _ parallel => interprets_entries parallel
  · exact (ensures_patternEntries value).bind fun _ interprets => interprets
  · exact (ensures_additionalEntries value).bind fun _ interprets => interprets
  · exact (ensures_dependencies value).bind fun _ interprets => interprets
  · exact (ensures_subschema context value).bind fun _ agrees => interprets_entryNames agrees
  · exact (ensures_subschemas context value).bind fun _ parallel => interprets_allOf parallel
  · exact (ensures_subschemas context value).bind fun _ parallel => interprets_anyOf parallel
  · exact (ensures_subschemas context value).bind fun _ parallel => interprets_oneOf parallel
  · exact (ensures_subschema context value).bind fun _ agrees => interprets_negation agrees
  · exact ensures_conditional value
  · exact (ensures_subschema context value).bind fun _ agrees => interprets_apply agrees
  · -- The other meanings are those of checks.
    refine (Binding.ensures_ofExcept fun check read => ?_).bind fun check interprets => interprets
    cases meaning with
    | ofKinds => exact interprets_ofKinds read
    | among => exact interprets_among read
    | constant => exact interprets_constant read
    | multipleOf => exact interprets_multipleOf read
    | maximum => exact interprets_maximum read
    | minimum => exact interprets_minimum read
    | exclusiveMaximum => exact interprets_exclusiveMaximum read
    | exclusiveMinimum => exact interprets_exclusiveMinimum read
    | maxLength => exact interprets_maxLength read
    | minLength => exact interprets_minLength read
    | pattern => exact interprets_pattern read
    | format => exact interprets_format read
    | maxSize => exact interprets_maxSize read
    | minSize => exact interprets_minSize read
    | uniqueItems => exact interprets_uniqueItems read
    | required => exact interprets_required read
    | even => exact interprets_even read
    | probe => exact interprets_probe read
    | _ => contradiction

end Context

end Conformance
