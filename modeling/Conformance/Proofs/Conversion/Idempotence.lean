import Conformance.Proofs.Conversion.Structural
/-!
Structural documents. They use the type, the constraints of items, entries and sizes with one
sub-schema each or a table of them, and remarks. What conversion makes over such a document is valid, and
a second conversion leaves it as it is (`Site.converted_valid_and_fixed`).
-/

namespace Conformance

namespace Registry

/-- The constraints of structural documents, with their meanings and the kinds that they are for. -/
def structural : List (String × Meaning × KindSet) :=
  [("type", .ofKinds, .any), ("items", .items, .array), ("entries", .entries, .object),
    ("additional_entries", .additionalEntries, .object), ("required", .required, .object),
    ("max_length", .maxLength, .string), ("max_items", .maxSize, .array), ("default", .remark, .any),
    ("name", .remark, .any), ("description", .remark, .any), ("title", .remark, .any),
    ("examples", .remark, .any), ("deprecated", .remark, .any)]

theorem get_structural : ∀ entry ∈ structural,
    (base.get entry.1).map (fun definition => (definition.meaning, definition.applicableKinds)) =
      some entry.2 := by
  rw [base_eq]
  decide +kernel

theorem resolve_siblings : base.resolve "type" = some "type" ∧
    base.resolve "entries" = some "entries" ∧
    base.resolve "pattern_entries" = some "pattern_entries" := by
  rw [base_eq]
  decide +kernel

/-- Whether an entry of a document is structural: its key denotes a structural constraint, items have one
sub-schema for all, and sub-schemas are truth values or documents. -/
structure IsStructuralEntry (entry : String × Value) : Prop where
  named : ∃ name ∈ Table.names structural, base.resolve entry.1 = some name
  single : base.resolve entry.1 = some "items" → entry.2.kind ≠ .array
  inside : ∀ document ∈ base.positions entry, document.kind = .boolean ∨ document.kind = .object

instance (entry : String × Value) : Decidable (IsStructuralEntry entry) :=
  decidable_of_iff
    ((∃ name ∈ Table.names structural, base.resolve entry.1 = some name) ∧
      (base.resolve entry.1 = some "items" → entry.2.kind ≠ .array) ∧
      ∀ document ∈ base.positions entry, document.kind = .boolean ∨ document.kind = .object)
    ⟨fun ⟨named, single, inside⟩ => ⟨named, single, inside⟩,
      fun isEntry => ⟨isEntry.named, isEntry.single, isEntry.inside⟩⟩

/-- Whether a document and the documents inside it, at any depth, have structural entries only. -/
def IsStructural (document : Value) : Prop :=
  base.Throughout (fun entries => ∀ entry ∈ entries, IsStructuralEntry entry) document

theorem IsStructural.isClosed {document : Value} (structural : IsStructural document) :
    base.IsClosed document := by
  refine structural.mono fun entries each name member => ?_
  obtain ⟨entry, listed, position⟩ := List.mem_flatMap.mp member
  rcases (each entry listed).inside _ position with kind | kind
  · cases kind
  · cases kind

end Registry

namespace Context

variable {context : Context} {listed : List String} {value : Value}

/-- A rule that is one of the structural rules for a name and a kind, if there is a rule. -/
abbrev BindsStructural (listed : List String) (name : String) (kind : Kind)
    (script : Binding (Option Rule)) : Prop :=
  EndsWith Behaviour.Settles
    (fun rule? => ∀ rule, rule? = some rule → rule.IsStructural listed name kind) script

theorem bindsStructural_check {meaning : Meaning} {name : String} {kind : Kind}
    (structural : ∀ check, context.check meaning value = .ok (some check) →
      (Rule.check check).IsStructural listed name kind) :
    BindsStructural listed name kind
      (do let check ← context.check meaning value; pure (check.map .check)) := by
  refine (Binding.ensures_ofExcept fun check read => read).bind fun check? read => ?_
  intro rule same
  obtain ⟨check, rfl, rfl⟩ := Option.map_eq_some_iff.mp same
  exact structural check read

theorem bindsStructural_maxLength :
    BindsStructural listed "max_length" .string (context.rule .maxLength value) := by
  refine bindsStructural_check fun check read => ?_
  obtain ⟨limit, _, same⟩ := map_eq_ok.mp read
  cases same
  exact .maxLength limit

theorem bindsStructural_maxSize :
    BindsStructural listed "max_items" .array (context.rule .maxSize value) := by
  refine bindsStructural_check fun check read => ?_
  obtain ⟨limit, _, same⟩ := map_eq_ok.mp read
  cases same
  exact .maxSize limit

theorem bindsStructural_required :
    BindsStructural listed "required" .object (context.rule .required value) := by
  refine bindsStructural_check fun check read => ?_
  obtain ⟨names, _, same⟩ := map_eq_ok.mp read
  cases same
  exact .required _

theorem bindsStructural_some {name : String} {kind : Kind} {script : Binding Rule}
    (structural : EndsWith Behaviour.Settles (fun rule => rule.IsStructural listed name kind) script) :
    BindsStructural listed name kind (some <$> script) := by
  refine structural.bind fun rule isStructural => ?_
  rintro other ⟨⟩
  exact isStructural

theorem bindsStructural_items (single : value.kind ≠ .array) :
    BindsStructural listed "items" .array (context.rule .items value) := by
  apply bindsStructural_some
  unfold items
  split
  · exact absurd rfl single
  · have rest := context.ensures_subschemas_subschema Behaviour.settles_pass
      Behaviour.settles_refuse value
    exact rest.bind fun rest settles => .items settles

theorem bindsStructural_entries (named : Table.names value.fields = listed)
    (distinct : listed.Nodup) :
    BindsStructural listed "entries" .object (context.rule .entries value) := by
  have table := context.ensures_subschemas_table Behaviour.settles_pass Behaviour.settles_refuse value
  refine table.bind fun schemas ⟨names, settles⟩ => ?_
  rintro rule ⟨⟩
  exact .entries (names.trans named) distinct settles

theorem bindsStructural_additionalEntries (siblings : context.siblingNames "entries" = listed)
    (patternless : context.siblingNames "pattern_entries" = []) :
    BindsStructural listed "additional_entries" .object
      (context.rule .additionalEntries value) := by
  apply bindsStructural_some
  unfold additionalEntries
  rw [siblings, patternless]
  have entry := context.ensures_subschemas_subschema Behaviour.settles_pass
    Behaviour.settles_refuse value
  exact entry.bind fun entry settles => .additionalEntries settles

section Siblings

variable (base : context.settings.constraints = Registry.base)
  (structural : ∀ entry ∈ context.entries, Registry.IsStructuralEntry entry)

include base in
/-- The entries that a document lists are those of the first key that denotes them. -/
theorem sibling?_of_introduces {entry : String × Value} {name : String} {definition : Definition}
    (introduces : context.Introduces entry name definition)
    (resolved : Registry.base.resolve name = some name) : context.sibling? name = some entry.2 := by
  have first := introduces.first
  rw [base] at first
  unfold sibling? Registry.find?
  rw [base, resolved]
  exact congrArg (Option.map Prod.snd) first

include base structural in
theorem siblingNames_patternEntries : context.siblingNames "pattern_entries" = [] := by
  have absent : context.sibling? "pattern_entries" = none := by
    unfold sibling? Registry.find?
    rw [base, Registry.resolve_siblings.2.2]
    refine congrArg (Option.map Prod.snd) (List.find?_eq_none.mpr fun entry member same => ?_)
    obtain ⟨name, listed, resolved⟩ := (structural entry member).named
    rw [resolved] at same
    cases eq_of_beq same
    exact absurd listed (by decide)
  unfold siblingNames
  rw [absent]

include base structural in
/-- What a structural document binds for a constraint other than its type is structural. -/
theorem ensures_isStructuralFor {entry : String × Value} {name : String} {definition : Definition}
    (keyed : (Value.object context.entries).isKeyed = true)
    (introduces : context.Introduces entry name definition) :
    EndsWith Behaviour.Settles (fun rule? => ∀ rule, rule? = some rule →
        rule.IsStructuralFor (context.siblingNames "entries") name definition)
      ({ context with constraint := name }.rule definition.meaning entry.2) := by
  have isEntry := structural entry introduces.mem
  obtain ⟨_, known, resolved⟩ := isEntry.named
  have same := introduces.resolved
  rw [base] at same
  cases resolved.symm.trans same
  obtain ⟨⟨_, meaning, kinds⟩, member, rfl⟩ := List.mem_map.mp known
  have defined := Registry.get_structural _ member
  rw [← base, introduces.defined] at defined
  obtain ⟨isMeaning, applicable⟩ := Prod.mk.inj (Option.some.inj defined)
  rw [isMeaning]
  have bound {kind : Kind} (isKind : kinds = .singleton kind) {script : Binding (Option Rule)}
      {name : String} (binds : BindsStructural (context.siblingNames "entries") name kind script) :
      EndsWith Behaviour.Settles (fun rule? => ∀ rule, rule? = some rule →
        rule.IsStructuralFor (context.siblingNames "entries") name definition) script :=
    binds.mono fun rule? structural rule same =>
      ⟨kind, applicable.trans isKind, structural rule same⟩
  simp only [Registry.structural, List.mem_cons, List.not_mem_nil, or_false] at member
  rcases member with h | h | h | h | h | h | h | h | h | h | h | h | h <;> cases h
  · have isType : context.typeName? = some "type" := by
      unfold typeName?
      rw [base]
      exact Registry.resolve_siblings.1
    exact absurd isType.symm introduces.notType
  · exact bound rfl (bindsStructural_items (isEntry.single resolved))
  · have sibling := sibling?_of_introduces base introduces Registry.resolve_siblings.2.1
    have value := ((Value.isKeyed_iff _).mp keyed).2.2 entry introduces.mem
    have distinct := ((Value.isKeyed_iff _).mp value).1
    have listed : Table.names entry.2.fields = context.siblingNames "entries" := by
      unfold siblingNames
      rw [sibling]
      cases entry.2 <;> rfl
    exact bound rfl (bindsStructural_entries listed (listed ▸ distinct))
  · have patternless := siblingNames_patternEntries base structural
    exact bound rfl (bindsStructural_additionalEntries rfl patternless)
  · exact bound rfl bindsStructural_required
  · exact bound rfl bindsStructural_maxLength
  · exact bound rfl bindsStructural_maxSize
  all_goals exact fun rule absent => nomatch absent

end Siblings

end Context

namespace Site

variable {site : Site} {source : Source} {schema : Schema} {cache after : Cache}

theorem settles_schema {listed : List String} {entries : List (String × Value)}
    {bound : Option KindSet × List Bound} {others : List Bound}
    (typed : bound = (none, others) ∨
      ∃ name kinds, bound = (some kinds, .ofType name kinds :: others))
    (apart : others.Pairwise fun first second => first.name ≠ second.name)
    (each : ∀ other ∈ others, { site.context source entries with declared := bound.1 }.BoundFor
      (Rule.IsStructuralFor listed) other) (references : NameSet) :
    (site.schema source bound.1 bound.2 references).behaviour.Settles := by
  intro isPartial subject value made
  have threads := (Schema.makes_iff _).mp made
  have fixed : ∀ each ∈ bound.2, each.step.behaviour.Fixes isPartial value := by
    rcases typed with rfl | ⟨name, kinds, rfl⟩
    · have anyType : { site.context source entries with declared := none }.Typed subject :=
        fun kinds absent => nomatch absent
      exact (Context.fixed_of_structural apart each threads anyType).2
    · obtain ⟨coerced, brought, rest⟩ := threads
      have admitted := Value.kind_of_coerce ((Behaviour.makes_ofRule _).mp brought)
      have ofType : { site.context source entries with declared := some kinds }.Typed coerced := by
        rintro _ ⟨⟩
        exact admitted
      obtain ⟨stillOfType, fixed⟩ := Context.fixed_of_structural apart each rest ofType
      refine List.forall_mem_cons.mpr ⟨Behaviour.fixes_ofKinds.mpr ?_, fixed⟩
      exact stillOfType kinds rfl
  refine ⟨(Schema.accepts_iff _).mpr fun bound member => (fixed bound member).1, ?_⟩
  exact (Schema.makes_iff _).mpr (threads_self fun bound member => (fixed bound member).2)

theorem settles_of_structural {entries : List (String × Value)}
    (base : site.settings.constraints = Registry.base)
    (structural : ∀ entry ∈ entries, Registry.IsStructuralEntry entry)
    (keyed : (Value.object entries).isKeyed = true) :
    Context.EndsWith Behaviour.Settles
      (fun bound => ∀ references,
        (site.schema source bound.1 bound.2 references).behaviour.Settles)
      (site.context source entries).bindAll := by
  have typed := Registry.regular_base.typed
  rw [← base] at typed
  have each : ∀ declared entry name definition,
      { site.context source entries with declared := declared }.Introduces entry name definition →
      Context.EndsWith Behaviour.Settles (fun rule? => ∀ rule, rule? = some rule →
        rule.IsStructuralFor ((site.context source entries).siblingNames "entries") name definition)
        ({ site.context source entries with declared := declared, constraint := name }.rule
          definition.meaning entry.2) :=
    fun declared entry name definition introduces =>
      Context.ensures_isStructuralFor base structural keyed introduces
  have bound := Context.ensures_constraints_bindAll typed each
  exact bound.mono fun bound ⟨others, typed, apart, each⟩ => settles_schema typed apart each

/-- What conversion makes over a structural document of the base registry is valid, and a second
conversion leaves it as it is. -/
theorem converted_valid_and_fixed (base : site.settings.constraints = Registry.base)
    (structural : Registry.IsStructural source.document) (keyed : source.document.isKeyed = true)
    (compiled : (site.compile source).outcome cache = (.ok schema, after)) {subject value : Value}
    {isPartial : Bool} (converted : schema.convert subject isPartial = .ok value) :
    (schema.validate value isPartial).success = true ∧
      schema.convert value isPartial = .ok value := by
  have closed := structural.isClosed
  have throughout := structural.and (Registry.throughout_of_everywhere keyed)
  rw [← base] at closed throughout
  have step : ∀ source entries, source.document = .object entries →
      ((∀ entry ∈ entries, Registry.IsStructuralEntry entry) ∧
        (Value.object entries).isKeyed = true) →
      Context.EndsWith Behaviour.Settles
        (fun bound => ∀ references,
          (site.schema source bound.1 bound.2 references).behaviour.Settles)
        (site.context source entries).bindAll :=
    fun source entries _ both => settles_of_structural base both.1 both.2
  have settles := good_of_compileWithin step compiled closed throughout
  obtain ⟨accepted, made⟩ := settles converted
  exact ⟨schema.success_iff.mpr accepted, made⟩

/-- A document in which the entry `marks` is a list of two whole numbers and the others are short
texts. -/
def marked : Value :=
  .object [("additional_entries", .object [("max_length", .ofNat 3)]), ("type", .string "dict"),
    ("entries", .object [("marks", .object [("max_items", .ofNat 2), ("type", .string "list"),
      ("items", .object [("type", .string "int")])])]),
    ("required", .array [.string "marks"])]

theorem isStructural_marked : Registry.IsStructural marked := by
  have passes : Registry.base.passesWithin
      (fun entries => decide (∀ entry ∈ entries, Registry.IsStructuralEntry entry)) 4 marked = true := by
    decide +kernel
  exact (Registry.throughout_of_passesWithin passes).mono fun entries each => of_decide_eq_true each

theorem converted_valid_and_fixed_marked :
    ∃ schema after value,
      Registry.IsStructural marked ∧ marked.isKeyed = true ∧
      ((Environment.native 0).site.compile ⟨marked, none, true, 0⟩).outcome [] =
        (.ok schema, after) ∧
      schema.convert (.object [("marks", .array [.string "7", .bool true, .null]),
        ("by", .string "teacher")]) false = .ok value ∧
      (value == .object [("marks", .array [.ofNat 7, .ofNat 1]), ("by", .string "tea")]) = true ∧
      (schema.validate value false).success = true ∧ schema.convert value false = .ok value := by
  obtain ⟨schema, after, compiled, seen⟩ := Compiling.exists_of_observed
    (show (((Environment.native 0).site.compile ⟨marked, none, true, 0⟩).outcome []).1.toOption.map
      (fun schema => (schema.convert (.object [("marks", .array [.string "7", .bool true, .null]),
        ("by", .string "teacher")]) false).toOption.map
          (· == .object [("marks", .array [.ofNat 7, .ofNat 1]), ("by", .string "tea")])) =
        some (some true) by decide +kernel)
  obtain ⟨value, made, equal⟩ := Option.map_eq_some_iff.mp seen
  have keyed : marked.isKeyed = true := by decide +kernel
  have converted := toOption_eq_some.mp made
  exact ⟨schema, after, value, isStructural_marked, keyed, compiled, converted, equal,
    converted_valid_and_fixed rfl isStructural_marked keyed compiled converted⟩

end Site

end Conformance
