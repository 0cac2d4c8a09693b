import Conformance.Proofs.Compilation.Answers
import Conformance.Proofs.Compilation.Constraints
import Conformance.Proofs.Compilation.Shape
import Conformance.Proofs.Satisfaction.Document
/-!
The constraints of a schema beside the keys of its document. Which keys have a constraint with a rule is said
without compiling anything (`Reading.IsListed`). A schema has one bound constraint for each of them, in their
order and behind that of the type; no two keys denote one constraint, so the value under a key is found under
each of its spellings (`Site.tabulates_document`).
-/

namespace Conformance

namespace Reading

variable (reading : Reading)

/-- Whether a constraint's value asks for anything, as it is found out. -/
def binds (entries : List (String × Value)) (value : Value) : Meaning → Bool
  | .remark => false
  | .exclusiveMaximum | .exclusiveMinimum =>
    match value with
    | .bool _ => false
    | _ => true
  | .format =>
    match value with
    | .string name =>
      !reading.settings.config.ignoresFormat name && (reading.settings.formats.lookup name).isSome
    | _ => false
  | .uniqueItems | .even =>
    match value with
    | .bool flag => flag
    | _ => false
  | .conditional =>
    (reading.sibling? entries "then").isSome || (reading.sibling? entries "else").isSome
  | _ => true

variable {reading} {entries : List (String × Value)} {entry : String × Value} {value : Value}

theorem binds_iff (meaning : Meaning) :
    reading.binds entries value meaning = true ↔ reading.Binds entries value meaning := by
  cases meaning with
  | remark => exact iff_of_false Bool.false_ne_true id
  | exclusiveMaximum | exclusiveMinimum => cases value <;> simp [binds, Binds]
  | format => cases value <;> simp [binds, Binds]
  | uniqueItems | even => cases value <;> simp [binds, Binds]
  | conditional => exact Bool.or_eq_true_iff
  | _ => exact iff_of_true rfl trivial

instance (meaning : Meaning) : Decidable (reading.Binds entries value meaning) :=
  decidable_of_iff _ (binds_iff meaning)

instance (definition : Definition) : Decidable (reading.Reaches entries definition) :=
  decidable_of_iff
    (∀ declared ∈ reading.declared? entries, declared.intersects definition.applicableKinds = true)
    (forall_congr' fun declared => imp_congr_right fun _ => KindSet.intersects_iff declared _)

/-- Whether an entry of a document has a constraint with a rule: its key denotes a constraint other than the
type, which applies to some kind that the document admits, and its value asks for something. -/
def IsListed (reading : Reading) (entries : List (String × Value)) (entry : String × Value) : Prop :=
  ∃ definition, reading.Governs entries entry.1 definition ∧
    reading.Binds entries entry.2 definition.meaning

theorem isListed_iff : reading.IsListed entries entry ↔
    ∃ name ∈ reading.settings.constraints.resolve entry.1,
      reading.settings.constraints.resolve "type" ≠ some name ∧
      ∃ definition ∈ reading.settings.constraints.get name,
        reading.Reaches entries definition ∧ reading.Binds entries entry.2 definition.meaning := by
  constructor
  · rintro ⟨definition, ⟨name, resolved, notType, defined, reaches⟩, binds⟩
    exact ⟨name, resolved, notType, definition, defined, reaches, binds⟩
  · rintro ⟨name, resolved, notType, definition, defined, reaches, binds⟩
    exact ⟨definition, ⟨name, resolved, notType, defined, reaches⟩, binds⟩

instance : DecidablePred (reading.IsListed entries) := fun _ => decidable_of_iff' _ isListed_iff

/-- What a listed entry denotes is defined and not the type. -/
theorem IsListed.defined (listed : reading.IsListed entries entry) {name : String}
    (resolved : reading.settings.constraints.resolve entry.1 = some name) :
    reading.settings.constraints.resolve "type" ≠ some name ∧
      ∃ definition, reading.settings.constraints.get name = some definition := by
  obtain ⟨definition, ⟨_, resolved', notType, defined, _⟩, _⟩ := listed
  cases resolved.symm.trans resolved'
  exact ⟨notType, definition, defined⟩

/-- Which constraint is meant where a key denotes one. -/
theorem isListed_iff_of_resolved {name : String} {definition : Definition}
    (resolved : reading.settings.constraints.resolve entry.1 = some name)
    (notType : reading.settings.constraints.resolve "type" ≠ some name)
    (defined : reading.settings.constraints.get name = some definition) :
    reading.IsListed entries entry ↔
      reading.Reaches entries definition ∧ reading.Binds entries entry.2 definition.meaning := by
  constructor
  · rintro ⟨_, ⟨_, resolved', _, defined', reaches⟩, binds⟩
    cases resolved.symm.trans resolved'
    cases defined.symm.trans defined'
    exact ⟨reaches, binds⟩
  · rintro ⟨reaches, binds⟩
    exact ⟨definition, ⟨name, resolved, notType, defined, reaches⟩, binds⟩

end Reading

namespace Context

variable {context : Context} {good good' : Value → Schema → Prop} {known : String → Schema → Prop}
  {entry : String × Value} {isPartial : Bool}

theorem Interprets.isSome_iff {meaning : Meaning} {value : Value} {rule? : Option Rule}
    (interprets : context.Interprets meaning value rule?) (isPartial : Bool) :
    rule?.isSome = true ↔ (context.reading isPartial).Binds context.entries value meaning := by
  cases rule? with
  | none => exact iff_of_false Bool.false_ne_true (interprets isPartial)
  | some rule => exact iff_of_true rfl (interprets isPartial).1

/-- A check is read without asking for schemas, so it is the same whatever they are. -/
theorem yields_check_of_ensured {read : Except CompileError (Option Check)} {post : Option Rule → Prop}
    (ensures : (Binding.ofExcept read >>= fun check? => pure (check?.map Rule.check)).Ensures good post) :
    (Binding.ofExcept read >>= fun check? => pure (check?.map Rule.check)).Yields good' known post := by
  cases read with
  | error error => trivial
  | ok check? => exact ensures

theorem yields_isSome_siblingSubschema? (context : Context) (name : String) :
    (context.siblingSubschema? name).Yields good known fun part? =>
      (context.sibling? name).isSome = part?.isSome := by
  unfold siblingSubschema?
  split
  · rename_i value found
    rw [found]
    exact (Binding.yields_trivial _).bind fun part _ => rfl
  · rename_i missing
    rw [missing]
    rfl

theorem yields_isSome_conditional (context : Context) (value : Value) :
    (context.conditional value).Yields good known fun rule? =>
      rule?.isSome = true ↔
        ((context.sibling? "then").isSome = true ∨ (context.sibling? "else").isSome = true) := by
  refine (Binding.yields_trivial _).bind fun condition _ => ?_
  refine (context.yields_isSome_siblingSubschema? "then").bind fun positive onTrue => ?_
  refine (context.yields_isSome_siblingSubschema? "else").bind fun negative onFalse => ?_
  rw [onTrue, onFalse]
  change (if positive.isNone && negative.isNone then none
    else some (Rule.conditional condition positive negative)).isSome = true ↔ _
  cases positive <;> cases negative <;> simp

/-- Whether a constraint has a rule depends on its value and its siblings, and on no schema. -/
theorem yields_isSome_rule (context : Context) (meaning : Meaning) (value : Value) (isPartial : Bool) :
    (context.rule meaning value).Yields good known fun rule? =>
      rule?.isSome = true ↔ (context.reading isPartial).Binds context.entries value meaning := by
  cases meaning with
  | remark => exact iff_of_false Bool.false_ne_true id
  | items | contains | entries | patternEntries | additionalEntries | dependencies | entryNames | allOf
  | anyOf | oneOf | negation | apply =>
      exact (Binding.yields_trivial _).bind fun _ _ => iff_of_true rfl trivial
  | conditional => exact context.yields_isSome_conditional value
  | _ =>
      exact yields_check_of_ensured ((ensures_rule context _ value).mono fun rule? interprets =>
        interprets.isSome_iff isPartial)

/-- Whether a constraint is what is bound for an entry of a document: it has the name that the key denotes, a
rule of the sort that the value stands for, and a guard if the type does not make it needless. -/
def IsBoundFor (context : Context) (entry : String × Value) (bound : Bound) : Prop :=
  ∃ definition rule, context.settings.constraints.resolve entry.1 = some bound.name ∧
    context.settings.constraints.get bound.name = some definition ∧
    bound = .mk bound.name false (context.restriction definition.applicableKinds) rule ∧
    rule.IsOf { context with constraint := bound.name } definition.meaning entry.2

/-- The entries among some that have a constraint with a rule. It does not matter which instances are meant. -/
def listed (context : Context) (entries : List (String × Value)) : List (String × Value) :=
  entries.filter fun entry => (context.reading false).IsListed context.entries entry

/-- Whether the constraints with rules among some entries are bound, in the order of the entries. -/
def Lists (context : Context) (entries : List (String × Value)) (bounds : List Bound) : Prop :=
  List.Forall₂ context.IsBoundFor (context.listed entries) bounds

theorem lists_nil : context.Lists [] [] := .nil

theorem Lists.append {entries others : List (String × Value)} {bounds bounds' : List Bound}
    (first : context.Lists entries bounds) (rest : context.Lists others bounds') :
    context.Lists (entries ++ others) (bounds ++ bounds') := by
  unfold Lists listed
  rw [List.filter_append]
  exact List.rel_append first rest

theorem lists_none (unlisted : ¬ (context.reading false).IsListed context.entries entry) :
    context.Lists [entry] [] := by
  unfold Lists listed
  rw [List.filter_cons_of_neg (by simpa using unlisted)]
  exact .nil

theorem not_isListed_of_unknown (unknown : context.settings.constraints.resolve entry.1 = none) :
    ¬ (context.reading false).IsListed context.entries entry := by
  rintro ⟨_, ⟨_, resolved, _⟩, _⟩
  cases unknown.symm.trans resolved

theorem lists_one (isListed : (context.reading false).IsListed context.entries entry) {bound : Bound}
    (isBound : context.IsBoundFor entry bound) : context.Lists [entry] [bound] := by
  unfold Lists listed
  rw [List.filter_cons_of_pos (by simpa using isListed)]
  exact .cons isBound .nil

theorem names_of_lists {entries : List (String × Value)} {bounds : List Bound}
    (lists : context.Lists entries bounds) :
    bounds.map Bound.name = context.denoted (context.listed entries) := by
  unfold Lists at lists
  generalize context.listed entries = listed at lists
  induction lists with
  | nil => rfl
  | cons isBound _ ih =>
      obtain ⟨_, _, resolved, _⟩ := isBound
      rw [List.map_cons, ih, denoted_of_resolved resolved]

section Entries

variable (declares : ∀ isPartial,
  (context.reading isPartial).declared? context.entries = context.declared)

include declares

/-- What is bound for a constraint other than the type, when the kinds that the document admits are known. -/
theorem yields_lists_bindConstraint {name : String} {definition : Definition}
    (resolved : context.settings.constraints.resolve entry.1 = some name)
    (notType : context.typeName? ≠ some name)
    (defined : context.settings.constraints.get name = some definition) :
    (context.bindConstraint definition name entry.2).Yields good known (context.Lists [entry]) := by
  have meant : (context.reading false).IsListed context.entries entry ↔
      (context.reading false).Reaches context.entries definition ∧
        (context.reading false).Binds context.entries entry.2 definition.meaning :=
    Reading.isListed_iff_of_resolved resolved notType defined
  have reached := isExcluded_iff declares definition false
  unfold bindConstraint
  split
  · rename_i excluded
    split
    · trivial
    · exact lists_none fun listed => reached.mp excluded (meant.mp listed).1
  · rename_i included
    let inside := { context with constraint := name }
    refine ((yields_isSome_rule inside definition.meaning entry.2 false).and
      (yields_shape_rule inside definition.meaning entry.2)).bind fun rule? ⟨asks, isOf⟩ => ?_
    cases rule? with
    | none => exact lists_none fun listed => Bool.false_ne_true (asks.mpr (meant.mp listed).2)
    | some rule =>
        exact lists_one (meant.mpr ⟨not_not.mp (mt reached.mpr included), asks.mp rfl⟩)
          ⟨definition, rule, resolved, defined, rfl, isOf rule rfl⟩

theorem yields_lists_bindEntry (entry : String × Value) :
    (context.bindEntry entry).Yields good known (context.Lists [entry]) := by
  unfold bindEntry
  split
  · rename_i unresolved
    split
    · trivial
    · exact lists_none (not_isListed_of_unknown unresolved)
  · rename_i name resolved
    split
    · rename_i isType
      exact lists_none fun listed => (listed.defined resolved).1 isType.symm
    · rename_i notType
      split
      · rename_i definition defined
        exact yields_lists_bindConstraint declares resolved (Ne.symm notType) defined
      · rename_i undefined
        refine lists_none fun listed => ?_
        obtain ⟨_, definition, defined⟩ := listed.defined resolved
        cases undefined.symm.trans defined

/-- The entries are bound one after the other, and each denotes a name that was not seen before. -/
theorem yields_lists_bindEntries (seen : List String) (entries : List (String × Value)) :
    (context.bindEntries seen entries).Yields good known fun bounds =>
      context.AreApart seen entries ∧ context.Lists entries bounds := by
  induction entries generalizing seen with
  | nil => exact ⟨⟨.nil, List.forall_mem_nil _⟩, lists_nil⟩
  | cons entry entries ih =>
      cases resolved : context.settings.constraints.resolve entry.1 with
      | none =>
          rw [bindEntries_of_unknown resolved]
          split
          · trivial
          · refine (ih seen).mono fun bounds ⟨apart, lists⟩ => ⟨?_, ?_⟩
            · exact (areApart_of_unknown resolved seen entries).mpr apart
            · exact (lists_none (not_isListed_of_unknown resolved)).append lists
      | some name =>
          rw [bindEntries_of_resolved resolved]
          split
          · trivial
          · rename_i unseen
            have first : (context.bindEntry entry).Yields good known _ :=
              yields_lists_bindEntry declares entry
            refine first.bind fun bounds lists => ?_
            refine (ih (name :: seen)).bind fun others ⟨apart, rest⟩ => ?_
            exact ⟨(areApart_cons resolved seen entries).mpr ⟨unseen, apart⟩, lists.append rest⟩

end Entries

/-- The type is bound to the kinds that its value is read as, if the document has one. -/
theorem yields_declared_bindType {name : String} (isType : context.typeName? = some name)
    {definition : Definition} (defined : context.settings.constraints.get name = some definition)
    (meant : definition.meaning = .ofKinds) :
    context.bindType.Yields good known fun bound =>
      (∀ isPartial, (context.reading isPartial).declared? context.entries = bound.1) ∧
        bound.2 = (bound.1.map (Bound.ofType name)).toList := by
  have sibling (isPartial : Bool) : (context.reading isPartial).declared? context.entries =
      (context.sibling? "type").map (context.reading isPartial).kinds := rfl
  simp only [sibling]
  unfold bindType
  rw [isType]
  cases context.sibling? "type" with
  | none => exact ⟨fun _ => rfl, rfl⟩
  | some value =>
      dsimp only
      rw [defined]
      refine (Binding.yields_ofExcept fun kinds read => read).bind fun kinds read => ?_
      have reads : { context with constraint := name }.kinds value = .ok kinds := read
      dsimp only
      rw [meant]
      refine (yields_rule_ofKinds reads).bind fun rule? same => ?_
      rw [same]
      exact ⟨fun isPartial => congrArg some (kinds_of_kinds reads isPartial), rfl⟩

theorem yields_lists_bindAll {name : String} (isType : context.typeName? = some name)
    {definition : Definition} (defined : context.settings.constraints.get name = some definition)
    (meant : definition.meaning = .ofKinds) :
    context.bindAll.Yields good known fun bound =>
      (∀ isPartial, (context.reading isPartial).declared? context.entries = bound.1) ∧
        (context.denoted context.entries).Nodup ∧
        ∃ others, bound.2 = (bound.1.map (Bound.ofType name)).toList ++ others ∧
          { context with declared := bound.1 }.Lists context.entries others := by
  refine (yields_declared_bindType isType defined meant).bind ?_
  rintro ⟨declared, first⟩ ⟨declares, isFirst⟩
  have entries : ({ context with declared := declared }.bindEntries [] context.entries).Yields good
      known _ := yields_lists_bindEntries declares [] context.entries
  exact entries.bind fun others ⟨apart, lists⟩ =>
    ⟨declares, apart.1, others, congrArg (· ++ others) isFirst, lists⟩

/-- Where no two keys denote the same constraint, a key that denotes one is the first that does. -/
theorem find?_of_apart {entries : List (String × Value)} (apart : (context.denoted entries).Nodup)
    (member : entry ∈ entries) {name : String}
    (resolved : context.settings.constraints.resolve entry.1 = some name) :
    entries.find? (fun other => context.settings.constraints.resolve other.1 == some name) =
      some entry := by
  induction entries with
  | nil => cases member
  | cons other entries ih =>
      rcases List.mem_cons.mp member with rfl | later
      · exact List.find?_cons_of_pos (beq_iff_eq.mpr resolved)
      · have listed : name ∈ context.denoted entries := List.mem_filterMap.mpr ⟨entry, later, resolved⟩
        cases first : context.settings.constraints.resolve other.1 with
        | none =>
            rw [denoted_of_unknown first] at apart
            rw [List.find?_cons_of_neg (by simp [first])]
            exact ih apart later
        | some target =>
            rw [denoted_of_resolved first] at apart
            obtain ⟨new, apart⟩ := List.nodup_cons.mp apart
            have different : target ≠ name := fun same => new (same ▸ listed)
            rw [List.find?_cons_of_neg (by simp [first, different])]
            exact ih apart later

/-- The names that the keys of a document give to constraints with rules: that of the type, if a key denotes it,
and those of the listed entries. -/
def tabulated (context : Context) : List String :=
  (if context.entries.any fun entry => context.settings.constraints.resolve entry.1 == some "type" then
    ["type"] else []) ++ context.denoted (context.listed context.entries)

variable {name : String}

theorem mem_denoted_of_tabulated (member : name ∈ context.tabulated) :
    name ∈ context.denoted context.entries := by
  rcases List.mem_append.mp member with isType | listed
  · split at isType
    · rename_i typed
      obtain ⟨entry, inside, resolved⟩ := List.any_eq_true.mp typed
      rw [List.mem_singleton.mp isType]
      exact List.mem_filterMap.mpr ⟨entry, inside, eq_of_beq resolved⟩
    · cases isType
  · exact (List.filter_sublist.filterMap _).subset listed

theorem nodup_tabulated (isType : context.typeName? = some "type")
    (apart : (context.denoted context.entries).Nodup) : context.tabulated.Nodup := by
  have behind : (context.denoted (context.listed context.entries)).Nodup :=
    apart.sublist (List.filter_sublist.filterMap _)
  have other : "type" ∉ context.denoted (context.listed context.entries) := by
    intro member
    obtain ⟨entry, listed, resolved⟩ := List.mem_filterMap.mp member
    have isListed := of_decide_eq_true (List.mem_filter.mp listed).2
    exact (isListed.defined resolved).1 isType
  unfold tabulated
  split
  · exact List.nodup_cons.mpr ⟨other, behind⟩
  · exact behind

/-- The value under the only key that denotes a constraint is found under every spelling of its name. -/
theorem find?_spelling (apart : (context.denoted context.entries).Nodup) (member : entry ∈ context.entries)
    (resolved : context.settings.constraints.resolve entry.1 = some name) {key : String}
    (spelled : context.settings.constraints.resolve key = some name) :
    context.settings.constraints.find? context.entries key = some entry.2 := by
  unfold Registry.find?
  rw [spelled]
  dsimp only
  rw [find?_of_apart apart member resolved]
  rfl

end Context

/-- How the constraints of a schema correspond to the document that it was compiled from in a context. -/
structure Schema.Tabulates (schema : Schema) (context : Context) : Prop where
  /-- No two keys denote the same constraint. -/
  apart : (context.denoted context.entries).Nodup
  /-- The kinds that the schema admits are those that the value under the key of the type stands for. -/
  declared : ∀ isPartial, (context.reading isPartial).declared? context.entries = schema.declared
  /-- The type stands in front, and behind it one constraint for each listed entry, with the entry's rule. -/
  constraints : ∃ others, context.Lists context.entries others ∧
    schema.constraints = (schema.declared.map (Bound.ofType "type")).toList ++ others
  /-- Whatever schemas its compilation gets, a constraint has a rule just if its value asks for something. -/
  binds : ∀ entry ∈ context.entries, ∀ name definition,
    context.settings.constraints.resolve entry.1 = some name →
    context.settings.constraints.get name = some definition →
    ({ context with constraint := name }.rule definition.meaning entry.2).Yields (fun _ _ => True)
      (fun _ _ => True) fun rule? => Option.isSome rule? = true ↔
        (context.reading false).Binds context.entries entry.2 definition.meaning
  names : schema.constraintNames = context.tabulated
  distinct : schema.constraintNames.Nodup
  /-- Each name is denoted by one key, whose value is found under every spelling of the name: by the schema, and
  by the siblings when they were compiled. -/
  found : ∀ name ∈ schema.constraintNames, ∃ entry ∈ context.entries,
    context.settings.constraints.resolve entry.1 = some name ∧
    (∀ other ∈ context.entries, context.settings.constraints.resolve other.1 = some name →
      other = entry) ∧
    ∀ key, context.settings.constraints.resolve key = some name →
      schema.get key = some entry.2 ∧
      ∀ declared constraint,
        { context with declared := declared, constraint := constraint }.sibling? key = some entry.2

namespace Registry

/-- Whether the type of a document goes by its own name. -/
def NamesType (registry : Registry) : Prop :=
  registry.resolve "type" = some "type" ∧
    (registry.get "type").map Definition.meaning = some .ofKinds

instance (registry : Registry) : Decidable registry.NamesType :=
  inferInstanceAs (Decidable (registry.resolve "type" = some "type" ∧
    (registry.get "type").map Definition.meaning = some .ofKinds))

theorem namesType_base : base.NamesType := by
  rw [base_eq]
  decide +kernel

theorem namesType_jsonSchema : jsonSchema.NamesType := by
  rw [jsonSchema_eq]
  decide +kernel

theorem isSome_find? {registry : Registry} {name target : String}
    (resolved : registry.resolve name = some target) (entries : List (String × Value)) :
    (registry.find? entries name).isSome =
      entries.any fun entry => registry.resolve entry.1 == some target := by
  unfold find?
  rw [resolved, Option.isSome_map, List.isSome_find?]

end Registry

namespace Schema

variable {schema : Schema} {context : Context} {others : List Bound}

theorem constraintNames_of_lists (isType : context.typeName? = some "type")
    (declares : (context.reading false).declared? context.entries = schema.declared)
    (lists : context.Lists context.entries others)
    (constraints : schema.constraints = (schema.declared.map (Bound.ofType "type")).toList ++ others) :
    schema.constraintNames = context.tabulated := by
  have isTyped : schema.declared.isSome =
      context.entries.any fun entry => context.settings.constraints.resolve entry.1 == some "type" := by
    rw [← declares, ← Registry.isSome_find? isType]
    exact Option.isSome_map
  unfold constraintNames Context.tabulated
  rw [constraints, List.map_append, Context.names_of_lists lists, ← isTyped]
  cases schema.declared <;> rfl

/-- A schema whose constraints are those of the listed entries behind the type tells what the document says. -/
theorem tabulates_of_lists (isType : context.typeName? = some "type")
    (entries : schema.document = .object context.entries)
    (registry : schema.header.registry = context.settings.constraints)
    (declares : ∀ isPartial, (context.reading isPartial).declared? context.entries = schema.declared)
    (apart : (context.denoted context.entries).Nodup) (lists : context.Lists context.entries others)
    (constraints : schema.constraints = (schema.declared.map (Bound.ofType "type")).toList ++ others) :
    schema.Tabulates context := by
  have names := constraintNames_of_lists isType (declares false) lists constraints
  refine ⟨apart, declares, ⟨others, lists, constraints⟩, ?_, names, ?_, ?_⟩
  · intro entry _ name definition _ _
    exact Context.yields_isSome_rule { context with constraint := name } definition.meaning entry.2 false
  · rw [names]
    exact Context.nodup_tabulated isType apart
  · intro name member
    rw [names] at member
    obtain ⟨entry, inside, resolved⟩ := List.mem_filterMap.mp (Context.mem_denoted_of_tabulated member)
    refine ⟨entry, inside, resolved, fun other present same => ?_, fun key spelled => ?_⟩
    · exact Option.some.inj ((Context.find?_of_apart apart present same).symm.trans
        (Context.find?_of_apart apart inside resolved))
    · have value := Context.find?_spelling apart inside resolved spelled
      refine ⟨?_, fun _ _ => value⟩
      unfold get
      rw [entries, registry]
      exact value

end Schema

namespace Site

variable {site : Site} {source : Source} {schema : Schema} {cache after : Cache}

/-- A schema that compiles over a built-in registry, at any depth, has one constraint for each key of its document
that denotes one with a rule, under its name and in the order of the keys, behind the type. No two keys denote
the same constraint, so what stands under a key is found under every spelling of its name. -/
theorem tabulates_document (builtin : site.settings.constraints = Registry.base ∨
      site.settings.constraints = Registry.jsonSchema) {levels : Nat}
    (compiled : (site.compileWithin levels source).outcome cache = (.ok schema, after)) :
    ∃ entries, source.document = .object entries ∧
      schema.Tabulates { site.context source entries with declared := schema.declared } := by
  have named : site.settings.constraints.NamesType :=
    Registry.of_builtin Registry.namesType_base Registry.namesType_jsonSchema builtin
  obtain ⟨definition, defined, meant⟩ := Option.map_eq_some_iff.mp named.2
  obtain ⟨below, rfl, compiled⟩ := compileWithin_ok compiled
  obtain ⟨entries, declared, constraints, references, isObject, ran, rfl⟩ := compileWith_ok compiled
  have yields : (site.context source entries).bindAll.Yields (fun _ _ => True) (fun _ _ => True) _ :=
    Context.yields_lists_bindAll named.1 defined meant
  have held := (Binding.yielded_of_run (fun _ => True) (fun _ _ _ => ⟨trivial, fun _ _ => trivial⟩)
    (fun _ _ _ => ⟨trivial, fun _ _ => trivial⟩) yields [] trivial).2 _ (congrArg Prod.fst ran)
  obtain ⟨declares, apart, others, bound, lists⟩ := held
  exact ⟨entries, isObject, Schema.tabulates_of_lists named.1 isObject rfl declares apart lists bound⟩

/-- A document whose type stands behind other keys, of which one is not known, one only describes the schema and
one does not apply to strings. -/
def mixed : List (String × Value) :=
  [("title", .string "code"), ("max-length", .ofNat 3), ("color", .null), ("Type", .string "string"),
    ("minimum", .ofNat 1), ("enum", .array [.string "one"])]

theorem tabulates_document_mixed :
    ∃ schema after,
      (Environment.jsonSchema 0).site.settings.constraints = Registry.jsonSchema ∧
      ((Environment.jsonSchema 0).site.compile ⟨.object mixed, none, false, 0⟩).outcome [] =
        (.ok schema, after) ∧
      schema.constraintNames = ["type", "maxLength", "enum"] ∧
      (∀ key, Registry.jsonSchema.resolve key = some "maxLength" → schema.get key = some (.ofNat 3)) ∧
      Registry.jsonSchema.resolve "max_length" = some "maxLength" := by
  have denotes : Registry.jsonSchema.resolve "max-length" = some "maxLength" ∧
      Registry.jsonSchema.resolve "max_length" = some "maxLength" := by
    rw [Registry.jsonSchema_eq]
    decide +kernel
  have builtin : (Environment.jsonSchema 0).site.settings.constraints = Registry.jsonSchema := by
    dsimp only [Environment.jsonSchema, Environment.ofTables, Environment.site]
  obtain ⟨schema, after, compiled, names⟩ := Compiling.exists_of_observed
    (show (((Environment.jsonSchema 0).site.compile ⟨.object mixed, none, false, 0⟩).outcome
        []).1.toOption.map Schema.constraintNames = some ["type", "maxLength", "enum"] by
      unfold Environment.jsonSchema
      rw [Registry.jsonSchema_eq]
      decide +kernel)
  obtain ⟨entries, same, tabulates⟩ := tabulates_document (.inr builtin) compiled
  cases same
  rw [← builtin] at denotes
  obtain ⟨entry, _, _, unique, values⟩ := tabulates.found "maxLength" (by rw [names]; decide)
  have isEntry : ("max-length", .ofNat 3) = entry := unique _ (.tail _ (.head _)) denotes.1
  refine ⟨schema, after, builtin, compiled, names, fun key spelled => ?_, builtin ▸ denotes.2⟩
  rw [← builtin] at spelled
  rw [(values key spelled).1, ← isEntry]

end Site

end Conformance
