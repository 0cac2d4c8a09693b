import Conformance.Proofs.Compilation.Postcondition
import Conformance.Proofs.Value.Parts
/-!
Where documents stand inside documents. A constraint's value may be a sub-schema, or a list or a table
of them, and three constraints have sub-schemas that a sibling reads. Compilation asks for nothing that
does not stand at such a position (`Context.asksAmong_bindAll`). So what is to hold of every schema made
of documents of some sort, without names of other schemas, is shown for one mapping at a time
(`Site.good_of_compileWithin`).
-/

namespace Conformance

/-- How a constraint's value is laid out: which parts of it are sub-schemas. -/
inductive Layout where
  | data
  /-- A type name, or a list of them. -/
  | kinds
  | whole
  /-- A sub-schema for all items, or a list of them. -/
  | items
  | list
  | table
  /-- A table of sub-schemas and of lists of names. -/
  | demands
  deriving DecidableEq, Repr

def Meaning.layout : Meaning → Layout
  | .ofKinds => .kinds
  | .contains | .additionalEntries | .entryNames | .negation | .conditional | .apply => .whole
  | .items => .items
  | .allOf | .anyOf | .oneOf => .list
  | .entries | .patternEntries => .table
  | .dependencies => .demands
  | _ => .data

/-- What stands at the sub-schema positions of a value. -/
def Layout.subschemas (value : Value) : Layout → List Value
  | .data | .kinds => []
  | .whole => [value]
  | .items =>
    match value with
    | .array schemas => schemas
    | schema => [schema]
  | .list => value.items
  | .table => value.fields.map Prod.snd
  | .demands =>
    (value.fields.map Prod.snd).filter fun demand =>
      demand.kind == .object || demand.kind == .boolean

namespace Registry

/-- Whether a key is a spelling of a name. A name that denotes no constraint is spelled in one way. -/
def spells (registry : Registry) (name key : String) : Bool :=
  match registry.resolve name with
  | some target => registry.resolve key == some target
  | none => key == name

/-- The constraints whose sub-schema is read by a sibling. -/
def readBySiblings : List String := ["additional_items", "then", "else"]

/-- The constraints whose value another constraint reads, with the layouts of their values. -/
def siblingLayouts : List (String × Layout) :=
  [("type", .kinds), ("entries", .table), ("pattern_entries", .table), ("additional_items", .whole),
    ("then", .whole), ("else", .whole), ("exclusive_maximum", .data), ("exclusive_minimum", .data)]

/-- What stands at the sub-schema positions of one entry of a document. -/
def positions (registry : Registry) (entry : String × Value) : List Value :=
  (if readBySiblings.any (registry.spells · entry.1) then [entry.2] else []) ++
    match (registry.resolve entry.1).bind registry.get with
    | some definition => definition.meaning.layout.subschemas entry.2
    | none => []

/-- What stands at the sub-schema positions of a document. -/
def subschemas (registry : Registry) (entries : List (String × Value)) : List Value :=
  entries.flatMap registry.positions

/-- Whether something holds of a document and of the documents at all its sub-schema positions, at any
depth. -/
inductive Throughout (registry : Registry) (holds : List (String × Value) → Prop) : Value → Prop
  | mapping {entries : List (String × Value)} (here : holds entries)
      (inside : ∀ document ∈ registry.subschemas entries, Throughout registry holds document) :
      Throughout registry holds (.object entries)
  | other {document : Value} (noMapping : document.kind ≠ .object) :
      Throughout registry holds document

/-- Whether a test passes at a document and at all sub-schema positions, at no more than some depth. -/
def passesWithin (registry : Registry) (test : List (String × Value) → Bool) : Nat → Value → Bool
  | 0, _ => false
  | depth + 1, .object entries =>
    test entries && (registry.subschemas entries).all (registry.passesWithin test depth)
  | _ + 1, _ => true

/-- Whether no schema is named in a document, at any depth. -/
def IsClosed (registry : Registry) (document : Value) : Prop :=
  registry.Throughout (fun entries => ∀ name, .string name ∉ registry.subschemas entries) document

/-- Whether no key in a document, at any depth, denotes the constraint of a name. -/
def Avoids (registry : Registry) (name : String) (document : Value) : Prop :=
  registry.Throughout (fun entries => ∀ entry ∈ entries, registry.resolve entry.1 ≠ some name) document

section

variable {registry : Registry} {holds holds' : List (String × Value) → Prop}
  {entries : List (String × Value)} {document : Value}

theorem Throughout.here (throughout : registry.Throughout holds (.object entries)) :
    holds entries := by
  cases throughout with
  | mapping here inside => exact here
  | other noMapping => exact absurd rfl noMapping

theorem Throughout.inside (throughout : registry.Throughout holds (.object entries))
    (member : document ∈ registry.subschemas entries) : registry.Throughout holds document := by
  cases throughout with
  | mapping here inside => exact inside document member
  | other noMapping => exact absurd rfl noMapping

theorem Throughout.and (first : registry.Throughout holds document)
    (second : registry.Throughout holds' document) :
    registry.Throughout (fun entries => holds entries ∧ holds' entries) document := by
  induction first with
  | mapping here inside ih =>
      exact .mapping ⟨here, second.here⟩ fun document member => ih document member (second.inside member)
  | other noMapping => exact .other noMapping

theorem Throughout.mono (throughout : registry.Throughout holds document)
    (weaker : ∀ entries, holds entries → holds' entries) : registry.Throughout holds' document := by
  induction throughout with
  | mapping here inside ih => exact .mapping (weaker _ here) ih
  | other noMapping => exact .other noMapping

theorem throughout_of_passesWithin {test : List (String × Value) → Bool} {depth : Nat}
    (passes : registry.passesWithin test depth document = true) :
    registry.Throughout (fun entries => test entries = true) document := by
  induction depth generalizing document with
  | zero => cases passes
  | succ depth ih =>
      by_cases mapping : document.kind = .object
      · obtain ⟨entries, rfl⟩ := Value.exists_object_of_kind mapping
        obtain ⟨here, inside⟩ := Bool.and_eq_true_iff.mp passes
        exact .mapping here fun document member => ih (List.all_eq_true.mp inside document member)
      · exact .other mapping

/-- A document is closed if no string stands at a sub-schema position. -/
theorem isClosed_of_passesWithin {depth : Nat} (passes : registry.passesWithin
    (fun entries => (registry.subschemas entries).all (·.kind != .string)) depth document = true) :
    registry.IsClosed document := by
  refine (throughout_of_passesWithin passes).mono fun entries each name member => ?_
  exact Bool.false_ne_true (List.all_eq_true.mp each _ member)

/-- A key leads to a name in the table, if the aliases do. -/
theorem mem_names_of_resolve (targets : ∀ entry ∈ registry.aliases, entry.2 ∈ registry.names)
    {key name : String} (resolved : registry.resolve key = some name) : name ∈ registry.names := by
  unfold resolve at resolved
  dsimp only at resolved
  split at resolved
  · rename_i defined
    cases resolved
    exact (Table.has_iff_mem_names _ _).mp defined
  · exact targets _ (Table.mem_of_lookup resolved)

theorem find?_eq (registry : Registry) (entries : List (String × Value)) (name : String) :
    registry.find? entries name =
      (entries.find? fun entry => registry.spells name entry.1).map Prod.snd := by
  unfold find? spells
  cases registry.resolve name with
  | some target => rfl
  | none =>
      induction entries with
      | nil => rfl
      | cons entry entries ih =>
          by_cases same : entry.1 = name
          · simp [Table.lookup, same]
          · simpa [Table.lookup, same] using ih

theorem mem_positions_of_spells {name : String} {entry : String × Value}
    (listed : name ∈ readBySiblings) (spelled : registry.spells name entry.1 = true) :
    entry.2 ∈ registry.positions entry := by
  have read : readBySiblings.any (registry.spells · entry.1) = true :=
    List.any_eq_true.mpr ⟨name, listed, spelled⟩
  unfold positions
  rw [if_pos read]
  exact List.mem_append_left _ List.mem_cons_self

theorem mem_positions_of_layout {entry : String × Value} {name : String} {definition : Definition}
    (resolved : registry.resolve entry.1 = some name)
    (defined : registry.get name = some definition)
    (member : document ∈ definition.meaning.layout.subschemas entry.2) :
    document ∈ registry.positions entry := by
  unfold positions
  rw [resolved, Option.bind_some, defined]
  exact List.mem_append_right _ member

theorem mem_subschemas {entry : String × Value} (listed : entry ∈ entries)
    (member : document ∈ registry.positions entry) : document ∈ registry.subschemas entries :=
  List.mem_flatMap.mpr ⟨entry, listed, member⟩

end

end Registry

namespace Layout

/-- What stands at a sub-schema position of a value is the value itself, or stands inside it. -/
theorem mem_subschemas {layout : Layout} {value document : Value}
    (member : document ∈ layout.subschemas value) :
    document = value ∨ document ∈ value.items ∨ ∃ field ∈ value.fields, field.2 = document := by
  cases layout with
  | data => cases member
  | kinds => cases member
  | whole => exact .inl (List.mem_singleton.mp member)
  | items =>
      cases value with
      | array schemas => exact .inr (.inl member)
      | _ => exact .inl (List.mem_singleton.mp member)
  | list => exact .inr (.inl member)
  | table => exact .inr (.inr (List.mem_map.mp member))
  | demands => exact .inr (.inr (List.mem_map.mp (List.mem_filter.mp member).1))

end Layout

namespace Registry

variable {registry : Registry}

theorem mem_positions {entry : String × Value} {document : Value}
    (member : document ∈ registry.positions entry) :
    document = entry.2 ∨ document ∈ entry.2.items ∨ ∃ field ∈ entry.2.fields, field.2 = document := by
  unfold positions at member
  rcases List.mem_append.mp member with sibling | own
  · split at sibling
    · exact .inl (List.mem_singleton.mp sibling)
    · cases sibling
  · split at own
    · exact Layout.mem_subschemas own
    · cases own

theorem sizeOf_lt_of_mem_subschemas {entries : List (String × Value)} {document : Value}
    (member : document ∈ registry.subschemas entries) : sizeOf document < sizeOf entries := by
  obtain ⟨entry, listed, position⟩ := List.mem_flatMap.mp member
  have below : sizeOf entry.2 < sizeOf entries :=
    Value.sizeOf_lt_of_mem_entries (show (entry.1, entry.2) ∈ entries from listed)
  rcases mem_positions position with rfl | item | ⟨field, inside, rfl⟩
  · exact below
  · have smaller := Value.sizeOf_lt_of_mem_items item
    omega
  · have smaller :=
      Value.sizeOf_lt_of_mem_fields (show (field.1, field.2) ∈ entry.2.fields from inside)
    omega

theorem everywhere_of_mem_subschemas {test : Value → Bool} {entries : List (String × Value)}
    {document : Value} (passes : (Value.object entries).everywhere test = true)
    (member : document ∈ registry.subschemas entries) : document.everywhere test = true := by
  obtain ⟨entry, listed, position⟩ := List.mem_flatMap.mp member
  have value : entry.2.everywhere test = true :=
    ((Value.everywhere_iff test _).mp passes).2.2 entry listed
  have parts := (Value.everywhere_iff test _).mp value
  rcases mem_positions position with rfl | item | ⟨field, inside, rfl⟩
  · exact value
  · exact parts.2.1 document item
  · exact parts.2.2 field inside

/-- A test that passes everywhere in a document passes at its sub-schema positions, at any depth. -/
theorem throughout_of_everywhere {test : Value → Bool} {document : Value}
    (passes : document.everywhere test = true) :
    registry.Throughout (fun entries => (Value.object entries).everywhere test = true) document := by
  induction measured : sizeOf document using Nat.strongRecOn generalizing document with
  | ind size ih =>
      cases document with
      | object entries =>
          refine .mapping passes fun inner member => ?_
          have inside := sizeOf_lt_of_mem_subschemas member
          have smaller : sizeOf inner < size := by
            simp only [Value.object.sizeOf_spec] at measured
            omega
          exact ih _ smaller (everywhere_of_mem_subschemas passes member) rfl
      | number number => cases number <;> exact .other (fun same => by cases same)
      | _ => exact .other (fun same => by cases same)

end Registry

namespace Binding

variable {α β : Type} {documents documents' : List Value} {script : Binding α}

/-- Whether a script asks for listed documents only, and only for names that are listed as strings,
whatever the answers are. -/
def AsksAmong (documents : List Value) : Binding α → Prop
  | .done _ => True
  | .failed _ => True
  | .inner document next => document ∈ documents ∧ ∀ schema, (next schema).AsksAmong documents
  | .named name next => .string name ∈ documents ∧ ∀ schema, (next schema).AsksAmong documents

theorem AsksAmong.mono (asks : script.AsksAmong documents)
    (more : ∀ document ∈ documents, document ∈ documents') : script.AsksAmong documents' := by
  induction script with
  | done result => trivial
  | failed error => trivial
  | inner document next ih => exact ⟨more _ asks.1, fun schema => ih schema (asks.2 schema)⟩
  | named name next ih => exact ⟨more _ asks.1, fun schema => ih schema (asks.2 schema)⟩

theorem AsksAmong.bind {next : α → Binding β} (asks : script.AsksAmong documents)
    (rest : ∀ result, (next result).AsksAmong documents) : (script >>= next).AsksAmong documents := by
  induction script with
  | done result => exact rest result
  | failed error => trivial
  | inner document continuation ih => exact ⟨asks.1, fun schema => ih schema (asks.2 schema)⟩
  | named name continuation ih => exact ⟨asks.1, fun schema => ih schema (asks.2 schema)⟩

theorem AsksAmong.map (asks : script.AsksAmong documents) (f : α → β) :
    (script >>= fun result => pure (f result)).AsksAmong documents :=
  asks.bind fun _ => trivial

theorem asksAmong_ofExcept (result : Except CompileError α) (documents : List Value) :
    (ofExcept result).AsksAmong documents := by
  cases result with
  | error error => trivial
  | ok result => trivial

/-- A script that asks among documents yields what it does if schemas are good for these documents only,
and known for the names among them only. -/
theorem Yields.asked {good : Value → Schema → Prop} {known : String → Schema → Prop}
    {post : α → Prop} (asks : script.AsksAmong documents) (yields : script.Yields good known post) :
    script.Yields (fun document schema => document ∈ documents → good document schema)
      (fun name schema => .string name ∈ documents → known name schema) post := by
  induction script with
  | done result => exact yields
  | failed error => trivial
  | inner document next ih =>
      exact fun schema isGood => ih schema (asks.2 schema) (yields schema (isGood asks.1))
  | named name next ih =>
      exact fun schema isKnown => ih schema (asks.2 schema) (yields schema (isKnown asks.1))

/-- A script that asks among documents ensures what it does if schemas are good for these documents. -/
theorem Ensures.among {good good' : Value → Schema → Prop} {post : α → Prop}
    (ensures : script.Ensures good post) (asks : script.AsksAmong documents)
    (weaker : ∀ document ∈ documents, ∀ schema, good' document schema → good document schema) :
    script.Ensures good' post := by
  induction script with
  | done result => exact ensures
  | failed error => trivial
  | inner document next ih =>
      intro schema isGood
      exact ih schema (ensures schema (weaker document asks.1 schema isGood)) (asks.2 schema)
  | named name next ih => trivial

/-- A run whose questions are among documents without names ensures what its script does. -/
theorem ensured_of_asked {inner : Value → Compiling Schema} {named : String → Compiling Schema}
    {good : Value → Schema → Prop} {post : α → Prop}
    (asks : script.AsksAmong documents) (unnamed : ∀ name, .string name ∉ documents)
    (answers : ∀ {document cache schema after}, document ∈ documents →
      (inner document).outcome cache = (.ok schema, after) → good document schema)
    (ensures : script.Ensures good post) {references references' : NameSet} {cache after : Cache}
    {result : α} (ran : (script.run inner named references).outcome cache =
      (.ok (result, references'), after)) : post result := by
  induction script generalizing references cache with
  | done value =>
      cases ran
      exact ensures
  | failed error => cases ran
  | inner document next ih =>
      obtain ⟨schema, between, answered, rest⟩ := run_inner_ok ran
      exact ih schema (asks.2 schema) (ensures schema (answers asks.1 answered)) rest
  | named name next ih => exact absurd asks.1 (unnamed name)

end Binding

namespace Context

open Binding

variable (context : Context)

theorem asksAmong_subschema (value : Value) : (context.subschema value).AsksAmong [value] := by
  unfold subschema
  split
  · trivial
  · trivial
  · exact ⟨List.mem_cons_self, fun _ => trivial⟩
  · exact ⟨List.mem_cons_self, fun _ => trivial⟩
  · trivial

theorem asksAmong_subschema_of_mem {value : Value} {documents : List Value}
    (member : value ∈ documents) : (context.subschema value).AsksAmong documents := by
  refine (context.asksAmong_subschema value).mono fun document same => ?_
  rw [List.mem_singleton.mp same]
  exact member

theorem asksAmong_subschemasOfItems (values : List Value) :
    (context.subschemasOfItems values).AsksAmong values := by
  induction values with
  | nil => trivial
  | cons value values ih =>
      refine (context.asksAmong_subschema_of_mem List.mem_cons_self).bind fun _ => ?_
      exact (ih.mono fun document member => List.mem_cons_of_mem _ member).map _

theorem asksAmong_subschemas (value : Value) :
    (context.subschemas value).AsksAmong (Layout.list.subschemas value) := by
  unfold subschemas
  split
  · exact context.asksAmong_subschemasOfItems _
  · trivial

theorem asksAmong_subschemasOfEntries (entries : List (String × Value)) :
    (context.subschemasOfEntries entries).AsksAmong (entries.map Prod.snd) := by
  induction entries with
  | nil => trivial
  | cons entry entries ih =>
      refine (context.asksAmong_subschema_of_mem List.mem_cons_self).bind fun _ => ?_
      exact (ih.mono fun document member => List.mem_cons_of_mem _ member).map _

theorem asksAmong_subschemaTable (value : Value) :
    (context.subschemaTable value).AsksAmong (Layout.table.subschemas value) := by
  unfold subschemaTable
  split
  · exact context.asksAmong_subschemasOfEntries _
  · trivial

theorem asksAmong_siblingSubschema? {name : String} (listed : name ∈ Registry.readBySiblings) :
    (context.siblingSubschema? name).AsksAmong
      (context.settings.constraints.subschemas context.entries) := by
  unfold siblingSubschema?
  split
  · rename_i value found
    unfold sibling? at found
    rw [Registry.find?_eq] at found
    obtain ⟨entry, foundEntry, rfl⟩ := Option.map_eq_some_iff.mp found
    have spelled := List.find?_some foundEntry
    have position := Registry.mem_positions_of_spells listed spelled
    have member := Registry.mem_subschemas (List.mem_of_find?_eq_some foundEntry) position
    exact (context.asksAmong_subschema_of_mem member).map _
  · trivial

theorem asksAmong_dependency (key : String) {value : Value} {documents : List Value}
    (member : value.kind = .object ∨ value.kind = .boolean → value ∈ documents) :
    (context.dependency key value).AsksAmong documents := by
  unfold dependency
  split
  · exact (asksAmong_ofExcept _ _).bind fun _ => trivial
  · exact (context.asksAmong_subschema_of_mem (member (.inl rfl))).map _
  · exact (context.asksAmong_subschema_of_mem (member (.inr rfl))).map _
  · trivial

theorem asksAmong_dependenciesOfEntries (entries : List (String × Value)) {documents : List Value}
    (members : ∀ entry ∈ entries,
      entry.2.kind = .object ∨ entry.2.kind = .boolean → entry.2 ∈ documents) :
    (context.dependenciesOfEntries entries).AsksAmong documents := by
  induction entries with
  | nil => trivial
  | cons entry entries ih =>
      refine (context.asksAmong_dependency entry.1 (members entry List.mem_cons_self)).bind
        fun _ => ?_
      exact (ih fun other member => members other (List.mem_cons_of_mem _ member)).map _

theorem asksAmong_dependencies (value : Value) :
    (context.dependencies value).AsksAmong (Layout.demands.subschemas value) := by
  unfold dependencies
  split
  · refine (context.asksAmong_dependenciesOfEntries _ fun entry member kind => ?_).map _
    refine List.mem_filter.mpr ⟨List.mem_map_of_mem member, ?_⟩
    rcases kind with object | boolean
    · simp [object]
    · simp [boolean]
  · trivial

/-- The rule of a constraint asks for what stands at the positions of its value and of its siblings. -/
theorem asksAmong_rule (meaning : Meaning) (value : Value) {documents : List Value}
    (own : ∀ document ∈ meaning.layout.subschemas value, document ∈ documents)
    (siblings : ∀ document ∈ context.settings.constraints.subschemas context.entries,
      document ∈ documents) : (context.rule meaning value).AsksAmong documents := by
  have single (same : meaning.layout = .whole) : (context.subschema value).AsksAmong documents := by
    rw [same] at own
    exact context.asksAmong_subschema_of_mem (own value List.mem_cons_self)
  have list (same : meaning.layout = .list) : (context.subschemas value).AsksAmong documents := by
    rw [same] at own
    exact (context.asksAmong_subschemas value).mono own
  have table (same : meaning.layout = .table) :
      (context.subschemaTable value).AsksAmong documents := by
    rw [same] at own
    exact (context.asksAmong_subschemaTable value).mono own
  have sibling {name : String} (listed : name ∈ Registry.readBySiblings) :
      (context.siblingSubschema? name).AsksAmong documents :=
    (context.asksAmong_siblingSubschema? listed).mono siblings
  unfold rule
  split
  · trivial
  · have items : (context.items value).AsksAmong documents := by
      unfold Context.items
      split
      · refine ((context.asksAmong_subschemasOfItems _).mono own).bind fun _ => ?_
        exact (sibling (by decide)).map _
      · rename_i notArray
        refine (context.asksAmong_subschema_of_mem (own value ?_)).map _
        cases value with
        | array items => exact absurd rfl (notArray items)
        | _ => exact List.mem_cons_self
    exact items.map _
  · exact (single rfl).map _
  · exact (table rfl).map _
  · have patterns : (context.patternEntries value).AsksAmong documents :=
      (table rfl).bind fun _ => (asksAmong_ofExcept _ _).bind fun _ => trivial
    exact patterns.map _
  · have additional : (context.additionalEntries value).AsksAmong documents :=
      (single rfl).bind fun _ => (asksAmong_ofExcept _ _).bind fun _ => trivial
    exact additional.map _
  · exact ((context.asksAmong_dependencies value).mono own).map _
  · exact (single rfl).map _
  · exact (list rfl).map _
  · exact (list rfl).map _
  · exact (list rfl).map _
  · exact (single rfl).map _
  · refine (single rfl).bind fun _ => (sibling (by decide)).bind fun _ => ?_
    exact (sibling (by decide)).map _
  · exact (single rfl).map _
  · exact (asksAmong_ofExcept _ _).bind fun _ => trivial

theorem asksAmong_bindType : context.bindType.AsksAmong
    (context.settings.constraints.subschemas context.entries) := by
  unfold bindType
  split
  · rename_i name value resolved found
    unfold sibling? at found
    rw [Registry.find?_eq] at found
    obtain ⟨entry, foundEntry, rfl⟩ := Option.map_eq_some_iff.mp found
    have spelled : context.settings.constraints.resolve entry.1 = some name := by
      have spells := List.find?_some foundEntry
      unfold typeName? at resolved
      unfold Registry.spells at spells
      rw [resolved] at spells
      exact eq_of_beq spells
    refine (asksAmong_ofExcept _ _).bind fun _ => ?_
    split
    · rename_i definition defined
      refine AsksAmong.map (asksAmong_rule { context with constraint := name } _ _ ?_ ?_) _
      · intro document member
        exact Registry.mem_subschemas (List.mem_of_find?_eq_some foundEntry)
          (Registry.mem_positions_of_layout spelled defined member)
      · exact fun document member => member
    · trivial
  · trivial

theorem asksAmong_bindEntries (seen : List String) {entries : List (String × Value)}
    (listed : ∀ entry ∈ entries, entry ∈ context.entries) :
    (context.bindEntries seen entries).AsksAmong
      (context.settings.constraints.subschemas context.entries) := by
  induction entries generalizing seen with
  | nil => trivial
  | cons entry entries ih =>
      have others : ∀ entry ∈ entries, entry ∈ context.entries :=
        fun other member => listed other (List.mem_cons_of_mem _ member)
      unfold bindEntries
      split
      · split
        · trivial
        · exact ih seen others
      · rename_i name resolved
        split
        · trivial
        · split
          · exact (ih _ others).map _
          · split
            · rename_i definition defined
              refine AsksAmong.bind ?_ fun _ => (ih _ others).map _
              unfold bindConstraint
              split
              · split
                · trivial
                · trivial
              · refine AsksAmong.map (asksAmong_rule { context with constraint := name } _ _ ?_ ?_) _
                · intro document member
                  exact Registry.mem_subschemas (listed entry List.mem_cons_self)
                    (Registry.mem_positions_of_layout resolved defined member)
                · exact fun document member => member
            · exact (ih _ others).map _

/-- Compilation asks for what stands at the sub-schema positions of a document only. -/
theorem asksAmong_bindAll : context.bindAll.AsksAmong
    (context.settings.constraints.subschemas context.entries) := by
  refine context.asksAmong_bindType.bind fun bound => ?_
  refine AsksAmong.map ?_ _
  exact asksAmong_bindEntries { context with declared := bound.1 } [] fun _ member => member

end Context

namespace Site

variable {site : Site} {source : Source} {schema : Schema} {cache after : Cache}
  {holds : List (String × Value) → Prop} {good : Schema → Prop}

/-- What is to hold of documents and their schemas holds of every document without names, if it holds of a
mapping, given that it holds of the documents inside. The induction is on the levels of the compilation. -/
theorem goodFor_of_compileWithin {good : Value → Schema → Prop}
    (step : ∀ source entries, source.document = .object entries →
      (site.context source entries).bindAll.Ensures good fun bound =>
        ∀ references, good (.object entries) (site.schema source bound.1 bound.2 references))
    {levels : Nat} (compiled : (site.compileWithin levels source).outcome cache = (.ok schema, after))
    (closed : site.settings.constraints.IsClosed source.document) : good source.document schema := by
  induction levels generalizing source schema cache after with
  | zero => cases compiled
  | succ below ih =>
      obtain ⟨entries, declared, constraints, references, isObject, ran, rfl⟩ :=
        compileWith_ok compiled
      rw [isObject] at closed ⊢
      refine Binding.ensured_of_asked (site.context source entries).asksAmong_bindAll closed.here ?_
        (step source entries isObject) ran references
      exact fun member answered => ih answered (closed.inside member)

/-- A property of schemas holds of all that are made of documents of some sort, if it holds of every
mapping of that sort, given that it holds of the schemas of the documents inside. -/
theorem good_of_compileWithin
    (step : ∀ source entries, source.document = .object entries → holds entries →
      (site.context source entries).bindAll.Ensures (fun _ schema => good schema) fun bound =>
        ∀ references, good (site.schema source bound.1 bound.2 references)) {levels : Nat}
    (compiled : (site.compileWithin levels source).outcome cache = (.ok schema, after))
    (closed : site.settings.constraints.IsClosed source.document)
    (throughout : site.settings.constraints.Throughout holds source.document) : good schema := by
  refine @goodFor_of_compileWithin site source schema cache after (fun document schema =>
    site.settings.constraints.Throughout holds document → good schema) (fun source entries isObject => ?_)
    levels compiled closed throughout
  by_cases sorted : site.settings.constraints.Throughout holds (.object entries)
  · have ensures := (step source entries isObject sorted.here).mono fun bound held references
      (_ : site.settings.constraints.Throughout holds (.object entries)) => held references
    refine ensures.among (site.context source entries).asksAmong_bindAll ?_
    exact fun document member schema isGood => isGood (sorted.inside member)
  · exact (Binding.ensures_trivial _).mono fun bound _ references throughout =>
      absurd throughout sorted

end Site

end Conformance
