import Conformance.Compilation
/-!
What a document says of an instance. The relation `Reading.Satisfies` is defined by recursion on the
document, without compiling it: the type of a document admits kinds, and every other constraint that
applies to the kind of an instance has a relation of its own.
-/

namespace Conformance

namespace Value

/-- The items of an array; other values have none. -/
def items : Value → List Value
  | .array items => items
  | _ => []

/-- The entries of an object; other values have none. -/
def fields : Value → List (String × Value)
  | .object entries => entries
  | _ => []

/-- The number that a value is or spells. -/
def amount? : Value → Option Number
  | .number amount => some amount
  | .string text => (Number.ofText (Text.trim text)).toOption
  | _ => none

/-- The natural number that a value is. -/
def limit? : Value → Option Nat
  | .number amount => amount.natural?
  | _ => none

theorem sizeOf_lt_of_mem_items {value item : Value} (member : item ∈ value.items) :
    sizeOf item < sizeOf value := by
  cases value with
  | array items =>
      have smaller := List.sizeOf_lt_of_mem (show item ∈ items from member)
      simp only [Value.array.sizeOf_spec]
      omega
  | _ => cases member

theorem sizeOf_lt_of_mem_entries {entries : List (String × Value)} {key : String} {value : Value}
    (member : (key, value) ∈ entries) : sizeOf value < sizeOf entries := by
  have smaller := List.sizeOf_lt_of_mem member
  simp only [Prod.mk.sizeOf_spec] at smaller
  omega

theorem sizeOf_lt_of_mem_fields {value field : Value} {name : String}
    (member : (name, field) ∈ value.fields) : sizeOf field < sizeOf value := by
  cases value with
  | object entries =>
      have smaller := sizeOf_lt_of_mem_entries (show (name, field) ∈ entries from member)
      simp only [Value.object.sizeOf_spec]
      omega
  | _ => cases member

end Value

/-- Whether an instance is of one of some kinds. A whole double counts as an integer. -/
def IsOfKinds (kinds : KindSet) (subject : Value) : Prop :=
  subject.kind ∈ kinds ∨
    ∃ double, subject = .number (.float double) ∧ Kind.integer ∈ kinds ∧
      (Number.float double).integer?.isSome

/-- Whether a number stands in a relation to the amount in a constraint's value. -/
def Compares (value subject : Value) (holds : (bound number : Number) → Bool) : Prop :=
  ∃ bound number, value.amount? = some bound ∧ subject = .number number ∧ holds bound number = true

/-- Whether the length of a string stands in a relation to the limit in a constraint's value. -/
def Measures (value subject : Value) (holds : (limit length : Nat) → Prop) : Prop :=
  ∃ limit text, value.limit? = some limit ∧ subject = .string text ∧ holds limit text.length

/-- Whether the size of an array or object stands in a relation to the limit in a constraint's
value. -/
def Counts (value subject : Value) (holds : (limit size : Nat) → Prop) : Prop :=
  ∃ limit size noun, value.limit? = some limit ∧ Check.size? subject = some (size, noun) ∧
    holds limit size

/-- How documents are read. -/
structure Reading where
  settings : Settings
  strict : Bool
  /-- Whether instances are partial. -/
  isPartial : Bool

namespace Reading

variable (reading : Reading)

/-- The value of a sibling constraint, under any spelling of its name. -/
def sibling? (entries : List (String × Value)) (name : String) : Option Value :=
  reading.settings.constraints.find? entries name

/-- Whether the boolean form of an exclusive bound is set. -/
def isExclusive (entries : List (String × Value)) (name : String) : Bool :=
  match reading.sibling? entries name with
  | some (.bool value) => value
  | _ => false

/-- The kinds that a type name denotes. -/
def kindsOfName : Value → KindSet
  | .string name => (Table.lookup reading.settings.types name).getD .none
  | _ => .none

/-- The kinds that a type name or a list of them denotes. -/
def kinds : Value → KindSet
  | .array names => names.foldl (fun kinds name => kinds.union (reading.kindsOfName name)) .none
  | value => reading.kindsOfName value

/-- The kinds that the type of a document admits, if it has one. -/
def declared? (entries : List (String × Value)) : Option KindSet :=
  (reading.sibling? entries "type").map reading.kinds

/-- Whether an instance is of the type of a document, if the document has one. -/
def Admits (entries : List (String × Value)) (subject : Value) : Prop :=
  ∀ declared, reading.declared? entries = some declared → IsOfKinds declared subject

/-- Whether a constraint applies to some kind that a document admits. -/
def Reaches (entries : List (String × Value)) (definition : Definition) : Prop :=
  ∀ declared, reading.declared? entries = some declared →
    ∃ kind, kind ∈ declared ∧ kind ∈ definition.applicableKinds

/-- Whether a key denotes a constraint other than the type, which applies to some kind that the
document admits. -/
def Governs (entries : List (String × Value)) (key : String) (definition : Definition) : Prop :=
  ∃ name, reading.settings.constraints.resolve key = some name ∧
    reading.settings.constraints.resolve "type" ≠ some name ∧
    reading.settings.constraints.get name = some definition ∧
    reading.Reaches entries definition

/-- Whether a constraint's value asks for anything. -/
def Binds (entries : List (String × Value)) (value : Value) : Meaning → Prop
  | .remark => False
  | .exclusiveMaximum | .exclusiveMinimum => ∀ flag, value ≠ .bool flag
  | .format =>
    ∃ name, value = .string name ∧ reading.settings.config.ignoresFormat name = false ∧
      (reading.settings.formats.lookup name).isSome
  | .uniqueItems | .even => value = .bool true
  | .conditional =>
    (reading.sibling? entries "then").isSome ∨ (reading.sibling? entries "else").isSome
  | _ => True

theorem sizeOf_lt_of_sibling {entries : List (String × Value)} {name : String} {value : Value}
    (found : reading.sibling? entries name = some value) : sizeOf value < sizeOf entries := by
  unfold sibling? Registry.find? at found
  split at found
  · obtain ⟨entry, foundEntry, rfl⟩ := Option.map_eq_some_iff.mp found
    exact Value.sizeOf_lt_of_mem_entries (List.mem_of_find?_eq_some foundEntry)
  · exact Value.sizeOf_lt_of_mem_entries (Table.mem_of_lookup found)

mutual

/-- Whether an instance satisfies a document. -/
def Satisfies (document subject : Value) : Prop :=
  match document with
  | .bool accepted => accepted = true
  | .object entries =>
    reading.Admits entries subject ∧
    ∀ key value, (key, value) ∈ entries → ∀ definition, reading.Governs entries key definition →
      reading.Binds entries value definition.meaning →
      if subject.kind ∈ definition.applicableKinds then
        Upholds entries definition.meaning value subject
      else ¬ (reading.declared? entries = none ∧ reading.strict = true)
  | _ => False
termination_by 2 * sizeOf document
decreasing_by
  have smaller := Value.sizeOf_lt_of_mem_entries (by assumption)
  simp only [Value.object.sizeOf_spec]
  omega

/-- The relation of a constraint: what its value asks of instances, given its meaning and the document
that it stands in. -/
def Upholds (entries : List (String × Value)) (meaning : Meaning) (value subject : Value) : Prop :=
  match meaning with
  | .remark => True
  | .ofKinds => IsOfKinds (reading.kinds value) subject
  | .among => ∃ choice ∈ value.items, (choice == subject) = true
  | .constant => (subject == value) = true
  | .multipleOf => Compares value subject fun divisor number => number.isMultipleOf divisor
  | .maximum =>
    Compares value subject fun bound number =>
      if reading.isExclusive entries "exclusive_maximum" then number.isBelow bound
      else number.isAtMost bound
  | .minimum =>
    Compares value subject fun bound number =>
      if reading.isExclusive entries "exclusive_minimum" then bound.isBelow number
      else bound.isAtMost number
  | .exclusiveMaximum => Compares value subject fun bound number => number.isBelow bound
  | .exclusiveMinimum => Compares value subject fun bound number => bound.isBelow number
  | .maxLength => Measures value subject fun limit length => length ≤ limit
  | .minLength => Measures value subject fun limit length => limit ≤ length
  | .pattern =>
    ∃ source shape text, value = .string source ∧ Pattern.ofSource source = .ok shape ∧
      subject = .string text ∧ shape.isMatch text = true
  | .format =>
    ∃ name grammar text, value = .string name ∧
      reading.settings.formats.lookup name = some grammar ∧ subject = .string text ∧
      grammar.accepts text = true
  | .items =>
    ∃ items, subject = .array items ∧
      match value with
      | .array schemas =>
        schemas.length ≤ items.length ∧
        ∀ (position : Nat) (item : Value), items[position]? = some item →
          (∀ schema, schemas[position]? = some schema → Satisfies schema item) ∧
          (schemas[position]? = none →
            ∀ rest, reading.sibling? entries "additional_items" = some rest → Satisfies rest item)
      | schema => ∀ item ∈ items, Satisfies schema item
  | .maxSize => Counts value subject fun limit size => size ≤ limit
  | .minSize => Counts value subject fun limit size => limit ≤ size
  | .uniqueItems =>
    ∃ items, subject = .array items ∧ items.Pairwise fun first second => (first == second) = false
  | .contains => ∃ items, subject = .array items ∧ ∃ item ∈ items, Satisfies value item
  | .required =>
    reading.isPartial = true ∨ ∃ members, subject = .object members ∧
      ∀ name, .string name ∈ value.items → Table.has members name = true
  | .entries =>
    ∃ members, subject = .object members ∧ ∀ name schema, (name, schema) ∈ value.fields →
      ∀ member, Table.lookup members name = some member → Satisfies schema member
  | .patternEntries =>
    ∃ members, subject = .object members ∧ ∀ source schema, (source, schema) ∈ value.fields →
      ∀ shape, Pattern.ofSource source = .ok shape →
      ∀ name member, Table.lookup members name = some member → shape.isMatch name = true →
        Satisfies schema member
  | .additionalEntries =>
    ∃ members, subject = .object members ∧
      ∀ name member, Table.lookup members name = some member →
        name ∉ Table.names ((reading.sibling? entries "entries").getD .null).fields →
        (∀ source ∈ Table.names ((reading.sibling? entries "pattern_entries").getD .null).fields,
          ∀ shape, Pattern.ofSource source = .ok shape → shape.isMatch name = false) →
        Satisfies value member
  | .dependencies =>
    value.fields = [] ∨ ∃ members, subject = .object members ∧
      ∀ name demand, (name, demand) ∈ value.fields → Table.has members name = true →
        match demand with
        | .array peers =>
          reading.isPartial = true ∨
            ∀ peer, .string peer ∈ peers → Table.has members peer = true
        | _ => Satisfies demand subject
  | .entryNames =>
    ∃ members, subject = .object members ∧
      ∀ name ∈ Table.names members, Satisfies value (.string name)
  | .allOf => ∀ schema, schema ∈ value.items → Satisfies schema subject
  | .anyOf => ∃ schema, ∃ _ : schema ∈ value.items, Satisfies schema subject
  | .oneOf =>
    ∃ position, position < value.items.length ∧
      ∀ (other : Nat) (schema : Value), value.items[other]? = some schema →
        (Satisfies schema subject ↔ other = position)
  | .negation => ¬ Satisfies value subject
  | .conditional =>
    (Satisfies value subject → ∀ schema, reading.sibling? entries "then" = some schema →
      Satisfies schema subject) ∧
    (¬ Satisfies value subject → ∀ schema, reading.sibling? entries "else" = some schema →
      Satisfies schema subject)
  | .even => ∃ number, subject = .number number ∧ number.isMultipleOf Check.two = true
  | .probe => False
  | .apply => Satisfies value subject
termination_by 2 * max (sizeOf entries) (sizeOf value) + 1
decreasing_by
  -- What is compared is the value itself, one of its items or entries, or a sibling.
  all_goals first
    | omega
    | have smaller := Value.sizeOf_lt_of_mem_fields (by assumption); omega
    | have smaller := Value.sizeOf_lt_of_mem_items (by assumption); omega
    | have smaller := sizeOf_lt_of_sibling reading (by assumption); omega
    | have smaller := Value.sizeOf_lt_of_mem_items (List.mem_of_getElem? (by assumption)); omega
    | have smaller := List.sizeOf_lt_of_mem (List.mem_of_getElem? (by assumption))
      simp only [Value.array.sizeOf_spec]
      omega

end

end Reading

end Conformance
