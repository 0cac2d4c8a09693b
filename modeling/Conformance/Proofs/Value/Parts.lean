import Conformance.Proofs.Satisfaction.Relation
/-!
The parts of nested values. A test can be put to a value and to everything inside it; two such tests
say that no object repeats a key, as is the case of values that were built by insertion, and that no
number is a double.
-/

namespace Conformance

namespace Value

theorem exists_string_of_kind {value : Value} (kind : value.kind = .string) :
    ∃ text, value = .string text := by
  cases value with
  | string text => exact ⟨text, rfl⟩
  | number number => cases number <;> cases kind
  | _ => cases kind

theorem exists_array_of_kind {value : Value} (kind : value.kind = .array) :
    ∃ items, value = .array items := by
  cases value with
  | array items => exact ⟨items, rfl⟩
  | number number => cases number <;> cases kind
  | _ => cases kind

theorem exists_object_of_kind {value : Value} (kind : value.kind = .object) :
    ∃ members, value = .object members := by
  cases value with
  | object members => exact ⟨members, rfl⟩
  | number number => cases number <;> cases kind
  | _ => cases kind

mutual

/-- Whether a test passes at a value and at everything inside it. -/
def everywhere (test : Value → Bool) : Value → Bool
  | .array items => test (.array items) && everywhereItems test items
  | .object entries => test (.object entries) && everywhereEntries test entries
  | value => test value
termination_by structural value => value

def everywhereItems (test : Value → Bool) : List Value → Bool
  | [] => true
  | item :: items => everywhere test item && everywhereItems test items
termination_by structural items => items

def everywhereEntries (test : Value → Bool) : List (String × Value) → Bool
  | [] => true
  | (_, value) :: entries => everywhere test value && everywhereEntries test entries
termination_by structural entries => entries

end

theorem everywhereItems_iff (test : Value → Bool) (items : List Value) :
    everywhereItems test items = true ↔ ∀ item ∈ items, item.everywhere test = true := by
  induction items with
  | nil => simp [everywhereItems]
  | cons item items ih => simp [everywhereItems, ih]

theorem everywhereEntries_iff (test : Value → Bool) (entries : List (String × Value)) :
    everywhereEntries test entries = true ↔
      ∀ entry ∈ entries, entry.2.everywhere test = true := by
  induction entries with
  | nil => simp [everywhereEntries]
  | cons entry entries ih => simp [everywhereEntries, ih]

theorem everywhere_iff (test : Value → Bool) (value : Value) :
    value.everywhere test = true ↔ test value = true ∧
      (∀ item ∈ value.items, item.everywhere test = true) ∧
      ∀ field ∈ value.fields, field.2.everywhere test = true := by
  cases value with
  | array items => simp [everywhere, everywhereItems_iff, Value.items, fields]
  | object entries => simp [everywhere, everywhereEntries_iff, Value.items, fields]
  | _ => simp [everywhere, Value.items, fields]

/-- Induction on the nesting of values. -/
theorem nested_induction {holds : Value → Prop}
    (step : ∀ value, (∀ item ∈ value.items, holds item) →
      (∀ field ∈ value.fields, holds field.2) → holds value) (value : Value) : holds value := by
  apply step value
  · intro item member
    have smaller := sizeOf_lt_of_mem_items member
    exact nested_induction step item
  · intro field member
    have smaller := sizeOf_lt_of_mem_fields (show (field.1, field.2) ∈ value.fields from member)
    exact nested_induction step field.2
termination_by sizeOf value

/-- Whether no object in a value repeats a key. -/
def isKeyed (value : Value) : Bool :=
  value.everywhere fun part => decide (Table.names part.fields).Nodup

/-- Whether no number in a value is a double. -/
def isFloatless (value : Value) : Bool := value.everywhere fun part => part.kind != .float

theorem isKeyed_iff (value : Value) : value.isKeyed = true ↔
    (Table.names value.fields).Nodup ∧ (∀ item ∈ value.items, item.isKeyed = true) ∧
      ∀ field ∈ value.fields, field.2.isKeyed = true := by
  unfold isKeyed
  rw [everywhere_iff, decide_eq_true_iff]

theorem isFloatless_iff (value : Value) : value.isFloatless = true ↔
    value.kind ≠ .float ∧ (∀ item ∈ value.items, item.isFloatless = true) ∧
      ∀ field ∈ value.fields, field.2.isFloatless = true := by
  unfold isFloatless
  rw [everywhere_iff, bne_iff_ne]

end Value

end Conformance
