/-!
The eight kinds of value and the sets of them. A set of kinds is a word of eight bits, one bit
for each kind, so that union, intersection and inclusion are bitwise and every statement about
sets of kinds is about finitely many words.
-/

namespace Conformance

/-- The concrete kind of a value. -/
inductive Kind where
  | null
  | boolean
  | integer
  | float
  | string
  | bytes
  | array
  | object
  deriving DecidableEq, Repr

namespace Kind

/-- Every kind, in the order in which sets of kinds are listed. -/
def all : List Kind :=
  [.null, .boolean, .integer, .float, .string, .bytes, .array, .object]

/-- The name under which a kind appears in messages. -/
def name : Kind → String
  | .null => "null"
  | .boolean => "boolean"
  | .integer => "integer"
  | .float => "float"
  | .string => "string"
  | .bytes => "bytes"
  | .array => "array"
  | .object => "object"

/-- Reads a kind's name. -/
def ofName? (name : String) : Option Kind :=
  all.find? (fun kind => kind.name == name)

/-- The bit that stands for a kind. -/
def index : Kind → Nat
  | .null => 0
  | .boolean => 1
  | .integer => 2
  | .float => 3
  | .string => 4
  | .bytes => 5
  | .array => 6
  | .object => 7

theorem mem_all (kind : Kind) : kind ∈ all := by
  cases kind <;> decide

theorem index_lt (kind : Kind) : kind.index < 8 := by
  cases kind <;> decide

theorem index_injective {left right : Kind} (same : left.index = right.index) :
    left = right := by
  cases left <;> cases right <;> first | rfl | (exact absurd same (by decide))

theorem ofName?_name (kind : Kind) : ofName? kind.name = some kind := by
  cases kind <;> decide

end Kind

/-- A set of kinds: bit `kind.index` is set when `kind` is in the set. -/
structure KindSet where
  bits : BitVec 8
  deriving DecidableEq, Repr

namespace KindSet

/-- The set without kinds. -/
def none : KindSet := ⟨0#8⟩

/-- The set of all kinds. -/
def any : KindSet := ⟨255#8⟩

def contains (kinds : KindSet) (kind : Kind) : Bool :=
  kinds.bits.getLsbD kind.index

instance : Membership Kind KindSet where
  mem kinds kind := kinds.contains kind = true

instance (kind : Kind) (kinds : KindSet) : Decidable (kind ∈ kinds) :=
  inferInstanceAs (Decidable (kinds.contains kind = true))

/-- The set of one kind. -/
def singleton (kind : Kind) : KindSet := ⟨1#8 <<< kind.index⟩

def union (left right : KindSet) : KindSet := ⟨left.bits ||| right.bits⟩

def inter (left right : KindSet) : KindSet := ⟨left.bits &&& right.bits⟩

/-- The kinds of the first set that are not in the second. -/
def diff (left right : KindSet) : KindSet := ⟨left.bits &&& ~~~right.bits⟩

/-- Whether the two sets share a kind. -/
def intersects (left right : KindSet) : Bool := (left.inter right).bits != 0#8

/-- Whether every kind of the first set is in the second. -/
def isSubset (left right : KindSet) : Bool := (left.diff right).bits == 0#8

def isEmpty (kinds : KindSet) : Bool := kinds.bits == 0#8

/-- The kinds of a set, in the order of `Kind.all`. -/
def toList (kinds : KindSet) : List Kind := Kind.all.filter kinds.contains

def ofList (kinds : List Kind) : KindSet :=
  kinds.foldl (fun found kind => found.union (singleton kind)) none

/-- A set is written as its names between bars; the set of all kinds is written `any`. -/
def text (kinds : KindSet) : String :=
  if kinds = any then "any" else "|".intercalate (kinds.toList.map Kind.name)

/-- Integers and floats. -/
def number : KindSet := ofList [.integer, .float]

def string : KindSet := singleton .string

def array : KindSet := singleton .array

def object : KindSet := singleton .object

theorem contains_union (left right : KindSet) (kind : Kind) :
    (left.union right).contains kind = (left.contains kind || right.contains kind) := by
  simp [contains, union]

theorem contains_inter (left right : KindSet) (kind : Kind) :
    (left.inter right).contains kind = (left.contains kind && right.contains kind) := by
  simp [contains, inter]

theorem contains_diff (left right : KindSet) (kind : Kind) :
    (left.diff right).contains kind = (left.contains kind && !right.contains kind) := by
  have bound := kind.index_lt
  simp [contains, diff, bound]

theorem contains_singleton (kind other : Kind) :
    (singleton kind).contains other = decide (kind = other) := by
  cases kind <;> cases other <;> decide

theorem contains_any (kind : Kind) : any.contains kind = true := by
  cases kind <;> decide

theorem contains_none (kind : Kind) : none.contains kind = false := by
  cases kind <;> decide

/-- Sets with the same kinds are equal. -/
theorem ext {left right : KindSet}
    (same : ∀ kind, left.contains kind = right.contains kind) : left = right := by
  cases left with
  | mk left =>
    cases right with
    | mk right =>
      congr 1
      apply BitVec.eq_of_getLsbD_eq
      intro position bound
      have bits : ∀ kind : Kind, left.getLsbD kind.index = right.getLsbD kind.index := same
      have reached : ∃ kind : Kind, kind.index = position := by
        match position, bound with
        | 0, _ => exact ⟨.null, rfl⟩
        | 1, _ => exact ⟨.boolean, rfl⟩
        | 2, _ => exact ⟨.integer, rfl⟩
        | 3, _ => exact ⟨.float, rfl⟩
        | 4, _ => exact ⟨.string, rfl⟩
        | 5, _ => exact ⟨.bytes, rfl⟩
        | 6, _ => exact ⟨.array, rfl⟩
        | 7, _ => exact ⟨.object, rfl⟩
      obtain ⟨kind, rfl⟩ := reached
      exact bits kind

theorem isEmpty_iff (kinds : KindSet) :
    kinds.isEmpty = true ↔ ∀ kind, kinds.contains kind = false := by
  constructor
  · intro empty kind
    have zero : kinds.bits = 0#8 := by simpa [isEmpty] using empty
    simp [contains, zero]
  · intro absent
    have zero : kinds = none := ext (fun kind => by rw [absent kind, contains_none])
    simp [zero, isEmpty, none]

theorem isSubset_iff (left right : KindSet) :
    left.isSubset right = true ↔
      ∀ kind, left.contains kind = true → right.contains kind = true := by
  have empty := isEmpty_iff (left.diff right)
  unfold isEmpty at empty
  unfold isSubset
  rw [empty]
  constructor
  · intro absent kind present
    have here := absent kind
    rw [contains_diff, present] at here
    simpa using here
  · intro included kind
    rw [contains_diff]
    cases present : left.contains kind with
    | false => rfl
    | true => simp [included kind present]

theorem intersects_iff (left right : KindSet) :
    left.intersects right = true ↔
      ∃ kind, left.contains kind = true ∧ right.contains kind = true := by
  have empty := isEmpty_iff (left.inter right)
  unfold isEmpty at empty
  unfold intersects
  constructor
  · intro shared
    apply Classical.byContradiction
    intro absent
    have zero := empty.mpr (fun kind => by
      rw [contains_inter]
      cases onLeft : left.contains kind with
      | false => rfl
      | true =>
        cases onRight : right.contains kind with
        | false => rfl
        | true => exact absurd ⟨kind, onLeft, onRight⟩ absent)
    simp_all
  · rintro ⟨kind, onLeft, onRight⟩
    have filled : ¬ (left.inter right).bits = 0#8 := by
      intro zero
      have here := empty.mp (by simp [zero]) kind
      rw [contains_inter, onLeft, onRight] at here
      cases here
    simpa using filled

end KindSet

end Conformance
