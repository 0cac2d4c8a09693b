import Conformance.Proofs.Parallel
import Conformance.Proofs.Value.Parts
import Mathlib.Data.List.Perm.Subperm
/-!
Equality of plain values, in which no object repeats a key and no number is a double. Equal values match
part by part: arrays item by item, objects name by name, and anything else is the same
(`Value.equal_iff`). So equality of plain values is an equivalence.
-/

namespace Conformance

namespace Table

variable {α β : Type} {related : α → β → Prop} {lefts : Table α} {rights : Table β} {name : String}

theorem mem_names_of_lookup {value : α} (found : lookup lefts name = some value) :
    name ∈ names lefts :=
  List.mem_map_of_mem (mem_of_lookup found)

theorem has_of_rel (rel : Option.Rel related (lookup lefts name) (lookup rights name)) :
    has lefts name = has rights name := isSome_of_rel rel

end Table

namespace Value

/-- Whether no object in a value repeats a key and no number in it is a double. -/
structure IsPlain (value : Value) : Prop where
  keyed : value.isKeyed = true
  floatless : value.isFloatless = true

/-- The items of an array or the values of the entries of an object. -/
def parts (value : Value) : List Value := value.items ++ value.fields.map Prod.snd

theorem mem_parts {value part : Value} : part ∈ value.parts ↔
    part ∈ value.items ∨ ∃ field ∈ value.fields, field.2 = part := by
  rw [parts, List.mem_append, List.mem_map]

theorem parts_induction {holds : Value → Prop}
    (step : ∀ value, (∀ part ∈ value.parts, holds part) → holds value) (value : Value) :
    holds value := by
  refine nested_induction (fun value items fields => step value fun part member => ?_) value
  rcases mem_parts.mp member with item | ⟨field, inside, rfl⟩
  · exact items part item
  · exact fields field inside

section Plain

variable {value inner : Value} {entries : List (String × Value)} {name : String}

theorem isKeyed_part (keyed : value.isKeyed = true) (member : inner ∈ value.parts) :
    inner.isKeyed = true := by
  obtain ⟨_, keyedItems, keyedFields⟩ := (isKeyed_iff value).mp keyed
  rcases mem_parts.mp member with item | ⟨field, inside, rfl⟩
  · exact keyedItems inner item
  · exact keyedFields field inside

theorem IsPlain.part (plain : value.IsPlain) (member : inner ∈ value.parts) : inner.IsPlain := by
  refine ⟨isKeyed_part plain.keyed member, ?_⟩
  obtain ⟨_, floatlessItems, floatlessFields⟩ := (isFloatless_iff value).mp plain.floatless
  rcases mem_parts.mp member with item | ⟨field, inside, rfl⟩
  · exact floatlessItems inner item
  · exact floatlessFields field inside

theorem IsPlain.distinct (plain : (object entries).IsPlain) : (Table.names entries).Nodup :=
  ((isKeyed_iff _).mp plain.keyed).1

theorem IsPlain.notFloat (plain : value.IsPlain) : value.kind ≠ .float :=
  ((isFloatless_iff value).mp plain.floatless).1

theorem IsPlain.item {items : List Value} (plain : (array items).IsPlain) {item : Value}
    (member : item ∈ items) : item.IsPlain :=
  plain.part (mem_parts.mpr (.inl member))

theorem IsPlain.lookup (plain : (object entries).IsPlain)
    (found : Table.lookup entries name = some inner) : inner.IsPlain :=
  plain.part (mem_parts.mpr (.inr ⟨(name, inner), Table.mem_of_lookup found, rfl⟩))

theorem isPlain_array {items : List Value} (each : ∀ item ∈ items, item.IsPlain) :
    (array items).IsPlain := by
  have fieldless : ∀ field ∈ (array items).fields, False := fun _ member => nomatch member
  constructor
  · refine (isKeyed_iff _).mpr ⟨List.nodup_nil, fun item member => (each item member).keyed, ?_⟩
    exact fun field member => (fieldless field member).elim
  · refine (isFloatless_iff _).mpr ⟨nofun, fun item member => (each item member).floatless, ?_⟩
    exact fun field member => (fieldless field member).elim

theorem isPlain_object (distinct : (Table.names entries).Nodup)
    (each : ∀ name value, Table.lookup entries name = some value → value.IsPlain) :
    (object entries).IsPlain := by
  have field : ∀ field ∈ entries, field.2.IsPlain :=
    fun field member => each field.1 field.2 (Table.lookup_of_mem distinct member)
  constructor
  · exact (isKeyed_iff _).mpr
      ⟨distinct, List.forall_mem_nil _, fun entry member => (field entry member).keyed⟩
  · exact (isFloatless_iff _).mpr
      ⟨nofun, List.forall_mem_nil _, fun entry member => (field entry member).floatless⟩

theorem IsPlain.put (plain : (object entries).IsPlain) (plainInner : inner.IsPlain) :
    (object (Table.put entries name inner)).IsPlain := by
  refine isPlain_object (Table.nodup_names_put name inner plain.distinct) fun other value found => ?_
  rw [Table.lookup_put] at found
  split at found
  · cases found
    exact plainInner
  · exact plain.lookup found

end Plain

/-- How two values match if their parts are related. -/
def Matches (related : Value → Value → Prop) : Value → Value → Prop
  | .array lefts, .array rights => List.Forall₂ related lefts rights
  | .object lefts, .object rights =>
    ∀ name, Option.Rel related (Table.lookup lefts name) (Table.lookup rights name)
  | left, right => left = right

section Matches

variable {related related' : Value → Value → Prop} {left middle right : Value}

theorem Matches.imp (matching : Matches related left right)
    (inside : ∀ first ∈ left.parts, ∀ second ∈ right.parts, related first second →
      related' first second) : Matches related' left right := by
  cases left with
  | array lefts =>
      cases right with
      | array rights =>
          obtain ⟨length, each⟩ := List.forall₂_iff_zip.mp matching
          refine List.forall₂_iff_zip.mpr ⟨length, fun {first second} together => ?_⟩
          obtain ⟨member, member'⟩ := List.of_mem_zip together
          exact inside first (mem_parts.mpr (.inl member)) second (mem_parts.mpr (.inl member'))
            (each together)
      | _ => exact matching
  | object lefts =>
      cases right with
      | object rights =>
          refine fun name => rel_imp (matching name) fun first found second found' held => ?_
          have member : (name, first) ∈ lefts := Table.mem_of_lookup found
          have member' : (name, second) ∈ rights := Table.mem_of_lookup found'
          exact inside first (mem_parts.mpr (.inr ⟨_, member, rfl⟩)) second
            (mem_parts.mpr (.inr ⟨_, member', rfl⟩)) held
      | _ => exact matching
  | _ => exact matching

theorem Matches.flip (matching : Matches related left right) :
    Matches (fun second first => related first second) right left := by
  cases left with
  | array lefts =>
      cases right with
      | array rights => exact List.Forall₂.flip matching
      | _ => cases matching
  | object lefts =>
      cases right with
      | object rights => exact fun name => rel_flip (matching name)
      | _ => cases matching
  | _ =>
      cases matching
      rfl

theorem Matches.comp (first : Matches related left middle)
    (second : Matches related' middle right) :
    Matches (Relation.Comp related related') left right := by
  cases left with
  | array lefts =>
      cases middle with
      | array middles =>
          cases right with
          | array rights => exact forall₂_comp first second
          | _ => cases second
      | _ => cases first
  | object lefts =>
      cases middle with
      | object middles =>
          cases right with
          | object rights => exact fun name => rel_comp (first name) (second name)
          | _ => cases second
      | _ => cases first
  | _ =>
      cases first
      exact second

end Matches

section Objects

variable {lefts rights : List (String × Value)}

theorem entriesFound_iff : entriesFound lefts rights = true ↔
    ∀ entry ∈ lefts, ∃ other, Table.lookup rights entry.1 = some other ∧
      (entry.2 == other) = true := by
  induction lefts with
  | nil => simp [entriesFound]
  | cons entry lefts ih =>
      obtain ⟨key, value⟩ := entry
      rw [entriesFound, Bool.and_eq_true, ih, List.forall_mem_cons]
      refine and_congr_left fun _ => ?_
      cases Table.lookup rights key with
      | none => simp
      | some other => simp [BEq.beq]

theorem equal_object_iff (distinct : (Table.names lefts).Nodup)
    (distinct' : (Table.names rights).Nodup) :
    (object lefts == object rights) = true ↔ ∀ name,
      Option.Rel (fun left right : Value => (left == right) = true) (Table.lookup lefts name)
        (Table.lookup rights name) := by
  have unfolded : (object lefts == object rights) = true ↔
      lefts.length = rights.length ∧ entriesFound lefts rights = true := by
    change (lefts.length == rights.length && entriesFound lefts rights) = true ↔ _
    rw [Bool.and_eq_true, beq_iff_eq]
  rw [unfolded, entriesFound_iff]
  constructor
  · rintro ⟨length, found⟩ name
    have included : Table.names lefts ⊆ Table.names rights := by
      intro name member
      obtain ⟨entry, listed, rfl⟩ := List.mem_map.mp member
      obtain ⟨other, present, _⟩ := found entry listed
      exact Table.mem_names_of_lookup present
    have shorter : (Table.names rights).length ≤ (Table.names lefts).length := by
      simp only [Table.names, List.length_map, length, Nat.le_refl]
    have together := (List.subperm_of_subset distinct included).perm_of_length_le shorter
    cases here : Table.lookup lefts name with
    | some value =>
        obtain ⟨other, present, equal⟩ := found (name, value) (Table.mem_of_lookup here)
        rw [present]
        exact .some equal
    | none =>
        cases there : Table.lookup rights name with
        | none => exact .none
        | some other =>
            have listed := Table.mem_names_of_lookup there
            have present := (Table.has_iff_mem_names lefts name).mpr (together.mem_iff.mpr listed)
            rw [Table.has, here] at present
            cases present
  · intro matching
    have same : ∀ name, name ∈ Table.names lefts ↔ name ∈ Table.names rights := by
      intro name
      rw [← Table.has_iff_mem_names, ← Table.has_iff_mem_names, Table.has_of_rel (matching name)]
    have together := (List.perm_ext_iff_of_nodup distinct distinct').mpr same
    constructor
    · have length := together.length_eq
      simpa [Table.names] using length
    · intro entry listed
      exact exists_of_rel (matching entry.1) (Table.lookup_of_mem distinct listed)

end Objects

section Equivalence

variable {left middle right : Value}

theorem equalItems_iff {lefts rights : List Value} : equalItems lefts rights = true ↔
    List.Forall₂ (fun left right => (left == right) = true) lefts rights := by
  induction lefts generalizing rights with
  | nil => cases rights <;> simp [equalItems]
  | cons left lefts ih =>
      cases rights with
      | nil => simp [equalItems]
      | cons right rights =>
          rw [equalItems, Bool.and_eq_true, ih, List.forall₂_cons]
          exact Iff.rfl

/-- Values without repeated keys, the first of which is no number, are equal if they match part by part in
equal parts. -/
theorem equal_iff_matches (keyed : left.isKeyed = true) (keyed' : right.isKeyed = true)
    (noNumber : ∀ number, left ≠ .number number) :
    (left == right) = true ↔ Matches (fun left right => (left == right) = true) left right := by
  cases left with
  | number number => exact absurd rfl (noNumber number)
  | array lefts =>
      cases right with
      | array rights => exact equalItems_iff
      | _ => exact iff_of_false nofun nofun
  | object lefts =>
      cases right with
      | object rights =>
          exact equal_object_iff ((isKeyed_iff _).mp keyed).1 ((isKeyed_iff _).mp keyed').1
      | _ => exact iff_of_false nofun nofun
  | null =>
      cases right with
      | null => exact iff_of_true rfl rfl
      | _ => exact iff_of_false nofun nofun
  | bool truth =>
      cases right with
      | bool truth' =>
          change (truth == truth') = true ↔ Value.bool truth = .bool truth'
          rw [beq_iff_eq, Value.bool.injEq]
      | _ => exact iff_of_false nofun nofun
  | string text =>
      cases right with
      | string text' =>
          change (text == text') = true ↔ Value.string text = .string text'
          rw [beq_iff_eq, Value.string.injEq]
      | _ => exact iff_of_false nofun nofun
  | bytes octets =>
      cases right with
      | bytes octets' =>
          obtain ⟨data⟩ := octets
          obtain ⟨data'⟩ := octets'
          change (data == data') = true ↔ Value.bytes ⟨data⟩ = .bytes ⟨data'⟩
          rw [beq_iff_eq, Value.bytes.injEq, ByteArray.mk.injEq]
      | _ => exact iff_of_false nofun nofun

/-- Plain values are equal if they match part by part in equal parts. -/
theorem equal_iff (plain : left.IsPlain) (plain' : right.IsPlain) :
    (left == right) = true ↔ Matches (fun left right => (left == right) = true) left right := by
  cases left with
  | number number =>
      cases number with
      | float double => exact absurd rfl plain.notFloat
      | int whole =>
          cases right with
          | number number' =>
              cases number' with
              | float double => exact absurd rfl plain'.notFloat
              | int whole' =>
                  change (whole == whole') = true ↔ Value.number (.int whole) = .number (.int whole')
                  rw [beq_iff_eq, Value.number.injEq, Number.int.injEq]
          | _ => exact iff_of_false nofun nofun
  | _ => exact equal_iff_matches plain.keyed plain'.keyed nofun

theorem IsPlain.equal_refl (plain : left.IsPlain) : (left == left) = true := by
  induction left using parts_induction with
  | step value ih =>
      rw [equal_iff plain plain]
      cases value with
      | array items =>
          refine List.forall₂_same.mpr fun item member => ?_
          have part : item ∈ (array items).parts := mem_parts.mpr (.inl member)
          exact ih item part (plain.part part)
      | object entries =>
          intro name
          cases found : Table.lookup entries name with
          | none => exact .none
          | some value =>
              have field : (name, value) ∈ entries := Table.mem_of_lookup found
              have part : value ∈ (object entries).parts := mem_parts.mpr (.inr ⟨_, field, rfl⟩)
              exact .some (ih value part (plain.part part))
      | _ => rfl

theorem IsPlain.equal_symm (plain : left.IsPlain) (plain' : right.IsPlain)
    (equal : (left == right) = true) : (right == left) = true := by
  induction left using parts_induction generalizing right with
  | step value ih =>
      rw [equal_iff plain plain'] at equal
      rw [equal_iff plain' plain]
      have swapped := equal.imp fun first member second member' same =>
        ih first member (plain.part member) (plain'.part member') same
      exact swapped.flip

theorem IsPlain.equal_trans (plain : left.IsPlain) (plain' : middle.IsPlain)
    (plain'' : right.IsPlain) (first : (left == middle) = true) (second : (middle == right) = true) :
    (left == right) = true := by
  induction left using parts_induction generalizing middle right with
  | step value ih =>
      rw [equal_iff plain plain'] at first
      rw [equal_iff plain' plain''] at second
      rw [equal_iff plain plain'']
      have kept : Matches (fun left middle => (left == middle) = true ∧ middle.IsPlain) value middle :=
        first.imp fun _ _ between member same => ⟨same, plain'.part member⟩
      refine (kept.comp second).imp fun left member right member' through => ?_
      obtain ⟨between, ⟨same, plainBetween⟩, same'⟩ := through
      exact ih left member (plain.part member) plainBetween (plain''.part member') same same'

end Equivalence

/-- Whether two plain values are equal. -/
structure IsCopy (copy original : Value) : Prop where
  plain : copy.IsPlain
  plainOriginal : original.IsPlain
  equal : (copy == original) = true

section Copies

variable {copy original : Value} {items originals : List Value}
  {members others : List (String × Value)} {name : String}

theorem IsPlain.isCopy (plain : copy.IsPlain) : copy.IsCopy copy := ⟨plain, plain, plain.equal_refl⟩

theorem IsCopy.symm (same : copy.IsCopy original) : original.IsCopy copy :=
  ⟨same.plainOriginal, same.plain, same.plain.equal_symm same.plainOriginal same.equal⟩

theorem IsCopy.trans {further : Value} (same : copy.IsCopy original)
    (same' : original.IsCopy further) : copy.IsCopy further :=
  ⟨same.plain, same'.plainOriginal,
    same.plain.equal_trans same.plainOriginal same'.plainOriginal same.equal same'.equal⟩

theorem IsCopy.matching (same : copy.IsCopy original) : Matches IsCopy copy original := by
  have equal := (equal_iff same.plain same.plainOriginal).mp same.equal
  exact equal.imp fun first member second member' equal =>
    ⟨same.plain.part member, same.plainOriginal.part member', equal⟩

theorem IsCopy.kind (same : copy.IsCopy original) : copy.kind = original.kind := by
  have matching := same.matching
  cases copy with
  | array items =>
      cases original with
      | array originals => rfl
      | _ => cases matching
  | object members =>
      cases original with
      | object others => rfl
      | _ => cases matching
  | _ =>
      cases matching
      rfl

theorem IsCopy.exists_array (same : (array items).IsCopy original) :
    ∃ originals, original = array originals ∧ List.Forall₂ IsCopy items originals := by
  have matching := same.matching
  cases original with
  | array originals => exact ⟨originals, rfl, matching⟩
  | _ => cases matching

theorem IsCopy.exists_object (same : (object members).IsCopy original) :
    ∃ others, original = object others ∧ ∀ name,
      Option.Rel IsCopy (Table.lookup members name) (Table.lookup others name) := by
  have matching := same.matching
  cases original with
  | object others => exact ⟨others, rfl, matching⟩
  | _ => cases matching

/-- Copies of anything but an array or an object are the same. -/
theorem IsCopy.eq_of_scalar (same : copy.IsCopy original) (notArray : copy.kind ≠ .array)
    (notObject : copy.kind ≠ .object) : copy = original := by
  have matching := same.matching
  cases copy with
  | array items => exact absurd rfl notArray
  | object members => exact absurd rfl notObject
  | _ => exact matching

/-- The shapes of copies. -/
theorem IsCopy.cases (same : copy.IsCopy original) : copy = original ∨
    (∃ items originals, copy = array items ∧ original = array originals ∧
      List.Forall₂ IsCopy items originals) ∨
    ∃ members others, copy = object members ∧ original = object others ∧
      members.length = others.length ∧ ∀ name,
        Option.Rel IsCopy (Table.lookup members name) (Table.lookup others name) := by
  by_cases isArray : copy.kind = .array
  · obtain ⟨items, rfl⟩ := exists_array_of_kind isArray
    obtain ⟨originals, rfl, each⟩ := same.exists_array
    exact .inr (.inl ⟨items, originals, rfl, rfl, each⟩)
  · by_cases isObject : copy.kind = .object
    · obtain ⟨members, rfl⟩ := exists_object_of_kind isObject
      obtain ⟨others, rfl, each⟩ := same.exists_object
      have equal : (members.length == others.length && entriesFound members others) = true := same.equal
      have length := beq_iff_eq.mp (Bool.and_eq_true_iff.mp equal).1
      exact .inr (.inr ⟨members, others, rfl, rfl, length, each⟩)
    · exact .inl (same.eq_of_scalar isArray isObject)

theorem isCopy_array (each : List.Forall₂ IsCopy items originals) :
    (array items).IsCopy (array originals) := by
  have plain : (array items).IsPlain := by
    refine isPlain_array fun item member => ?_
    obtain ⟨position, bound, rfl⟩ := List.getElem_of_mem member
    exact (each.get bound (each.length_eq ▸ bound)).plain
  have plain' : (array originals).IsPlain := by
    refine isPlain_array fun item member => ?_
    obtain ⟨position, bound, rfl⟩ := List.getElem_of_mem member
    exact (each.get (each.length_eq ▸ bound) bound).plainOriginal
  exact ⟨plain, plain', (equal_iff plain plain').mpr (each.imp fun _ _ same => same.equal)⟩

/-- An entry of a copy may be replaced by a copy of it. -/
theorem IsCopy.put (same : (object members).IsCopy original) {value made : Value}
    (found : Table.lookup members name = some value) (copied : made.IsCopy value) :
    (object (Table.put members name made)).IsCopy original := by
  have plain : (object (Table.put members name made)).IsPlain := same.plain.put copied.plain
  refine IsCopy.trans ⟨plain, same.plain, (equal_iff plain same.plain).mpr fun other => ?_⟩ same
  rw [Table.lookup_put]
  split
  · rename_i here
    rw [here, found]
    exact .some copied.equal
  · cases present : Table.lookup members other with
    | none => exact .none
    | some value => exact .some (same.plain.lookup present).equal_refl

end Copies

end Value

end Conformance
