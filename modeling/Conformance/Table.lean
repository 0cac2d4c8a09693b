/-!
Tables from names to values that keep the order in which names were first put in. A table is a
list of pairs; the operations below never repeat a name, and the lemmas say what each of them does
to the value under a name and to the list of names.
-/

namespace Conformance

/-- A table from names to values, in order. -/
abbrev Table (α : Type) := List (String × α)

namespace Table

variable {α : Type}

/-- The value under a name. -/
def lookup (table : List (String × α)) (name : String) : Option α :=
  match table with
  | [] => none
  | (key, value) :: rest => if key = name then some value else lookup rest name

/-- Whether a name has a value. -/
def has (table : List (String × α)) (name : String) : Bool := (lookup table name).isSome

def names (table : List (String × α)) : List String := table.map Prod.fst

/-- Puts a value under a name: a known name keeps its place, a new one goes to the end. -/
def put (table : List (String × α)) (name : String) (value : α) : List (String × α) :=
  match table with
  | [] => [(name, value)]
  | (key, old) :: rest =>
    if key = name then (key, value) :: rest else (key, old) :: put rest name value

/-- Removes a name; the others keep their order. -/
def remove (table : List (String × α)) (name : String) : List (String × α) :=
  table.filter (fun entry => !decide (entry.1 = name))

/-- Puts pairs in one after the other: a repeated name keeps its first place and last value. -/
def ofPairs (pairs : List (String × α)) : List (String × α) :=
  pairs.foldl (fun table pair => put table pair.1 pair.2) []

theorem lookup_put_self (table : List (String × α)) (name : String) (value : α) :
    lookup (put table name value) name = some value := by
  induction table with
  | nil => simp [put, lookup]
  | cons entry rest ih =>
      by_cases same : entry.1 = name
      · simp [put, lookup, same]
      · simp [put, lookup, same, ih]

theorem lookup_put_of_ne (table : List (String × α)) {name other : String} (value : α)
    (distinct : other ≠ name) :
    lookup (put table name value) other = lookup table other := by
  have apart : ¬ name = other := fun equal => distinct equal.symm
  induction table with
  | nil => simp [put, lookup, apart]
  | cons entry rest ih =>
      by_cases same : entry.1 = name
      · simp [put, lookup, same, apart]
      · by_cases reached : entry.1 = other
        · simp [put, lookup, reached, distinct]
        · simp [put, lookup, same, reached, ih]

theorem lookup_remove_self (table : List (String × α)) (name : String) :
    lookup (remove table name) name = none := by
  induction table with
  | nil => rfl
  | cons entry rest ih =>
      by_cases same : entry.1 = name
      · simpa [remove, same] using ih
      · simpa [remove, lookup, same] using ih

theorem lookup_remove_of_ne (table : List (String × α)) {name other : String}
    (distinct : other ≠ name) : lookup (remove table name) other = lookup table other := by
  induction table with
  | nil => rfl
  | cons entry rest ih =>
      by_cases same : entry.1 = name
      · have apart : ¬ name = other := fun equal => distinct equal.symm
        simpa [remove, lookup, same, apart] using ih
      · by_cases reached : entry.1 = other
        · simp [remove, lookup, reached, distinct]
        · simpa [remove, lookup, same, reached] using ih

theorem lookup_put (table : List (String × α)) (name other : String) (value : α) :
    lookup (put table name value) other =
      if other = name then some value else lookup table other := by
  by_cases same : other = name
  · rw [if_pos same, same, lookup_put_self]
  · rw [if_neg same, lookup_put_of_ne table value same]

theorem lookup_remove (table : List (String × α)) (name other : String) :
    lookup (remove table name) other = if other = name then none else lookup table other := by
  by_cases same : other = name
  · rw [if_pos same, same, lookup_remove_self]
  · rw [if_neg same, lookup_remove_of_ne table same]

theorem mem_of_lookup {table : List (String × α)} {name : String} {value : α}
    (found : lookup table name = some value) : (name, value) ∈ table := by
  induction table with
  | nil => cases found
  | cons entry rest ih =>
      obtain ⟨key, first⟩ := entry
      by_cases same : key = name
      · simp only [lookup, same, if_true, Option.some.injEq] at found
        simp [same, found]
      · simp only [lookup, same, if_false] at found
        exact List.mem_cons_of_mem _ (ih found)

theorem lookup_of_mem {table : List (String × α)} {name : String} {value : α}
    (distinct : (names table).Nodup) (member : (name, value) ∈ table) :
    lookup table name = some value := by
  induction table with
  | nil => cases member
  | cons entry rest ih =>
      obtain ⟨key, first⟩ := entry
      have tail := List.nodup_cons.mp distinct
      rcases List.mem_cons.mp member with here | later
      · cases here
        simp [lookup]
      · have apart : ¬ key = name := by
          intro same
          subst same
          exact tail.1 (List.mem_map.mpr ⟨(key, value), later, rfl⟩)
        simpa [lookup, apart] using ih tail.2 later

theorem has_iff_mem_names (table : List (String × α)) (name : String) :
    has table name = true ↔ name ∈ names table := by
  induction table with
  | nil => simp [has, lookup, names]
  | cons entry rest ih =>
      by_cases same : entry.1 = name
      · simp [has, lookup, names, same]
      · have apart : ¬ name = entry.1 := fun equal => same equal.symm
        have tail : has (entry :: rest) name = has rest name := by simp [has, lookup, same]
        rw [tail, ih]
        simp [names, apart]

theorem names_put (table : List (String × α)) (name : String) (value : α) :
    names (put table name value) =
      if name ∈ names table then names table else names table ++ [name] := by
  induction table with
  | nil => simp [put, names]
  | cons entry rest ih =>
      by_cases same : entry.1 = name
      · simp [put, names, same]
      · have apart : ¬ name = entry.1 := fun equal => same equal.symm
        have tail : names (put (entry :: rest) name value) =
            entry.1 :: names (put rest name value) := by simp [put, names, same]
        have head : names (entry :: rest) = entry.1 :: names rest := rfl
        rw [tail, ih, head]
        by_cases present : name ∈ names rest
        · simp [present]
        · simp [present, apart]

theorem mem_names_put {table : Table α} {name other : String} (value : α) :
    other ∈ names (put table name value) ↔ other ∈ names table ∨ other = name := by
  rw [names_put]
  split
  · rename_i known
    exact ⟨.inl, fun either => either.elim id fun same => same ▸ known⟩
  · rw [List.mem_append, List.mem_singleton]

theorem lookup_eq_none_iff (table : Table α) (name : String) :
    lookup table name = none ↔ name ∉ names table :=
  Option.not_isSome_iff_eq_none.symm.trans (not_congr (has_iff_mem_names table name))

theorem forall_mem_put {table : Table α} {name : String} {holds : String × α → Prop}
    (each : ∀ entry ∈ table, holds entry) {value : α} (fresh : holds (name, value)) :
    ∀ entry ∈ put table name value, holds entry := by
  induction table with
  | nil => exact List.forall_mem_singleton.mpr fresh
  | cons entry rest ih =>
      obtain ⟨key, old⟩ := entry
      obtain ⟨first, others⟩ := List.forall_mem_cons.mp each
      unfold put
      split
      · rename_i same
        exact List.forall_mem_cons.mpr ⟨same ▸ fresh, others⟩
      · exact List.forall_mem_cons.mpr ⟨first, ih others⟩

theorem put_of_not_mem {table : Table α} {name : String} (new : name ∉ names table) (value : α) :
    put table name value = table ++ [(name, value)] := by
  induction table with
  | nil => rfl
  | cons entry rest ih =>
      obtain ⟨key, old⟩ := entry
      obtain ⟨apart, others⟩ := not_or.mp (new ∘ List.mem_cons.mpr)
      unfold put
      rw [if_neg (Ne.symm apart), ih others]
      rfl

/-- Putting back what stands in a table changes nothing. -/
theorem put_of_lookup {table : Table α} {name : String} {value : α}
    (found : lookup table name = some value) : put table name value = table := by
  induction table with
  | nil => cases found
  | cons entry rest ih =>
      obtain ⟨key, first⟩ := entry
      by_cases same : key = name
      · simp only [lookup, same, if_true, Option.some.injEq] at found
        simp [put, same, found]
      · simp only [lookup, same, if_false] at found
        simp [put, same, ih found]

theorem names_remove (table : List (String × α)) (name : String) :
    names (remove table name) = (names table).filter (fun other => !decide (other = name)) := by
  simp [names, remove, List.filter_map, Function.comp_def]

theorem nodup_names_put {table : List (String × α)} (name : String) (value : α)
    (distinct : (names table).Nodup) : (names (put table name value)).Nodup := by
  rw [names_put]
  by_cases present : name ∈ names table
  · simpa [present] using distinct
  · rw [if_neg present, List.nodup_append]
    refine ⟨distinct, by simp, ?_⟩
    intro one member other last equal
    simp at last
    subst last
    subst equal
    exact present member

theorem nodup_names_remove {table : List (String × α)} (name : String)
    (distinct : (names table).Nodup) : (names (remove table name)).Nodup := by
  rw [names_remove]
  exact distinct.filter _

end Table

end Conformance
