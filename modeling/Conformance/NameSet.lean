/-!
Sets of names, as lists in increasing order.
-/

namespace Conformance

/-- A set of names, in increasing order. -/
abbrev NameSet := List String

namespace NameSet

/-- Puts a name in its place, unless it is there. -/
def insert (name : String) : List String → List String
  | [] => [name]
  | other :: rest =>
    if name < other then name :: other :: rest
    else if name = other then other :: rest
    else other :: insert name rest

/-- Takes a name out. -/
def remove (name : String) (names : List String) : List String :=
  names.filter fun other => !decide (other = name)

def union (names others : List String) : List String :=
  others.foldl (fun names name => insert name names) names

def ofList (names : List String) : List String := union [] names

theorem mem_insert {name other : String} (names : List String) :
    other ∈ insert name names ↔ other = name ∨ other ∈ names := by
  induction names with
  | nil => simp [insert]
  | cons first rest ih =>
      unfold insert
      split
      · simp
      · split
        · rename_i same
          subst same
          simp
        · simp only [List.mem_cons, ih]
          constructor
          · rintro (equal | equal | member) <;> simp_all
          · rintro (equal | equal | member) <;> simp_all

theorem mem_union {name : String} (names others : List String) :
    name ∈ union names others ↔ name ∈ names ∨ name ∈ others := by
  induction others generalizing names with
  | nil => simp [union]
  | cons first rest ih =>
      have step : union names (first :: rest) = union (insert first names) rest := rfl
      rw [step, ih, mem_insert, List.mem_cons]
      constructor
      · rintro ((equal | member) | member) <;> simp_all
      · rintro (member | equal | member) <;> simp_all

theorem mem_remove {name other : String} (names : List String) :
    other ∈ remove name names ↔ other ∈ names ∧ other ≠ name := by
  simp [remove]

end NameSet

end Conformance
