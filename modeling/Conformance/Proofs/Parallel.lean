import Mathlib.Data.List.Forall2
import Mathlib.Logic.Relation
/-!
Lists in parallel and optional values side by side. Two lists are in parallel if they are equally long
and related entry by entry; two optional values are related if both are missing, or both are there and
related.
-/

namespace Conformance

section Options

variable {α β γ δ : Type} {related related' : α → β → Prop} {further : β → γ → Prop}
  {first : Option α} {second : Option β} {third : Option γ}

theorem rel_imp (rel : Option.Rel related first second)
    (inside : ∀ left, first = some left → ∀ right, second = some right → related left right →
      related' left right) : Option.Rel related' first second := by
  cases rel with
  | none => exact .none
  | some held => exact .some (inside _ rfl _ rfl held)

theorem exists_of_rel (rel : Option.Rel related first second) {left : α} (found : first = some left) :
    ∃ right, second = some right ∧ related left right := by
  cases rel with
  | none => cases found
  | some held =>
      cases found
      exact ⟨_, rfl, held⟩

theorem rel_flip (rel : Option.Rel related first second) :
    Option.Rel (fun right left => related left right) second first := by
  cases rel with
  | none => exact .none
  | some held => exact .some held

theorem rel_comp (rel : Option.Rel related first second) (rel' : Option.Rel further second third) :
    Option.Rel (Relation.Comp related further) first third := by
  cases rel with
  | none =>
      cases rel' with
      | none => exact .none
  | some held =>
      cases rel' with
      | some held' => exact .some ⟨_, held, held'⟩

theorem rel_of_eq {value value' : Option α} (same : value = value') :
    Option.Rel Eq value value' := by
  subst same
  cases value with
  | none => exact .none
  | some held => exact .some rfl

theorem rel_map {mapped : γ → δ → Prop} {f : α → γ} {g : β → δ}
    (rel : Option.Rel related first second)
    (each : ∀ left right, related left right → mapped (f left) (g right)) :
    Option.Rel mapped (first.map f) (second.map g) := by
  cases rel with
  | none => exact .none
  | some held => exact .some (each _ _ held)

theorem rel_bind {mapped : γ → δ → Prop} {f : α → Option γ} {g : β → Option δ}
    (rel : Option.Rel related first second)
    (each : ∀ left right, related left right → Option.Rel mapped (f left) (g right)) :
    Option.Rel mapped (first.bind f) (second.bind g) := by
  cases rel with
  | none => exact .none
  | some held => exact each _ _ held

theorem rel_getD {left : α} {right : β} (rel : Option.Rel related first second)
    (default : related left right) : related (first.getD left) (second.getD right) := by
  cases rel with
  | none => exact default
  | some held => exact held

theorem forall₂_toList (rel : Option.Rel related first second) :
    List.Forall₂ related first.toList second.toList := by
  cases rel with
  | none => exact .nil
  | some held => exact .cons held .nil

theorem isSome_of_rel (rel : Option.Rel related first second) : first.isSome = second.isSome := by
  cases rel <;> rfl

theorem isNone_of_rel (rel : Option.Rel related first second) : first.isNone = second.isNone := by
  cases rel <;> rfl

end Options

section Lists

variable {κ α β γ δ : Type} {related : α → β → Prop} {further : β → γ → Prop}
  {values : List α} {results : List β} {others : List γ}

theorem forall_mem_iff_of_parallel (parallel : List.Forall₂ related values results)
    {asked : α → Prop} {given : β → Prop}
    (agree : ∀ value result, related value result → (given result ↔ asked value)) :
    (∀ result ∈ results, given result) ↔ ∀ value ∈ values, asked value := by
  induction parallel with
  | nil => simp
  | cons head _ ih => simp [agree _ _ head, ih]

theorem exists_mem_iff_of_parallel (parallel : List.Forall₂ related values results)
    {asked : α → Prop} {given : β → Prop}
    (agree : ∀ value result, related value result → (given result ↔ asked value)) :
    (∃ result ∈ results, given result) ↔ ∃ value ∈ values, asked value := by
  induction parallel with
  | nil => simp
  | cons head _ ih => simp [agree _ _ head, ih]

theorem forall_mem_of_parallel (parallel : List.Forall₂ related values results)
    {asked : α → Prop} {given : β → Prop}
    (each : ∀ value result, related value result → asked value → given result)
    (all : ∀ value ∈ values, asked value) : ∀ result ∈ results, given result := by
  induction parallel with
  | nil => exact List.forall_mem_nil _
  | cons head _ ih =>
      obtain ⟨first, rest⟩ := List.forall_mem_cons.mp all
      exact List.forall_mem_cons.mpr ⟨each _ _ head first, ih rest⟩

theorem exists_mem_of_parallel (parallel : List.Forall₂ related values results) {value : α}
    (member : value ∈ values) : ∃ result ∈ results, related value result := by
  induction parallel with
  | nil => cases member
  | cons head _ ih =>
      cases member with
      | head => exact ⟨_, List.mem_cons_self, head⟩
      | tail _ later =>
          obtain ⟨result, listed, held⟩ := ih later
          exact ⟨result, List.mem_cons_of_mem _ listed, held⟩

theorem rel_getElem?_of_parallel (parallel : List.Forall₂ related values results)
    (position : Nat) : Option.Rel related values[position]? results[position]? := by
  induction parallel generalizing position with
  | nil => exact .none
  | cons head _ ih =>
      cases position with
      | zero => exact .some head
      | succ position => exact ih position

theorem forall₂_comp (first : List.Forall₂ related values results)
    (second : List.Forall₂ further results others) :
    List.Forall₂ (Relation.Comp related further) values others := by
  induction first generalizing others with
  | nil =>
      cases second
      exact .nil
  | cons held _ ih =>
      cases second with
      | cons held' rest => exact .cons ⟨_, held, held'⟩ (ih rest)

theorem forall₂_mapIdx {mapped : γ → δ → Prop} {f : Nat → α → γ} {g : Nat → β → δ}
    (parallel : List.Forall₂ related values results)
    (each : ∀ position value result, related value result →
      mapped (f position value) (g position result)) :
    List.Forall₂ mapped (values.mapIdx f) (results.mapIdx g) := by
  induction parallel generalizing f g with
  | nil => exact .nil
  | cons head _ ih =>
      rw [List.mapIdx_cons, List.mapIdx_cons]
      exact .cons (each 0 _ _ head) (ih fun position => each (position + 1))

theorem forall₂_filter {f : α → Bool} {g : β → Bool} (parallel : List.Forall₂ related values results)
    (each : ∀ value result, related value result → f value = g result) :
    List.Forall₂ related (values.filter f) (results.filter g) :=
  List.rel_filter (fun value result held => Bool.eq_iff_iff.mp (each value result held)) parallel

theorem rel_find?_of_parallel (parallel : List.Forall₂ related values results) {f : α → Bool}
    {g : β → Bool} (each : ∀ value result, related value result → f value = g result) :
    Option.Rel related (values.find? f) (results.find? g) := by
  induction parallel with
  | nil => exact .none
  | cons held _ ih =>
      rw [List.find?_cons, List.find?_cons, each _ _ held]
      split
      · exact .some held
      · exact ih

theorem forall₂_zipIdx (parallel : List.Forall₂ related values results) :
    List.Forall₂ (fun entry entry' => related entry.1 entry'.1 ∧ entry.2 = entry'.2) values.zipIdx
      results.zipIdx := by
  have numbered := @forall₂_mapIdx α β (α × Nat) (β × Nat) related values results
    (fun entry entry' => related entry.1 entry'.1 ∧ entry.2 = entry'.2)
    (fun position value => (value, position)) (fun position result => (result, position)) parallel
    fun _ _ _ held => ⟨held, rfl⟩
  rwa [List.mapIdx_eq_zipIdx_map, List.mapIdx_eq_zipIdx_map, List.map_id', List.map_id'] at numbered

/-- Whether two entries have one key and related values. -/
def AtKey (related : α → β → Prop) (entry : κ × α) (entry' : κ × β) : Prop :=
  entry.1 = entry'.1 ∧ related entry.2 entry'.2

theorem keys_eq_of_parallel {entries : List (κ × α)} {entries' : List (κ × β)}
    (parallel : List.Forall₂ (AtKey related) entries entries') :
    entries.map Prod.fst = entries'.map Prod.fst := by
  have keys : List.Forall₂ Eq (entries.map Prod.fst) (entries'.map Prod.fst) :=
    List.rel_map (fun _ _ both => both.1) parallel
  rwa [List.forall₂_eq_eq_eq] at keys

theorem values_of_parallel {entries : List (κ × α)} {entries' : List (κ × β)}
    (parallel : List.Forall₂ (AtKey related) entries entries') :
    List.Forall₂ related (entries.map Prod.snd) (entries'.map Prod.snd) :=
  List.rel_map (fun _ _ both => both.2) parallel

theorem forall₂_zip (keys : List κ) (parallel : List.Forall₂ related values results) :
    List.Forall₂ (AtKey related) (keys.zip values) (keys.zip results) := by
  induction parallel generalizing keys with
  | nil =>
      rw [List.zip_nil_right, List.zip_nil_right]
      exact .nil
  | cons head _ ih =>
      cases keys with
      | nil => exact .nil
      | cons key keys => exact .cons ⟨rfl, head⟩ (ih keys)

theorem rel_mapM_of_parallel (parallel : List.Forall₂ related values results) {mapped : γ → δ → Prop}
    {f : α → Option γ} {g : β → Option δ}
    (each : ∀ value result, related value result → Option.Rel mapped (f value) (g result)) :
    Option.Rel (List.Forall₂ mapped) (values.mapM f) (results.mapM g) := by
  induction parallel with
  | nil => exact .some .nil
  | cons held _ ih =>
      rw [List.mapM_cons, List.mapM_cons]
      exact rel_bind (each _ _ held) fun _ _ first =>
        rel_bind ih fun _ _ others => .some (.cons first others)

end Lists

end Conformance
