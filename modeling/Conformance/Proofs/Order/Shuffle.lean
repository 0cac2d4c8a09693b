import Conformance.Proofs.Parallel
import Mathlib.Data.List.Pairwise
import Mathlib.Data.List.Perm.Basic
/-!
Lists in parallel but for their order. One list can be put in an order in which it is in parallel with
the other. What is collected from the members of two such lists, one by one, is related in the same way,
and a search that no two members answer finds related members.
-/

namespace Conformance

section Permutations

variable {α β γ : Type} {values others : List α}

/-- A search finds the same in every order, if all that answers it is the same. -/
theorem find?_eq_of_perm (perm : values.Perm others) {test : α → Bool}
    (unique : ∀ value ∈ values, ∀ other ∈ values, test value = true → test other = true →
      value = other) : values.find? test = others.find? test := by
  cases found : values.find? test with
  | none =>
      refine (List.find?_eq_none.mpr fun value member => ?_).symm
      exact List.find?_eq_none.mp found value (perm.mem_iff.mpr member)
  | some value =>
      have member := List.mem_of_find?_eq_some found
      have passes := List.find?_some found
      cases found' : others.find? test with
      | none => exact absurd passes (List.find?_eq_none.mp found' value (perm.mem_iff.mp member))
      | some other =>
          have member' := perm.mem_iff.mpr (List.mem_of_find?_eq_some found')
          rw [unique value member other member' passes (List.find?_some found')]

/-- Members that are read as the same are the same, if no two are. -/
theorem eq_of_nodup_filterMap {read : α → Option γ} (distinct : (values.filterMap read).Nodup)
    {value other : α} (member : value ∈ values) (member' : other ∈ values) {result : γ}
    (isRead : read value = some result) (isRead' : read other = some result) : value = other := by
  let differ : α → α → Prop := fun first second => ∀ result, read first = some result →
    ∀ result', read second = some result' → result ≠ result'
  have pairs : values.Pairwise differ := List.pairwise_filterMap.mp distinct
  have symmetric : Std.Symm differ :=
    ⟨fun _ _ different result found result' found' same => different result' found' result found same.symm⟩
  by_contra apart
  exact pairs.forall member member' apart result isRead result isRead' rfl

/-- Whether all members are read, and what as, depends on their order only in the order of what is read. -/
theorem rel_mapM_of_perm (perm : values.Perm others) (read : α → Option γ) :
    Option.Rel List.Perm (values.mapM read) (others.mapM read) := by
  induction perm with
  | nil => exact .some (.refl _)
  | @cons value values others _ ih =>
      rw [List.mapM_cons, List.mapM_cons]
      cases read value with
      | none => exact .none
      | some result =>
          change Option.Rel List.Perm ((values.mapM read).bind fun results => some (result :: results))
            ((others.mapM read).bind fun results => some (result :: results))
          exact rel_bind ih fun _ _ perm => .some (perm.cons result)
  | swap first second rest =>
      simp only [List.mapM_cons]
      cases read first with
      | none => cases read second <;> exact .none
      | some result =>
          cases read second with
          | none => exact .none
          | some result' =>
              cases rest.mapM read with
              | none => exact .none
              | some results => exact .some (.swap _ _ _)
  | trans _ _ ih ih' =>
      exact rel_imp (rel_comp ih ih') fun _ _ _ _ ⟨_, perm, perm'⟩ => perm.trans perm'

end Permutations

/-- Whether two lists are related member by member, when the first is put in another order. -/
def Shuffled {α β : Type} (related : α → β → Prop) : List α → List β → Prop :=
  Relation.Comp List.Perm (List.Forall₂ related)

namespace Shuffled

variable {α β γ δ : Type} {related : α → β → Prop} {mapped : γ → δ → Prop}
  {values : List α} {results : List β}

theorem of_parallel (parallel : List.Forall₂ related values results) :
    Shuffled related values results :=
  ⟨values, .refl _, parallel⟩

theorem forall_left {good : α → Prop} (shuffled : Shuffled related values results)
    (each : ∀ value result, related value result → good value) : ∀ value ∈ values, good value := by
  obtain ⟨between, perm, parallel⟩ := shuffled
  have both := parallel.imp fun value result held => And.intro (each value result held) held
  exact fun value member => ((List.forall₂_and_left _ _).mp both).1 value (perm.mem_iff.mp member)

theorem forall_right {good : β → Prop} (shuffled : Shuffled related values results)
    (each : ∀ value result, related value result → good result) : ∀ result ∈ results, good result := by
  obtain ⟨between, _, parallel⟩ := shuffled
  have both : List.Forall₂ (fun result value => good result ∧ related value result) results between :=
    (parallel.imp fun value result held => And.intro (each value result held) held).flip
  exact ((List.forall₂_and_left _ _).mp both).1

theorem length_eq (shuffled : Shuffled related values results) : values.length = results.length := by
  obtain ⟨between, perm, parallel⟩ := shuffled
  exact perm.length_eq.trans parallel.length_eq

theorem isEmpty_eq (shuffled : Shuffled related values results) :
    values.isEmpty = results.isEmpty := by
  rw [Bool.eq_iff_iff, List.isEmpty_iff_length_eq_zero, List.isEmpty_iff_length_eq_zero,
    shuffled.length_eq]

theorem filterMap (shuffled : Shuffled related values results) {f : α → Option γ} {g : β → Option δ}
    (each : ∀ value result, related value result → Option.Rel mapped (f value) (g result)) :
    Shuffled mapped (values.filterMap f) (results.filterMap g) := by
  obtain ⟨between, perm, parallel⟩ := shuffled
  exact ⟨_, perm.filterMap f, List.rel_filterMap each parallel⟩

theorem map (shuffled : Shuffled related values results) {f : α → γ} {g : β → δ}
    (each : ∀ value result, related value result → mapped (f value) (g result)) :
    Shuffled mapped (values.map f) (results.map g) := by
  obtain ⟨between, perm, parallel⟩ := shuffled
  exact ⟨_, perm.map f, List.rel_map each parallel⟩

theorem filter (shuffled : Shuffled related values results) {f : α → Bool} {g : β → Bool}
    (each : ∀ value result, related value result → f value = g result) :
    Shuffled related (values.filter f) (results.filter g) := by
  obtain ⟨between, perm, parallel⟩ := shuffled
  exact ⟨_, perm.filter f, forall₂_filter parallel each⟩

/-- What is collected from each member is in parallel but for the order, if it is for every member. -/
theorem flatMap (shuffled : Shuffled related values results) {f : α → List γ} {g : β → List δ}
    (each : ∀ value result, related value result → Shuffled mapped (f value) (g result)) :
    Shuffled mapped (values.flatMap f) (results.flatMap g) := by
  obtain ⟨between, perm, parallel⟩ := shuffled
  -- What one member gives is put in order by itself; the order of the members comes in front.
  have aligned : Shuffled mapped (between.flatMap f) (results.flatMap g) := by
    clear perm
    induction parallel with
    | nil => exact of_parallel .nil
    | cons held rest ih =>
        obtain ⟨first, perm, parallel⟩ := each _ _ held
        obtain ⟨others, perm', parallel'⟩ := ih
        exact ⟨first ++ others, perm.append perm', List.rel_append parallel parallel'⟩
  obtain ⟨others, perm', parallel'⟩ := aligned
  exact ⟨others, (perm.flatMap_right f).trans perm', parallel'⟩

theorem flatten {values : List (List γ)} {results : List (List δ)}
    (shuffled : Shuffled (Shuffled mapped) values results) :
    Shuffled mapped values.flatten results.flatten := by
  rw [← List.flatMap_id, ← List.flatMap_id]
  exact shuffled.flatMap fun _ _ held => held

/-- What is collected from each member is the same but for the order, if it is for every member. -/
theorem flatMap_perm (shuffled : Shuffled related values results) {f : α → List γ} {g : β → List γ}
    (each : ∀ value result, related value result → (f value).Perm (g result)) :
    (values.flatMap f).Perm (results.flatMap g) := by
  have same : Shuffled Eq (values.flatMap f) (results.flatMap g) :=
    shuffled.flatMap fun value result held =>
      ⟨g result, each value result held, List.forall₂_same.mpr fun _ _ => rfl⟩
  obtain ⟨between, perm, parallel⟩ := same
  rw [List.forall₂_eq_eq_eq] at parallel
  exact parallel ▸ perm

theorem rel_mapM (shuffled : Shuffled related values results) {f : α → Option γ} {g : β → Option δ}
    (each : ∀ value result, related value result → Option.Rel mapped (f value) (g result)) :
    Option.Rel (Shuffled mapped) (values.mapM f) (results.mapM g) := by
  obtain ⟨between, perm, parallel⟩ := shuffled
  exact rel_comp (rel_mapM_of_perm perm f) (rel_mapM_of_parallel parallel each)

theorem rel_find? (shuffled : Shuffled related values results) {f : α → Bool} {g : β → Bool}
    (each : ∀ value result, related value result → f value = g result)
    (unique : ∀ value ∈ values, ∀ other ∈ values, f value = true → f other = true → value = other) :
    Option.Rel related (values.find? f) (results.find? g) := by
  obtain ⟨between, perm, parallel⟩ := shuffled
  rw [find?_eq_of_perm perm unique]
  exact rel_find?_of_parallel parallel each

end Shuffled

end Conformance
