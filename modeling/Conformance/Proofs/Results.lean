import Conformance.Proofs.Parallel
/-!
Results that may be errors: what it takes for a result of several to be one, and results seen as
optional values.
-/

namespace Conformance

section Results

variable {ε ε' α β : Type} {result : Except ε α}

theorem mapError_eq_ok {f : ε → ε'} {value : α} :
    result.mapError f = .ok value ↔ result = .ok value := by
  cases result with
  | error error => simp [Except.mapError]
  | ok made => simp [Except.mapError]

theorem toOption_eq_some {value : α} : result.toOption = some value ↔ result = .ok value := by
  cases result with
  | error error => simp [Except.toOption]
  | ok made => simp [Except.toOption]

theorem toOption_map (f : α → β) (result : Except ε α) :
    (result.map f).toOption = result.toOption.map f := by
  cases result <;> rfl

theorem map_eq_ok {f : α → β} {mapped : β} :
    result.map f = .ok mapped ↔ ∃ value, result = .ok value ∧ f value = mapped := by
  cases result with
  | error error => simp [Except.map]
  | ok made => simp [Except.map]

theorem bind_eq_ok {next : α → Except ε β} {last : β} :
    (result >>= next) = .ok last ↔ ∃ value, result = .ok value ∧ next value = .ok last := by
  cases result with
  | error error => simp [bind, Except.bind]
  | ok made => simp [bind, Except.bind]

theorem mapM_eq_ok {f : α → Except ε β} {values : List α} {results : List β} :
    values.mapM f = .ok results ↔
      List.Forall₂ (fun value result => f value = .ok result) values results := by
  induction values generalizing results with
  | nil => simp [pure, Except.pure, eq_comm]
  | cons value values ih =>
      rw [List.mapM_cons, bind_eq_ok]
      constructor
      · rintro ⟨first, made, rest⟩
        obtain ⟨others, mapped, same⟩ := bind_eq_ok.mp rest
        cases same
        exact .cons made (ih.mp mapped)
      · intro parallel
        cases parallel with
        | cons made others =>
            exact ⟨_, made, bind_eq_ok.mpr ⟨_, ih.mpr others, rfl⟩⟩

theorem mapM_congr {f g : α → Except ε β} {values : List α}
    (same : ∀ value ∈ values, f value = g value) : values.mapM f = values.mapM g := by
  induction values with
  | nil => rfl
  | cons value values ih =>
      obtain ⟨first, others⟩ := List.forall_mem_cons.mp same
      rw [List.mapM_cons, List.mapM_cons, first, ih others]

theorem foldlM_congr {f g : β → α → Except ε β} {steps : List α}
    (same : ∀ step ∈ steps, ∀ state, f state step = g state step) (start : β) :
    steps.foldlM f start = steps.foldlM g start := by
  induction steps generalizing start with
  | nil => rfl
  | cons step steps ih =>
      obtain ⟨first, others⟩ := List.forall_mem_cons.mp same
      rw [List.foldlM_cons, List.foldlM_cons, first]
      exact congrArg (g start step >>= ·) (funext (ih others))

theorem mapM_cons_eq (f : α → Option β) (value : α) (values : List α) :
    (value :: values).mapM f = (f value).bind fun first => (values.mapM f).map (List.cons first) := by
  rw [List.mapM_cons]
  cases f value with
  | none => rfl
  | some first => cases values.mapM f <;> rfl

/-- Keys that are read one by one stay in front of the values beside them. -/
theorem mapM_zip {κ γ : Type} (read : κ → Option γ) (table : List (κ × α)) :
    ((table.map Prod.fst).mapM read).map (fun keys => keys.zip (table.map Prod.snd)) =
      table.mapM fun entry => (read entry.1).map fun key => (key, entry.2) := by
  induction table with
  | nil => rfl
  | cons entry table ih =>
      rw [mapM_cons_eq, ← ih, List.map_cons, List.map_cons, mapM_cons_eq]
      cases read entry.1 with
      | none => rfl
      | some key => cases (table.map Prod.fst).mapM read <;> rfl

/-- Results that are related as options both fail or both succeed. -/
theorem rel_toOption {result' : Except ε' β} {related : α → β → Prop}
    (rel : Option.Rel related result.toOption result'.toOption) :
    (∃ error error', result = .error error ∧ result' = .error error') ∨
      ∃ held held', result = .ok held ∧ result' = .ok held' ∧ related held held' := by
  cases result with
  | error error =>
      cases result' with
      | error error' => exact .inl ⟨error, error', rfl, rfl⟩
      | ok held' => cases rel
  | ok held =>
      cases result' with
      | error error' => cases rel
      | ok held' =>
          cases rel with
          | some both => exact .inr ⟨held, held', rfl, rfl, both⟩

end Results

end Conformance
