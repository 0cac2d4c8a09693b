import Conformance.Proofs.Compilation.Run
/-!
Postconditions of scripts. `Binding.Yields` says what the result of a script is like if every schema
that it gets, for a document inside or for a name, is good for that document or that name. With
`Binding.Ensures` this is said of scripts that ask for no schema by name. A run that collects no
references is one of those (`Binding.ensured_of_run`).
-/

namespace Conformance

namespace Binding

variable {α β : Type} {good : Value → Schema → Prop} {known : String → Schema → Prop}
  {post post' : α → Prop} {script : Binding α}

/-- What the result of a script is like, if it has one and gets schemas that are `good` for the
documents inside and `known` for the names. -/
def Yields (good : Value → Schema → Prop) (known : String → Schema → Prop) (post : α → Prop) :
    Binding α → Prop
  | .done result => post result
  | .failed _ => True
  | .inner document next => ∀ schema, good document schema → (next schema).Yields good known post
  | .named name next => ∀ schema, known name schema → (next schema).Yields good known post

theorem Yields.mono (yields : script.Yields good known post)
    (weaker : ∀ result, post result → post' result) : script.Yields good known post' := by
  induction script with
  | done result => exact weaker result yields
  | failed error => trivial
  | inner document next ih => exact fun schema isGood => ih schema (yields schema isGood)
  | named name next ih => exact fun schema isKnown => ih schema (yields schema isKnown)

theorem Yields.bind {next : α → Binding β} {post' : β → Prop} (yields : script.Yields good known post)
    (rest : ∀ result, post result → (next result).Yields good known post') :
    (script >>= next).Yields good known post' := by
  induction script with
  | done result => exact rest result yields
  | failed error => trivial
  | inner document continuation ih => exact fun schema isGood => ih schema (yields schema isGood)
  | named name continuation ih => exact fun schema isKnown => ih schema (yields schema isKnown)

theorem Yields.and (first : script.Yields good known post) (second : script.Yields good known post') :
    script.Yields good known fun result => post result ∧ post' result := by
  induction script with
  | done result => exact ⟨first, second⟩
  | failed error => trivial
  | inner document next ih =>
      exact fun schema isGood => ih schema (first schema isGood) (second schema isGood)
  | named name next ih =>
      exact fun schema isKnown => ih schema (first schema isKnown) (second schema isKnown)

theorem yields_trivial (script : Binding α) : script.Yields good known fun _ => True := by
  induction script with
  | done result => trivial
  | failed error => trivial
  | inner document next ih => exact fun schema _ => ih schema
  | named name next ih => exact fun schema _ => ih schema

theorem yields_ofExcept {result : Except CompileError α}
    (yielded : ∀ value, result = .ok value → post value) :
    (ofExcept result).Yields good known post := by
  cases result with
  | error error => trivial
  | ok value => exact yielded value rfl

/-- A run whose answers are as a script expects them has such a result as the script yields, and keeps
what every answer keeps of the cache. -/
theorem yielded_of_run {inner : Value → Compiling Schema} {named : String → Compiling Schema}
    (keeps : Cache → Prop)
    (onInner : ∀ document cache, keeps cache → keeps ((inner document).outcome cache).2 ∧
      ∀ schema, ((inner document).outcome cache).1 = .ok schema → good document schema)
    (onNamed : ∀ name cache, keeps cache → keeps ((named name).outcome cache).2 ∧
      ∀ schema, ((named name).outcome cache).1 = .ok schema → known name schema)
    (yields : script.Yields good known post) (references : NameSet) {cache : Cache}
    (kept : keeps cache) :
    keeps ((script.run inner named references).outcome cache).2 ∧
      ∀ result, ((script.run inner named references).outcome cache).1 = .ok result → post result.1 := by
  induction script generalizing references cache with
  | done value =>
      refine ⟨kept, fun result same => ?_⟩
      cases same
      exact yields
  | failed error => exact ⟨kept, fun result same => nomatch same⟩
  | inner document next ih =>
      obtain ⟨between, isGood⟩ := onInner document cache kept
      rw [outcome_run_inner]
      cases answered : (inner document).outcome cache with
      | mk answer after =>
          rw [answered] at between isGood
          cases answer with
          | error error => exact ⟨between, fun result same => nomatch same⟩
          | ok schema => exact ih schema (yields schema (isGood schema rfl)) _ between
  | named name next ih =>
      obtain ⟨between, isKnown⟩ := onNamed name cache kept
      rw [outcome_run_named]
      cases answered : (named name).outcome cache with
      | mk answer after =>
          rw [answered] at between isKnown
          cases answer with
          | error error => exact ⟨between, fun result same => nomatch same⟩
          | ok schema => exact ih schema (yields schema (isKnown schema rfl)) _ between

/-- What the result of a script is like, if it has one without asking for a schema by name. -/
def Ensures (good : Value → Schema → Prop) (post : α → Prop) : Binding α → Prop
  | .done result => post result
  | .failed _ => True
  | .inner document next => ∀ schema, good document schema → (next schema).Ensures good post
  | .named _ _ => True

theorem Ensures.yields (ensures : script.Ensures good post) :
    script.Yields good (fun _ _ => False) post := by
  induction script with
  | done result => exact ensures
  | failed error => trivial
  | inner document next ih => exact fun schema isGood => ih schema (ensures schema isGood)
  | named name next ih => exact fun _ => False.elim

theorem Yields.ensures (yields : script.Yields good known post) : script.Ensures good post := by
  induction script with
  | done result => exact yields
  | failed error => trivial
  | inner document next ih => exact fun schema isGood => ih schema (yields schema isGood)
  | named name next ih => trivial

theorem ensures_trivial (script : Binding α) : script.Ensures good fun _ => True :=
  (yields_trivial script : script.Yields good (fun _ _ => False) _).ensures

theorem Ensures.mono (ensures : script.Ensures good post)
    (weaker : ∀ result, post result → post' result) : script.Ensures good post' :=
  (ensures.yields.mono weaker).ensures

theorem Ensures.and (first : script.Ensures good post) (second : script.Ensures good post') :
    script.Ensures good fun result => post result ∧ post' result :=
  (first.yields.and second.yields).ensures

theorem Ensures.bind {next : α → Binding β} {post' : β → Prop} (ensures : script.Ensures good post)
    (rest : ∀ result, post result → (next result).Ensures good post') :
    (script >>= next).Ensures good post' :=
  (ensures.yields.bind fun result held => (rest result held).yields).ensures

theorem ensures_ofExcept {result : Except CompileError α}
    (ensured : ∀ value, result = .ok value → post value) : (ofExcept result).Ensures good post :=
  (yields_ofExcept ensured : (ofExcept result).Yields good (fun _ _ => False) post).ensures

/-- A run without references in the end has no references in between, and ensures what its script
does. -/
theorem ensured_of_run {inner : Value → Compiling Schema} {named : String → Compiling Schema}
    (answers : ∀ {document cache schema after},
      (inner document).outcome cache = (.ok schema, after) → schema.references = [] →
      good document schema)
    (ensures : script.Ensures good post) {references : NameSet} {cache after : Cache} {result : α}
    (ran : (script.run inner named references).outcome cache = (.ok (result, []), after)) :
    post result := by
  induction script generalizing references cache with
  | done value =>
      cases ran
      exact ensures
  | failed error => cases ran
  | inner document next ih =>
      obtain ⟨schema, between, answered, rest⟩ := run_inner_ok ran
      refine ih schema (ensures schema (answers answered ?_)) rest
      have kept := references_subset_of_run rest
      apply List.eq_nil_iff_forall_not_mem.mpr
      intro name member
      exact List.not_mem_nil (kept name ((NameSet.mem_union _ _).mpr (.inr member)))
  | named name next ih =>
      obtain ⟨schema, between, answered, rest⟩ := run_named_ok ran
      have kept := references_subset_of_run rest name ((NameSet.mem_insert _).mpr (.inl rfl))
      exact absurd kept List.not_mem_nil

end Binding

end Conformance
