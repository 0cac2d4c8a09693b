import Conformance.Compilation
/-!
Runs of scripts and of compilations. A relation between caches that is reflexive and transitive, and
that holds across the renewal of one cached schema, holds across every compilation
(`Site.compileWithin_related`). What compiles within some levels compiles to the same schema within
more of them (`Site.compileWithin_add`).
-/

namespace Conformance

/-- What is observed of a result is observed of a result that there is. -/
theorem Compiling.exists_of_observed {ε α β γ : Type} {result : Except ε α × β} {observe : α → γ}
    {observed : γ} (seen : result.1.toOption.map observe = some observed) :
    ∃ value rest, result = (.ok value, rest) ∧ observe value = observed := by
  rcases result with ⟨_ | value, rest⟩
  · cases seen
  · exact ⟨value, rest, rfl, Option.some.inj seen⟩

namespace Binding

variable {α : Type} {inner inner' : Value → Compiling Schema}
  {named named' : String → Compiling Schema}

theorem outcome_run_inner (document : Value) (next : Schema → Binding α) (references : NameSet)
    (cache : Cache) :
    ((Binding.inner document next).run inner named references).outcome cache =
      match (inner document).outcome cache with
      | (.ok schema, after) =>
        ((next schema).run inner named (NameSet.union references schema.references)).outcome after
      | (.error error, after) => (.error error, after) := by
  rw [run, Compiling.outcome_bind]
  rcases (inner document).outcome cache with ⟨_ | _, _⟩ <;> rfl

theorem outcome_run_named (name : String) (next : Schema → Binding α) (references : NameSet)
    (cache : Cache) :
    ((Binding.named name next).run inner named references).outcome cache =
      match (named name).outcome cache with
      | (.ok schema, after) =>
        ((next schema).run inner named (NameSet.insert name references)).outcome after
      | (.error error, after) => (.error error, after) := by
  rw [run, Compiling.outcome_bind]
  rcases (named name).outcome cache with ⟨_ | _, _⟩ <;> rfl

/-- A run that has a result got an answer to everything that it asked for. -/
theorem run_inner_ok {document : Value} {next : Schema → Binding α} {references references' : NameSet}
    {cache after : Cache} {result : α}
    (ran : ((Binding.inner document next).run inner named references).outcome cache =
      (.ok (result, references'), after)) :
    ∃ schema between, (inner document).outcome cache = (.ok schema, between) ∧
      ((next schema).run inner named (NameSet.union references schema.references)).outcome between =
        (.ok (result, references'), after) := by
  rw [outcome_run_inner] at ran
  cases answered : (inner document).outcome cache with
  | mk answer between =>
      rw [answered] at ran
      cases answer with
      | error error => cases ran
      | ok schema => exact ⟨schema, between, rfl, ran⟩

theorem run_named_ok {name : String} {next : Schema → Binding α} {references references' : NameSet}
    {cache after : Cache} {result : α}
    (ran : ((Binding.named name next).run inner named references).outcome cache =
      (.ok (result, references'), after)) :
    ∃ schema between, (named name).outcome cache = (.ok schema, between) ∧
      ((next schema).run inner named (NameSet.insert name references)).outcome between =
        (.ok (result, references'), after) := by
  rw [outcome_run_named] at ran
  cases answered : (named name).outcome cache with
  | mk answer between =>
      rw [answered] at ran
      cases answer with
      | error error => cases ran
      | ok schema => exact ⟨schema, between, rfl, ran⟩

/-- A run never forgets a reference. -/
theorem references_subset_of_run {script : Binding α} {references references' : NameSet}
    {cache after : Cache} {result : α}
    (ran : (script.run inner named references).outcome cache =
      (.ok (result, references'), after)) : ∀ name ∈ references, name ∈ references' := by
  induction script generalizing references cache with
  | done value =>
      cases ran
      exact fun _ => id
  | failed error => cases ran
  | inner document next ih =>
      obtain ⟨schema, between, answered, rest⟩ := run_inner_ok ran
      intro name member
      exact ih schema rest name ((NameSet.mem_union _ _).mpr (.inl member))
  | named asked next ih =>
      obtain ⟨schema, between, answered, rest⟩ := run_named_ok ran
      intro name member
      exact ih schema rest name ((NameSet.mem_insert _).mpr (.inr member))

/-- What holds across every answer holds across the run. -/
theorem run_related (related : Cache → Cache → Prop) (refl : ∀ cache, related cache cache)
    (trans : ∀ {first second third}, related first second → related second third →
      related first third)
    (onInner : ∀ document cache, related cache ((inner document).outcome cache).2)
    (onNamed : ∀ name cache, related cache ((named name).outcome cache).2)
    (script : Binding α) (references : NameSet) (cache : Cache) :
    related cache ((script.run inner named references).outcome cache).2 := by
  induction script generalizing references cache with
  | done result => exact refl cache
  | failed error => exact refl cache
  | inner document next ih =>
      have step := onInner document cache
      rw [outcome_run_inner]
      cases answered : (inner document).outcome cache with
      | mk answer between =>
          rw [answered] at step
          cases answer with
          | error error => exact step
          | ok schema => exact trans step (ih schema _ between)
  | named name next ih =>
      have step := onNamed name cache
      rw [outcome_run_named]
      cases answered : (named name).outcome cache with
      | mk answer between =>
          rw [answered] at step
          cases answer with
          | error error => exact step
          | ok schema => exact trans step (ih schema _ between)

/-- Where all answers stay the same, so does the result. -/
theorem run_ok_of_answers
    (onInner : ∀ document cache schema after, (inner document).outcome cache = (.ok schema, after) →
      (inner' document).outcome cache = (.ok schema, after))
    (onNamed : ∀ name cache schema after, (named name).outcome cache = (.ok schema, after) →
      (named' name).outcome cache = (.ok schema, after))
    {script : Binding α} {references references' : NameSet} {cache after : Cache} {result : α}
    (ran : (script.run inner named references).outcome cache =
      (.ok (result, references'), after)) :
    (script.run inner' named' references).outcome cache = (.ok (result, references'), after) := by
  induction script generalizing references cache with
  | done value => exact ran
  | failed error => cases ran
  | inner document next ih =>
      obtain ⟨schema, between, answered, rest⟩ := run_inner_ok ran
      rw [outcome_run_inner, onInner document cache schema between answered]
      exact ih schema rest
  | named name next ih =>
      obtain ⟨schema, between, answered, rest⟩ := run_named_ok ran
      rw [outcome_run_named, onNamed name cache schema between answered]
      exact ih schema rest

end Binding

namespace Site

variable {site : Site} {compile : Source → Compiling Schema} {source : Source}
  {schema : Schema} {cache after : Cache}

/-- Whether a schema was compiled by an environment as it is now. -/
def IsFresh (site : Site) (schema : Schema) : Prop :=
  schema.header.environmentRevision = site.revision

instance (site : Site) (schema : Schema) : Decidable (site.IsFresh schema) :=
  inferInstanceAs (Decidable (_ = _))

@[simp]
theorem source_schema (site : Site) (source : Source) (declared : Option KindSet)
    (constraints : List Bound) (references : NameSet) :
    (site.schema source declared constraints references).source = source := by
  rcases source with ⟨document, _ | name, strict, revision⟩ <;> rfl

theorem isFresh_schema (site : Site) (source : Source) (declared : Option KindSet)
    (constraints : List Bound) (references : NameSet) :
    site.IsFresh (site.schema source declared constraints references) := rfl

theorem outcome_resolve (site : Site) (compile : Source → Compiling Schema) (name : String)
    (cache : Cache) :
    (site.resolve compile name).outcome cache =
      match Table.lookup cache name with
      | none => (.error (.unknownSchema name), cache)
      | some cached =>
        if site.IsFresh cached then (.ok cached, cache)
        else match (compile cached.source).outcome cache with
          | (.ok fresh, after) => (.ok fresh, Table.put after name fresh)
          | (.error error, after) => (.error error, after) := by
  have opened : (site.resolve compile name).outcome cache =
      ((match Table.lookup cache name with
        | none => throw (.unknownSchema name)
        | some cached =>
          if cached.header.environmentRevision = site.revision then pure cached
          else do
            let fresh ← compile cached.source
            modify (Table.put · name fresh)
            pure fresh : Compiling Schema)).outcome cache := rfl
  rw [opened]
  cases found : Table.lookup cache name with
  | none => rfl
  | some cached =>
      dsimp only
      by_cases fresh : cached.header.environmentRevision = site.revision
      · rw [if_pos fresh, if_pos (show site.IsFresh cached from fresh)]
        rfl
      · rw [if_neg fresh, if_neg (show ¬ site.IsFresh cached from fresh), Compiling.outcome_bind]
        rcases (compile cached.source).outcome cache with ⟨_ | _, _⟩ <;> rfl

/-- A schema that compiles is made of the bound constraints of a mapping. -/
theorem compileWith_ok
    (compiled : (site.compileWith compile source).outcome cache = (.ok schema, after)) :
    ∃ entries declared constraints references,
      source.document = .object entries ∧
      ((site.context source entries).bindAll.run
        (fun document => compile ⟨document, none, source.strict, 0⟩)
        (site.resolve compile) []).outcome cache = (.ok ((declared, constraints), references), after) ∧
      schema = site.schema source declared constraints references := by
  unfold compileWith at compiled
  split at compiled
  case h_1 entries isObject =>
    rw [Compiling.outcome_bind] at compiled
    split at compiled
    case h_1 result between ran =>
      obtain ⟨⟨declared, constraints⟩, references⟩ := result
      simp only [Compiling.outcome_pure, Prod.mk.injEq, Except.ok.injEq] at compiled
      obtain ⟨same, rfl⟩ := compiled
      exact ⟨entries, declared, constraints, references, isObject, ran, same.symm⟩
    case h_2 => cases compiled
  case h_2 => cases compiled

/-- The other way round: bound constraints of a mapping make a schema. -/
theorem compileWith_of_bound {entries : List (String × Value)} {declared : Option KindSet}
    {constraints : List Bound} {references : NameSet} (isObject : source.document = .object entries)
    (ran : ((site.context source entries).bindAll.run
        (fun document => compile ⟨document, none, source.strict, 0⟩)
        (site.resolve compile) []).outcome cache =
      (.ok ((declared, constraints), references), after)) :
    (site.compileWith compile source).outcome cache =
      (.ok (site.schema source declared constraints references), after) := by
  unfold compileWith
  rw [isObject]
  dsimp only
  rw [Compiling.outcome_bind, ran]
  rfl

/-- What is no mapping does not compile. -/
theorem compileWith_error (noMapping : source.document.kind ≠ .object) (cache : Cache) :
    ((site.compileWith compile source).outcome cache).1.toOption = none := by
  unfold compileWith
  split
  · rename_i entries isObject
    rw [isObject] at noMapping
    exact absurd rfl noMapping
  · rfl

theorem compileWithin_ok {levels : Nat}
    (compiled : (site.compileWithin levels source).outcome cache = (.ok schema, after)) :
    ∃ below, levels = below + 1 ∧
      (site.compileWith (site.compileWithin below) source).outcome cache = (.ok schema, after) := by
  cases levels with
  | zero => cases compiled
  | succ below => exact ⟨below, rfl, compiled⟩

theorem source_of_compileWithin {levels : Nat}
    (compiled : (site.compileWithin levels source).outcome cache = (.ok schema, after)) :
    schema.source = source := by
  obtain ⟨below, _, compiled⟩ := compileWithin_ok compiled
  obtain ⟨_, _, _, _, _, _, rfl⟩ := compileWith_ok compiled
  exact source_schema _ _ _ _ _

theorem isFresh_of_compileWithin {levels : Nat}
    (compiled : (site.compileWithin levels source).outcome cache = (.ok schema, after)) :
    site.IsFresh schema := by
  obtain ⟨below, _, compiled⟩ := compileWithin_ok compiled
  obtain ⟨_, _, _, _, _, _, rfl⟩ := compileWith_ok compiled
  exact isFresh_schema _ _ _ _ _

/-- A relation between caches that holds across the renewal of one cached schema holds across
every compilation. -/
theorem compileWithin_related (site : Site) (related : Cache → Cache → Prop) (bound : Nat)
    (refl : ∀ cache, related cache cache)
    (trans : ∀ {first second third}, related first second → related second third →
      related first third)
    (renewal : ∀ {levels name cached fresh cache after}, levels < bound →
      Table.lookup cache name = some cached → ¬ site.IsFresh cached →
      (site.compileWithin levels cached.source).outcome cache = (.ok fresh, after) →
      related cache after → related cache (Table.put after name fresh))
    {levels : Nat} (within : levels ≤ bound) (source : Source) (cache : Cache) :
    related cache ((site.compileWithin levels source).outcome cache).2 := by
  induction levels generalizing source cache with
  | zero => exact refl cache
  | succ levels ih =>
      have below : levels < bound := within
      have onNamed : ∀ name cache,
          related cache ((site.resolve (site.compileWithin levels) name).outcome cache).2 := by
        intro name cache
        rw [outcome_resolve]
        cases found : Table.lookup cache name with
        | none => exact refl cache
        | some cached =>
            dsimp only
            split
            · exact refl cache
            · rename_i stale
              have step := ih (Nat.le_of_lt below) cached.source cache
              cases compiled : (site.compileWithin levels cached.source).outcome cache with
              | mk result after =>
                  rw [compiled] at step
                  cases result with
                  | error error => exact step
                  | ok fresh => exact renewal below found stale compiled step
      change related cache ((site.compileWith (site.compileWithin levels) source).outcome cache).2
      unfold compileWith
      split
      · rename_i entries isObject
        rw [Compiling.outcome_bind]
        have ran := Binding.run_related related refl trans
          (fun document cache => ih (Nat.le_of_lt below) ⟨document, none, source.strict, 0⟩ cache) onNamed
          (site.context source entries).bindAll [] cache
        split
        · rename_i result after bound
          rw [bound] at ran
          exact ran
        · rename_i error after bound
          rw [bound] at ran
          exact ran
      · exact refl cache

/-- What compiles within some levels compiles to the same schema within one more. -/
theorem compileWithin_succ {levels : Nat}
    (compiled : (site.compileWithin levels source).outcome cache = (.ok schema, after)) :
    (site.compileWithin (levels + 1) source).outcome cache = (.ok schema, after) := by
  induction levels generalizing source schema cache after with
  | zero => cases compiled
  | succ levels ih =>
      obtain ⟨entries, declared, constraints, references, isObject, ran, rfl⟩ :=
        compileWith_ok compiled
      refine compileWith_of_bound isObject (Binding.run_ok_of_answers ?_ ?_ ran)
      · intro document cache schema after answered
        exact ih answered
      · intro name cache schema after answered
        rw [outcome_resolve] at answered ⊢
        cases found : Table.lookup cache name with
        | none =>
            rw [found] at answered
            exact answered
        | some cached =>
            rw [found] at answered
            dsimp only at answered ⊢
            split at answered
            · rename_i fresh
              rw [if_pos fresh]
              exact answered
            · rename_i stale
              rw [if_neg stale]
              split at answered
              · rename_i fresh between compiled
                rw [ih compiled]
                exact answered
              · cases answered

theorem compileWithin_add {levels : Nat} (more : Nat)
    (compiled : (site.compileWithin levels source).outcome cache = (.ok schema, after)) :
    (site.compileWithin (levels + more) source).outcome cache = (.ok schema, after) := by
  induction more with
  | zero => exact compiled
  | succ more ih => exact compileWithin_succ ih

end Site

end Conformance
