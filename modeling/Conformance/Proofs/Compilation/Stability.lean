import Conformance.Proofs.Compilation.Run
/-!
What a compilation depends on. It reads the cached schemas of the names that it refers to, and once
it succeeds these are fresh. So it gives the same schema wherever these names stand for the same
schemas, and leaves the cache alone there (`Site.stable_compileWithin`).
-/

namespace Conformance

/-- Whether some names stand for the same schemas in two caches. -/
def AgreeOn (names : NameSet) (cache other : Cache) : Prop :=
  ∀ name ∈ names, Table.lookup other name = Table.lookup cache name

namespace Site

variable {site : Site} {source : Source} {schema : Schema} {cache between after : Cache}
  {name : String}

/-- Whether a name stands for a fresh schema. -/
def HasFresh (site : Site) (cache : Cache) (name : String) : Prop :=
  ∃ schema, Table.lookup cache name = some schema ∧ site.IsFresh schema

/-- Whether the fresh schemas of a cache stand in another, too. -/
def Extends (site : Site) (cache after : Cache) : Prop :=
  ∀ name schema, Table.lookup cache name = some schema → site.IsFresh schema →
    Table.lookup after name = some schema

theorem Extends.refl (site : Site) (cache : Cache) : site.Extends cache cache :=
  fun _ _ found _ => found

theorem Extends.trans (early : site.Extends cache between) (late : site.Extends between after) :
    site.Extends cache after :=
  fun name schema found fresh => late name schema (early name schema found fresh) fresh

theorem HasFresh.mono (present : site.HasFresh cache name) (extended : site.Extends cache after) :
    site.HasFresh after name := by
  obtain ⟨schema, found, fresh⟩ := present
  exact ⟨schema, extended name schema found fresh, fresh⟩

/-- Names that stand for fresh schemas go on standing for the same ones. -/
theorem Extends.agreeOn {names : NameSet} (extended : site.Extends cache after)
    (present : ∀ name ∈ names, site.HasFresh cache name) : AgreeOn names cache after := by
  intro name member
  obtain ⟨schema, found, fresh⟩ := present name member
  rw [found]
  exact extended name schema found fresh

/-- Putting a fresh schema where none stands leaves the fresh ones. -/
theorem Extends.put {cached : Schema} (extended : site.Extends cache after)
    (found : Table.lookup cache name = some cached) (stale : ¬ site.IsFresh cached)
    (schema : Schema) : site.Extends cache (Table.put after name schema) := by
  intro other kept present fresh
  rw [Table.lookup_put]
  split
  · rename_i same
    rw [same, found] at present
    cases present
    exact absurd fresh stale
  · exact extended other kept present fresh

/-- A computation whose results depend on the schemas of some names only. A result makes these
fresh, keeps what is fresh already, and comes again in any cache that agrees on them. -/
def Stable {α : Type} (site : Site) (action : Compiling α) (names : α → NameSet) : Prop :=
  ∀ cache result after, action.outcome cache = (.ok result, after) →
    site.Extends cache after ∧ (∀ name ∈ names result, site.HasFresh after name) ∧
    ∀ other, AgreeOn (names result) after other → action.outcome other = (.ok result, other)

end Site

namespace Binding

variable {α : Type} {site : Site} {inner : Value → Compiling Schema}
  {named : String → Compiling Schema}

/-- A script whose answers are stable has a stable result, together with the references that it
begins with. -/
theorem run_stable (onInner : ∀ document, site.Stable (inner document) Schema.references)
    (onNamed : ∀ name, site.Stable (named name) fun _ => [name])
    {script : Binding α} {references references' : NameSet} {cache after : Cache} {result : α}
    (ran : (script.run inner named references).outcome cache =
      (.ok (result, references'), after))
    (present : ∀ name ∈ references, site.HasFresh cache name) :
    site.Extends cache after ∧ (∀ name ∈ references', site.HasFresh after name) ∧
    ∀ other, AgreeOn references' after other →
      (script.run inner named references).outcome other = (.ok (result, references'), other) := by
  induction script generalizing references cache with
  | done value =>
      cases ran
      exact ⟨.refl site after, present, fun _ _ => rfl⟩
  | failed error => cases ran
  | inner document next ih =>
      obtain ⟨schema, between, answered, rest⟩ := run_inner_ok ran
      obtain ⟨early, fresh, again⟩ := onInner document cache schema between answered
      have presentBetween : ∀ name ∈ NameSet.union references schema.references,
          site.HasFresh between name := by
        intro name member
        rcases (NameSet.mem_union _ _).mp member with old | new
        · exact (present name old).mono early
        · exact fresh name new
      obtain ⟨late, fresh', again'⟩ := ih schema rest presentBetween
      have kept := references_subset_of_run rest
      refine ⟨early.trans late, fresh', ?_⟩
      intro other agree
      have agreeBetween : AgreeOn schema.references between other := by
        intro name member
        rw [agree name (kept name ((NameSet.mem_union _ _).mpr (.inr member)))]
        exact late.agreeOn fresh name member
      rw [outcome_run_inner, again other agreeBetween]
      exact again' other agree
  | named name next ih =>
      obtain ⟨schema, between, answered, rest⟩ := run_named_ok ran
      obtain ⟨early, fresh, again⟩ := onNamed name cache schema between answered
      have presentBetween : ∀ other ∈ NameSet.insert name references,
          site.HasFresh between other := by
        intro other member
        rcases (NameSet.mem_insert _).mp member with rfl | old
        · exact fresh other List.mem_cons_self
        · exact (present other old).mono early
      obtain ⟨late, fresh', again'⟩ := ih schema rest presentBetween
      have kept := references_subset_of_run rest
      refine ⟨early.trans late, fresh', ?_⟩
      intro other agree
      have agreeBetween : AgreeOn [name] between other := by
        intro single member
        have asked : single ∈ NameSet.insert name references :=
          (NameSet.mem_insert _).mpr (.inl (List.mem_singleton.mp member))
        rw [agree single (kept single asked)]
        exact late.agreeOn fresh single member
      rw [outcome_run_named, again other agreeBetween]
      exact again' other agree

end Binding

namespace Site

variable {site : Site}

theorem stable_resolve {compile : Source → Compiling Schema}
    (stable : ∀ source, site.Stable (compile source) Schema.references) (name : String)
    (isFresh : ∀ {source cache schema after},
      (compile source).outcome cache = (.ok schema, after) → site.IsFresh schema) :
    site.Stable (site.resolve compile name) fun _ => [name] := by
  intro cache result after resolved
  rw [outcome_resolve] at resolved
  -- In whichever way the schema was found, it stands under the name afterwards and is fresh.
  have again : Table.lookup after name = some result → site.IsFresh result →
      (∀ other ∈ [name], site.HasFresh after other) ∧
      ∀ other, AgreeOn [name] after other →
        (site.resolve compile name).outcome other = (.ok result, other) := by
    intro found fresh
    constructor
    · intro other member
      cases List.mem_singleton.mp member
      exact ⟨result, found, fresh⟩
    · intro other agree
      rw [outcome_resolve, agree name List.mem_cons_self, found]
      exact if_pos fresh
  cases found : Table.lookup cache name with
  | none =>
      rw [found] at resolved
      cases resolved
  | some cached =>
      rw [found] at resolved
      dsimp only at resolved
      split at resolved
      · rename_i fresh
        cases resolved
        exact ⟨.refl site cache, again found fresh⟩
      · rename_i stale
        split at resolved
        · rename_i fresh between compiled
          cases resolved
          have extended := (stable cached.source cache result between compiled).1
          exact ⟨extended.put found stale result,
            again (Table.lookup_put_self _ _ _) (isFresh compiled)⟩
        · cases resolved

/-- A compilation depends on the schemas of its references only. -/
theorem stable_compileWithin (site : Site) (levels : Nat) (source : Source) :
    site.Stable (site.compileWithin levels source) Schema.references := by
  induction levels generalizing source with
  | zero =>
      intro cache schema after compiled
      cases compiled
  | succ levels ih =>
      intro cache schema after compiled
      obtain ⟨entries, declared, constraints, references, isObject, ran, rfl⟩ :=
        compileWith_ok compiled
      obtain ⟨extended, fresh, again⟩ := Binding.run_stable (fun document => ih _)
        (fun name => stable_resolve ih name isFresh_of_compileWithin) ran
        (fun _ member => absurd member List.not_mem_nil)
      refine ⟨extended, fresh, ?_⟩
      intro other agree
      exact compileWith_of_bound isObject (again other agree)

end Site

end Conformance
