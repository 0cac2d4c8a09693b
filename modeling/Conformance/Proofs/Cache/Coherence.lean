import Conformance.Proofs.Cache.Freshness
import Conformance.Proofs.Compilation.Stability
/-!
Coherence of the cache. A cached schema is settled when its document compiles to that very schema. A
cache is coherent when this holds of all fresh schemas whose references are cached. A compilation
that renews cached schemas on its way settles those that it renews, so that coherence survives a
walk over a cache that is out of date, in whatever order it goes.
-/

namespace Conformance

namespace Site

variable {site : Site} {source : Source} {schema cached fresh : Schema}
  {cache after : Cache} {key : String}

/-- Whether the document of a schema compiles to that schema, and leaves the cache as it is. -/
def Settled (site : Site) (cache : Cache) (schema : Schema) : Prop :=
  (site.compile schema.source).outcome cache = (.ok schema, cache)

/-- Whether a name is cached. -/
def IsCached (cache : Cache) (name : String) : Prop := ∃ schema, Table.lookup cache name = some schema

/-- Whether the fresh schemas are settled, as far as their references are cached. -/
def Coherent (site : Site) (cache : Cache) : Prop :=
  ∀ key schema, Table.lookup cache key = some schema → site.IsFresh schema →
    (∀ name ∈ schema.references, IsCached cache name) → site.Settled cache schema

theorem Settled.hasFresh (settled : site.Settled cache schema) :
    ∀ name ∈ schema.references, site.HasFresh cache name :=
  (stable_compileWithin site _ _ _ _ _ settled).2.1

theorem Settled.congr {other : Cache} (settled : site.Settled cache schema)
    (agree : AgreeOn schema.references cache other) : site.Settled other schema :=
  (stable_compileWithin site _ _ _ _ _ settled).2.2 other agree

theorem Settled.extend {other : Cache} (settled : site.Settled cache schema)
    (extended : site.Extends cache other) : site.Settled other schema :=
  settled.congr (extended.agreeOn settled.hasFresh)

/-- Schemas of the same source that are settled in the same cache are the same. -/
theorem Settled.unique {other : Schema} (settled : site.Settled cache schema)
    (settled' : site.Settled cache other) (same : schema.source = other.source) :
    schema = other := by
  unfold Settled at settled settled'
  rw [same, settled'] at settled
  cases settled
  rfl

/-- What compiles, also some levels deeper, is settled afterwards. -/
theorem settled_of_compileWithin {levels : Nat}
    (within : levels ≤ site.settings.config.maxDepth + 1)
    (compiled : (site.compileWithin levels source).outcome cache = (.ok schema, after)) :
    site.Settled after schema := by
  have again := (stable_compileWithin site levels source cache schema after compiled).2.2 after
    fun _ _ => rfl
  have deeper := compileWithin_add (site.settings.config.maxDepth + 1 - levels) again
  rw [Nat.add_sub_cancel' within] at deeper
  unfold Settled Site.compile
  rw [source_of_compileWithin compiled]
  exact deeper

/-- What a compilation does to a cache: it keeps the fresh schemas, and whatever it puts in the place
of another is made from the same source and settled. -/
structure Renewal (site : Site) (cache after : Cache) : Prop where
  extended : site.Extends cache after
  source : ∀ key schema, Table.lookup after key = some schema →
    ∃ old, Table.lookup cache key = some old ∧ schema.source = old.source
  settled : ∀ key schema, Table.lookup after key = some schema → site.IsFresh schema →
    Table.lookup cache key = some schema ∨ site.Settled after schema

theorem Renewal.refl (site : Site) (cache : Cache) : site.Renewal cache cache where
  extended := .refl site cache
  source := fun _ schema found => ⟨schema, found, rfl⟩
  settled := fun _ _ found _ => .inl found

theorem Renewal.trans {between : Cache} (early : site.Renewal cache between)
    (late : site.Renewal between after) : site.Renewal cache after where
  extended := early.extended.trans late.extended
  source := by
    intro key schema found
    obtain ⟨middle, foundMiddle, same⟩ := late.source key schema found
    obtain ⟨old, foundOld, same'⟩ := early.source key middle foundMiddle
    exact ⟨old, foundOld, same.trans same'⟩
  settled := by
    intro key schema found fresh
    rcases late.settled key schema found fresh with before | settled
    · rcases early.settled key schema before fresh with before' | settled
      · exact .inl before'
      · exact .inr (settled.extend late.extended)
    · exact .inr settled

/-- If the compilation of a document puts a schema of its own in the place of the one out of date, it is
the same that it ends with. -/
theorem Renewal.eq_of_isFresh {levels : Nat} (renewal : site.Renewal cache after)
    (within : levels ≤ site.settings.config.maxDepth + 1)
    (found : Table.lookup cache key = some cached) (stale : ¬ site.IsFresh cached)
    (compiled : (site.compileWithin levels cached.source).outcome cache = (.ok fresh, after))
    (present : Table.lookup after key = some schema) (isFresh : site.IsFresh schema) :
    schema = fresh := by
  rcases renewal.settled key schema present isFresh with before | settled
  · rw [found] at before
    cases before
    exact absurd isFresh stale
  · obtain ⟨old, foundOld, sameSource⟩ := renewal.source key schema present
    rw [found] at foundOld
    cases foundOld
    exact settled.unique (settled_of_compileWithin within compiled)
      (sameSource.trans (source_of_compileWithin compiled).symm)

/-- The schema that takes the place of one out of date. -/
theorem Renewal.put {levels : Nat} (renewal : site.Renewal cache after)
    (within : levels ≤ site.settings.config.maxDepth + 1)
    (found : Table.lookup cache key = some cached) (stale : ¬ site.IsFresh cached)
    (compiled : (site.compileWithin levels cached.source).outcome cache = (.ok fresh, after)) :
    site.Renewal cache (Table.put after key fresh) := by
  have settled := settled_of_compileWithin within compiled
  have onward : site.Extends after (Table.put after key fresh) := by
    intro name schema present isFresh
    rw [Table.lookup_put]
    split
    · rename_i here
      rw [here] at present
      rw [renewal.eq_of_isFresh within found stale compiled present isFresh]
    · exact present
  refine ⟨renewal.extended.put found stale fresh, ?_, ?_⟩
  · intro name schema present
    rw [Table.lookup_put] at present
    split at present
    · rename_i here
      cases present
      rw [here]
      exact ⟨cached, found, source_of_compileWithin compiled⟩
    · exact renewal.source name schema present
  · intro name schema present isFresh
    rw [Table.lookup_put] at present
    split at present
    · cases present
      exact .inr (settled.extend onward)
    · exact (renewal.settled name schema present isFresh).imp_right fun settled =>
        settled.extend onward

theorem renewal_compile {result : Except CompileError Schema}
    (compiled : (site.compile source).outcome cache = (result, after)) :
    site.Renewal cache after := by
  have kept := compileWithin_related site site.Renewal (site.settings.config.maxDepth + 1)
    (.refl site) Renewal.trans
    (fun below found stale compiled renewal =>
      renewal.put (Nat.le_of_lt below) found stale compiled)
    (Nat.le_refl _) source cache
  unfold Site.compile at compiled
  rw [compiled] at kept
  exact kept

theorem Coherent.renewal (coherent : site.Coherent cache) (renewal : site.Renewal cache after) :
    site.Coherent after := by
  intro key schema found fresh references
  rcases renewal.settled key schema found fresh with before | settled
  · have referencesBefore : ∀ name ∈ schema.references, IsCached cache name := by
      intro name member
      obtain ⟨other, present⟩ := references name member
      obtain ⟨old, presentBefore, _⟩ := renewal.source name other present
      exact ⟨old, presentBefore⟩
    exact (coherent key schema before fresh referencesBefore).extend renewal.extended
  · exact settled

/-- Without a name, the schemas that refer to it lack a reference; the others do not depend on it. -/
theorem Coherent.remove (coherent : site.Coherent cache) (key : String) :
    site.Coherent (Table.remove cache key) := by
  intro other schema found fresh references
  have apart : ∀ name ∈ schema.references, name ≠ key := by
    intro name member same
    obtain ⟨present, lookup⟩ := references name member
    rw [same, Table.lookup_remove_self] at lookup
    cases lookup
  have agree : AgreeOn schema.references cache (Table.remove cache key) :=
    fun name member => Table.lookup_remove_of_ne cache (apart name member)
  rw [Table.lookup_remove] at found
  split at found
  · cases found
  · apply Settled.congr _ agree
    apply coherent other schema found fresh
    intro name member
    obtain ⟨present, lookup⟩ := references name member
    rw [agree name member] at lookup
    exact ⟨present, lookup⟩

theorem Coherent.renew (coherent : site.Coherent cache)
    (found : Table.lookup cache key = some cached) (stale : ¬ site.IsFresh cached) :
    site.Coherent (site.renew key cached cache).2 := by
  unfold Site.renew
  split
  · rename_i fresh after compiled
    exact coherent.renewal ((renewal_compile compiled).put (Nat.le_refl _) found stale compiled)
  · rename_i error after compiled
    exact (coherent.renewal (renewal_compile compiled)).remove key

/-- A walk that compiles again what is out of date keeps a cache coherent. -/
theorem Coherent.renewStale {keys : List String} {count : Nat} (coherent : site.Coherent cache) :
    site.Coherent (site.renewStale cache count keys).2 :=
  renewStale_keeps site.Coherent (fun found stale coherent => coherent.renew found stale) coherent

end Site

namespace Environment

variable {environment : Environment} {walk : Walk}

/-- An environment whose cache is coherent for its settings of now. -/
def Coherent (environment : Environment) : Prop := environment.site.Coherent environment.cache

theorem Coherent.recompile (coherent : environment.Coherent) :
    (environment.recompile walk).2.Coherent :=
  Site.Coherent.renewStale coherent

/-- A change of settings leaves no schema fresh, and those that are compiled again are settled. -/
theorem coherent_change {change : Change} (sound : environment.Sound)
    (coherent : environment.Coherent) : (environment.change walk change).2.Coherent := by
  unfold Environment.change
  split
  · exact coherent
  · apply Coherent.recompile
    intro key schema found fresh
    exact absurd fresh (sound.not_isFresh_changed _ found)

end Environment

end Conformance
