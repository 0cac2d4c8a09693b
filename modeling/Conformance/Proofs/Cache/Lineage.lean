import Conformance.Proofs.Cache.Forest
/-!
Where cached schemas come from. An operation puts one schema under a name at most. Whatever else is cached
afterwards was cached under its name before and is made from the same source, though it may have been
compiled again (`Environment.Sound.descends_or_stores`).
-/

namespace Conformance

/-- Whether every cached schema is made from the source of the one under its name in another cache. -/
def Descends (start cache : Cache) : Prop :=
  ∀ key schema, Table.lookup cache key = some schema →
    ∃ old, Table.lookup start key = some old ∧ schema.source = old.source

variable {site : Site} {start cache : Cache} {key : String} {schema old : Schema}

theorem Descends.refl (cache : Cache) : Descends cache cache :=
  fun _ schema found => ⟨schema, found, rfl⟩

theorem Descends.trans {between : Cache} (early : Descends start between)
    (late : Descends between cache) : Descends start cache := by
  intro key schema found
  obtain ⟨middle, foundMiddle, same⟩ := late key schema found
  obtain ⟨old, foundOld, same'⟩ := early key middle foundMiddle
  exact ⟨old, foundOld, same.trans same'⟩

theorem Descends.put (descends : Descends start cache) (key : String) (schema : Schema) :
    Descends (Table.put start key schema) (Table.put cache key schema) := by
  intro other present found
  rw [Table.lookup_put] at found
  by_cases here : other = key
  · rw [if_pos here] at found
    cases found
    exact ⟨schema, (Table.lookup_put ..).trans (if_pos here), rfl⟩
  · rw [if_neg here] at found
    obtain ⟨old, foundOld, same⟩ := descends other present found
    exact ⟨old, (Table.lookup_put_of_ne start schema here).trans foundOld, same⟩

theorem descends_remove (cache : Cache) (key : String) :
    Descends cache (Table.remove cache key) := by
  intro other schema found
  rw [Table.lookup_remove] at found
  split at found
  · cases found
  · exact ⟨schema, found, rfl⟩

theorem Descends.renew (descends : Descends start cache) (found : Table.lookup start key = some old)
    (same : schema.source = old.source) : Descends start (site.renew key schema cache).2 := by
  unfold Site.renew
  split
  · rename_i fresh after compiled
    have before : Descends start after := descends.trans (Site.renewal_compile compiled).source
    intro other present lookup
    rw [Table.lookup_put] at lookup
    split at lookup
    · rename_i here
      cases lookup
      rw [here]
      exact ⟨old, found, (Site.source_of_compileWithin compiled).trans same⟩
    · exact before other present lookup
  · rename_i error after compiled
    exact (descends.trans (Site.renewal_compile compiled).source).trans (descends_remove after key)

theorem Descends.refreshWithin {walk : Walk} {bound : Nat} {pending visited : List String}
    (descends : Descends start cache) (sound : site.Sound cache) :
    Descends start (site.refreshWithin walk bound cache pending visited) := by
  refine (Site.refreshWithin_keeps (fun cache => Descends start cache ∧ site.Sound cache)
    (fun key schema => site.Belongs key schema ∧
      ∃ old, Table.lookup start key = some old ∧ schema.source = old.source) ?_ ?_
    ⟨descends, sound⟩).1
  · rintro key schema cache ⟨belongs, old, found, same⟩ ⟨descends, sound⟩
    exact ⟨descends.renew found same, sound.renew belongs⟩
  · rintro cache name ⟨descends, sound⟩ entry member
    have found := ((Site.mem_dependents sound.distinct).mp member).1
    exact ⟨sound.belong entry.1 entry.2 found, descends entry.1 entry.2 found⟩

theorem Descends.renewStale {keys : List String} {count : Nat} (descends : Descends start cache) :
    Descends start (site.renewStale cache count keys).2 := by
  refine Site.renewStale_keeps (Descends start) ?_ descends
  intro key schema cache found _ descends
  obtain ⟨old, foundOld, same⟩ := descends key schema found
  exact descends.renew foundOld same

/-- Whether one schema was compiled in the place of another: only what it was compiled to may differ. -/
structure Schema.Renews (schema old : Schema) : Prop where
  name : schema.name = old.name
  named : schema.named = old.named
  document : schema.document = old.document
  strict : schema.strict = old.strict
  revision : schema.revision = old.revision

theorem Site.Belongs.renews {site' : Site} (belongs : site.Belongs key schema)
    (belongs' : site'.Belongs key old) (same : schema.source = old.source) : schema.Renews old := by
  have given : schema.givenName = old.givenName := congrArg Source.name same
  refine ⟨belongs.name.trans belongs'.name.symm, ?_, congrArg Source.document same,
    congrArg Source.strict same, congrArg Source.revision same⟩
  unfold Schema.givenName at given
  cases named : schema.named <;> cases named' : old.named <;> simp_all

/-- The schema that an operation gives. -/
def Environment.given (environment : Environment) (walk : Walk) : Operation → Option Schema
  | .build material name strict => (environment.build walk material name strict).1.toOption
  | .revise schema document => (environment.revise walk schema document).1.toOption
  | _ => none

/-- The revision of what an operation stores, in the place of what is cached. -/
def Operation.revisionOver (cached : Option Schema) : Operation → Nat
  | .build material _ _ => material.revisionOver cached
  | .revise schema _ => schema.revision + 1
  | _ => 0

namespace Environment

variable {environment after : Environment} {walk : Walk} {schema : Schema} {source : Source}

/-- What an environment that has stored a schema owes to the one before. -/
structure Stores (before after : Environment) (schema : Schema) : Prop where
  site : after.site = before.site
  placed : after.get schema.name = some schema
  descends : Descends (Table.put before.cache schema.name schema) after.cache

theorem Sound.stores (sound : environment.Sound)
    (belongs : environment.site.Belongs schema.name schema)
    (fresh : environment.site.IsFresh schema) :
    environment.Stores (environment.store walk schema) schema := by
  have stored := Site.Sound.put sound belongs fresh
  obtain ⟨visited, progress⟩ := Site.exists_progress_refresh walk stored
    (Table.lookup_put_self environment.cache schema.name schema)
  refine ⟨rfl, ?_, Descends.refreshWithin (.refl _) stored⟩
  exact progress.kept.trans (Table.lookup_put_self _ _ _)

/-- A source compiles and its schema is stored where it belongs, or everything stays as it is. -/
theorem Sound.compile_store (sound : environment.Sound) (walk : Walk) (source : Source) :
    (∃ error, environment.compile walk source = (.error error, environment)) ∨
      ∃ schema, environment.compile walk source = (.ok schema, environment.store walk schema) ∧
        environment.site.Belongs schema.name schema ∧ environment.site.IsFresh schema ∧
        schema.source = source ∧
        schema.name = source.name.getD (source.document.digest environment.name) := by
  unfold Environment.compile
  cases compiled : (environment.site.compile source).outcome environment.cache with
  | mk result cache =>
      have kept : cache = environment.cache := Site.compileWithin_of_allFresh compiled sound.fresh
      subst kept
      cases result with
      | error error => exact .inl ⟨_, rfl⟩
      | ok schema =>
          refine .inr ⟨schema, rfl, Site.belongs_of_compileWithin compiled,
            Site.isFresh_of_compileWithin compiled, Site.source_of_compileWithin compiled, ?_⟩
          obtain ⟨below, _, compiled⟩ := Site.compileWithin_ok compiled
          obtain ⟨_, _, _, _, _, _, rfl⟩ := Site.compileWith_ok compiled
          rfl

theorem Sound.compile_cases (sound : environment.Sound) (walk : Walk) (source : Source) :
    (∃ error, environment.compile walk source = (.error error, environment)) ∨
      ∃ schema after, environment.compile walk source = (.ok schema, after) ∧
        environment.Stores after schema ∧ schema.source = source ∧
        schema.name = source.name.getD (source.document.digest environment.name) := by
  rcases sound.compile_store walk source with failed | ⟨schema, compiled, belongs, fresh, origin⟩
  · exact .inl failed
  · exact .inr ⟨schema, _, compiled, sound.stores belongs fresh, origin⟩

/-- A build stores the schema that it gives, or leaves everything as it is. -/
theorem Sound.build_cases (sound : environment.Sound) (walk : Walk) (material : Material)
    (name : Option String) (strict : Option Bool) :
    (environment.build walk material name strict).2 = environment ∨
      ∃ schema after, environment.build walk material name strict = (.ok schema, after) ∧
        environment.Stores after schema ∧
        schema.revision = material.revisionOver (environment.get schema.name) := by
  rcases Environment.build_cases environment walk material name strict with same |
    ⟨source, same, numbered⟩
  · exact .inl same
  · rw [same]
    rcases sound.compile_cases walk source with ⟨error, failed⟩ | ⟨schema, after, compiled, stores,
      origin, called⟩
    · rw [failed]
      exact .inl rfl
    · refine .inr ⟨schema, after, compiled, stores, ?_⟩
      rw [called, ← numbered]
      exact congrArg Source.revision origin

/-- A revision compiles and its schema is stored where it belongs, once the superseded one is gone, or
everything stays as it is. -/
theorem Sound.revise_store (sound : environment.Sound) (walk : Walk) (handle : Schema)
    (document : Value) :
    (∃ error, environment.revise walk handle document = (.error error, environment)) ∨
      ∃ schema, environment.revise walk handle document =
          (.ok schema, (environment.dropSuperseded handle).store walk schema) ∧
        environment.site.Belongs schema.name schema ∧ environment.site.IsFresh schema ∧
        schema.revision = handle.revision + 1 := by
  unfold Environment.revise
  dsimp only
  split
  · rename_i revised cache compiled
    have kept : cache = environment.cache := Site.compileWithin_of_allFresh compiled sound.fresh
    subst kept
    exact .inr ⟨revised, rfl, Site.belongs_of_compileWithin compiled,
      Site.isFresh_of_compileWithin compiled,
      congrArg Source.revision (Site.source_of_compileWithin compiled)⟩
  · rename_i error cache compiled
    have kept : cache = environment.cache := Site.compileWithin_of_allFresh compiled sound.fresh
    subst kept
    exact .inl ⟨error, rfl⟩

/-- A revision stores the schema that it gives, or leaves everything as it is. -/
theorem Sound.revise_cases (sound : environment.Sound) (walk : Walk) (handle : Schema)
    (document : Value) :
    (environment.revise walk handle document).2 = environment ∨
      ∃ schema after, environment.revise walk handle document = (.ok schema, after) ∧
        environment.Stores after schema ∧ schema.revision = handle.revision + 1 := by
  rcases sound.revise_store walk handle document with ⟨error, failed⟩ | ⟨schema, revised, belongs, fresh,
    numbered⟩
  · exact .inl (congrArg Prod.snd failed)
  · rw [← @site_dropSuperseded environment handle] at belongs fresh
    have stores : (environment.dropSuperseded handle).Stores
        ((environment.dropSuperseded handle).store walk schema) schema :=
      sound.dropSuperseded.stores belongs fresh
    have dropped : Descends environment.cache (environment.dropSuperseded handle).cache :=
      fun _ schema found => ⟨schema, lookup_dropSuperseded found, rfl⟩
    exact .inr ⟨schema, _, revised, ⟨stores.site.trans site_dropSuperseded, stores.placed,
      (dropped.put schema.name schema).trans stores.descends⟩, numbered⟩

/-- After an operation, all that is cached is made from the sources from before, apart from the schema that
the operation gives. -/
theorem Sound.descends_or_stores (sound : environment.Sound) (walk : Walk) (operation : Operation) :
    Descends environment.cache (environment.perform walk operation).cache ∨
      ∃ schema, environment.given walk operation = some schema ∧
        environment.Stores (environment.perform walk operation) schema ∧
        schema.revision = operation.revisionOver (environment.get schema.name) := by
  cases operation with
  | build material name strict =>
      dsimp only [Environment.perform, given, Operation.revisionOver]
      rcases sound.build_cases walk material name strict with same | ⟨schema, after, built, stores,
        numbered⟩
      · rw [same]
        exact .inl (.refl _)
      · rw [built]
        exact .inr ⟨schema, rfl, stores, numbered⟩
  | revise handle document =>
      dsimp only [Environment.perform, given, Operation.revisionOver]
      rcases sound.revise_cases walk handle document with same | ⟨schema, after, revised, stores,
        numbered⟩
      · rw [same]
        exact .inl (.refl _)
      · rw [revised]
        exact .inr ⟨schema, rfl, stores, numbered⟩
  | remove name => exact .inl (descends_remove environment.cache name)
  | recompile => exact .inl (Descends.refl environment.cache).renewStale
  | change change =>
      dsimp only [Environment.perform, Environment.change]
      split
      · exact .inl (.refl _)
      · exact .inl (Descends.refl environment.cache).renewStale

end Environment

end Conformance
