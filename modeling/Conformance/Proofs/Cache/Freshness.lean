import Conformance.Operation
import Conformance.Proofs.Cache.Walks
/-!
Freshness of the cache. Between operations every cached schema stands under its own name, belongs to
its environment and is as recent as the environment itself, so that there is nothing left to compile
again (`Environment.Reachable.fresh`). Within an operation this holds of the schemas that were
compiled since the settings changed; a walk over all names reaches the others.
-/

namespace Conformance

namespace Site

variable {site : Site} {cache after : Cache} {key : String} {schema fresh : Schema}
  {source : Source}

/-- Whether an environment as it is now makes a schema of its document, in some cache. -/
def Made (site : Site) (schema : Schema) : Prop :=
  ∃ levels cache after,
    (site.compileWithin levels schema.source).outcome cache = (.ok schema, after)

/-- What is true of a schema that is cached under a key, whether or not it is out of date. -/
structure Belongs (site : Site) (key : String) (schema : Schema) : Prop where
  name : schema.name = key
  digest : schema.named = false → schema.name = schema.document.digest site.environment
  environment : schema.header.environment = site.identity
  made : site.IsFresh schema → site.Made schema

/-- Every cached schema belongs where it stands. -/
def AllBelong (site : Site) (cache : Cache) : Prop :=
  ∀ key schema, Table.lookup cache key = some schema → site.Belongs key schema

/-- Every cached schema was compiled by the environment as it is now. -/
def AllFresh (site : Site) (cache : Cache) : Prop :=
  ∀ key schema, Table.lookup cache key = some schema → site.IsFresh schema

theorem belongs_of_compileWithin {levels : Nat}
    (compiled : (site.compileWithin levels source).outcome cache = (.ok schema, after)) :
    site.Belongs schema.name schema := by
  have made : site.Made schema :=
    ⟨levels, cache, after, by rwa [source_of_compileWithin compiled]⟩
  obtain ⟨below, _, compiled⟩ := compileWithin_ok compiled
  obtain ⟨_, _, _, _, _, _, rfl⟩ := compileWith_ok compiled
  refine ⟨rfl, ?_, rfl, fun _ => made⟩
  rcases source with ⟨document, _ | name, strict, revision⟩
  · exact fun _ => rfl
  · intro unnamed
    cases unnamed

/-- A schema that is compiled again belongs where the one that it replaces did. -/
theorem Belongs.renewed {levels : Nat} (old : site.Belongs key schema)
    (compiled : (site.compileWithin levels schema.source).outcome cache = (.ok fresh, after)) :
    site.Belongs key fresh := by
  have own := belongs_of_compileWithin compiled
  suffices named : fresh.name = key by rwa [named] at own
  obtain ⟨below, _, compiled⟩ := compileWithin_ok compiled
  obtain ⟨_, _, _, _, _, _, rfl⟩ := compileWith_ok compiled
  change (schema.source.name.getD (schema.document.digest site.environment)) = key
  have digest := old.digest
  rw [old.name] at digest
  unfold Schema.source Schema.givenName
  cases naming : schema.named with
  | true => exact old.name
  | false => exact (digest naming).symm

/-- Compilation leaves every cached schema as it was or replaces it by a fresh one. -/
theorem lookup_compileWithin {levels : Nat} {result : Except CompileError Schema}
    (compiled : (site.compileWithin levels source).outcome cache = (result, after))
    (found : Table.lookup after key = some schema) :
    site.IsFresh schema ∨ Table.lookup cache key = some schema := by
  have kept := compileWithin_related site
    (fun cache after => ∀ key schema, Table.lookup after key = some schema →
      site.IsFresh schema ∨ Table.lookup cache key = some schema)
    levels (fun _ _ _ found => .inr found)
    (fun early late key schema found => (late key schema found).elim .inl (early key schema))
    (by
      intro _ name cached fresh cache after _ _ _ compiled kept key schema found
      rw [Table.lookup_put] at found
      split at found
      · cases found
        exact .inl (isFresh_of_compileWithin compiled)
      · exact kept key schema found)
    (Nat.le_refl _) source cache
  rw [compiled] at kept
  exact kept key schema found

theorem allBelong_compileWithin {levels : Nat} {result : Except CompileError Schema}
    (compiled : (site.compileWithin levels source).outcome cache = (result, after))
    (belong : site.AllBelong cache) : site.AllBelong after := by
  have kept := compileWithin_related site
    (fun cache after => site.AllBelong cache → site.AllBelong after)
    levels (fun _ => id) (fun early late belong => late (early belong))
    (by
      intro _ name cached fresh cache after _ found _ compiled kept belong key schema lookup
      rw [Table.lookup_put] at lookup
      split at lookup
      · rename_i same
        cases lookup
        rw [same]
        exact (belong name cached found).renewed compiled
      · exact kept belong key schema lookup)
    (Nat.le_refl _) source cache
  rw [compiled] at kept
  exact kept belong

theorem names_compileWithin {levels : Nat} {result : Except CompileError Schema}
    (compiled : (site.compileWithin levels source).outcome cache = (result, after)) :
    Table.names after = Table.names cache := by
  have kept := compileWithin_related site
    (fun cache after => Table.names after = Table.names cache)
    levels (fun _ => rfl) (fun early late => late.trans early)
    (by
      intro _ name cached fresh cache after _ found _ _ kept
      have member : name ∈ Table.names after := by
        rw [kept, ← Table.has_iff_mem_names]
        simp [Table.has, found]
      rw [Table.names_put, if_pos member, kept])
    (Nat.le_refl _) source cache
  rw [compiled] at kept
  exact kept

/-- Where nothing is out of date, compilation leaves the cache as it is. -/
theorem compileWithin_of_allFresh {levels : Nat} {result : Except CompileError Schema}
    (compiled : (site.compileWithin levels source).outcome cache = (result, after))
    (allFresh : site.AllFresh cache) : after = cache := by
  have kept := compileWithin_related site
    (fun cache after => site.AllFresh cache → after = cache)
    levels (fun _ _ => rfl)
    (fun early late allFresh => by
      have same := early allFresh
      subst same
      exact late allFresh)
    (by
      intro _ name cached fresh cache after _ found stale _ _ allFresh
      exact absurd (allFresh name cached found) stale)
    (Nat.le_refl _) source cache
  rw [compiled] at kept
  exact kept allFresh

/-- Where nothing is out of date, a name stands for what is cached under it. -/
theorem outcome_resolve_of_allFresh (compile : Source → Compiling Schema) (name : String)
    (allFresh : site.AllFresh cache) :
    (site.resolve compile name).outcome cache =
      ((Table.lookup cache name).elim (.error (.unknownSchema name)) .ok, cache) := by
  rw [outcome_resolve]
  cases found : Table.lookup cache name with
  | none => rfl
  | some cached => exact if_pos (allFresh name cached found)

/-- The cache between operations: no name stands twice, and every schema belongs where it stands
and is fresh. -/
structure Sound (site : Site) (cache : Cache) : Prop where
  distinct : (Table.names cache).Nodup
  belong : site.AllBelong cache
  fresh : site.AllFresh cache

theorem Sound.put (sound : site.Sound cache) (belongs : site.Belongs key schema)
    (fresh : site.IsFresh schema) : site.Sound (Table.put cache key schema) where
  distinct := Table.nodup_names_put key schema sound.distinct
  belong := by
    intro other found lookup
    rw [Table.lookup_put] at lookup
    split at lookup
    · rename_i same
      cases lookup
      rwa [same]
    · exact sound.belong other found lookup
  fresh := by
    intro other found lookup
    rw [Table.lookup_put] at lookup
    split at lookup
    · cases lookup
      exact fresh
    · exact sound.fresh other found lookup

theorem Sound.remove (sound : site.Sound cache) (key : String) :
    site.Sound (Table.remove cache key) where
  distinct := Table.nodup_names_remove key sound.distinct
  belong := by
    intro other found lookup
    rw [Table.lookup_remove] at lookup
    split at lookup
    · cases lookup
    · exact sound.belong other found lookup
  fresh := by
    intro other found lookup
    rw [Table.lookup_remove] at lookup
    split at lookup
    · cases lookup
    · exact sound.fresh other found lookup

theorem Sound.renew (sound : site.Sound cache) (belongs : site.Belongs key schema) :
    site.Sound (site.renew key schema cache).2 := by
  unfold Site.renew
  split
  · rename_i fresh after compiled
    rw [compileWithin_of_allFresh compiled sound.fresh]
    exact sound.put (belongs.renewed compiled) (isFresh_of_compileWithin compiled)
  · rename_i error after compiled
    rw [compileWithin_of_allFresh compiled sound.fresh]
    exact sound.remove key

/-- The dependents of a name are the cached schemas that refer to it. -/
theorem mem_dependents {walk : Walk} {name : String} (distinct : (Table.names cache).Nodup) :
    (key, schema) ∈ dependents walk cache name ↔
      Table.lookup cache key = some schema ∧ name ∈ schema.references := by
  have distinctFound : (Table.names (cache.filter
      fun entry => decide (name ∈ entry.2.references))).Nodup :=
    distinct.sublist ((List.filter_sublist).map _)
  unfold dependents
  simp only [List.mem_filterMap, Option.map_eq_some_iff, Prod.mk.injEq]
  constructor
  · rintro ⟨_, _, schema, found, rfl, rfl⟩
    have member := List.mem_filter.mp (Table.mem_of_lookup found)
    exact ⟨Table.lookup_of_mem distinct member.1, by simpa using member.2⟩
  · rintro ⟨found, refers⟩
    have member : (key, schema) ∈ cache.filter fun entry => decide (name ∈ entry.2.references) :=
      List.mem_filter.mpr ⟨Table.mem_of_lookup found, by simpa using refers⟩
    exact ⟨key, (walk.perm _).mem_iff.mpr (List.mem_map_of_mem member), schema,
      Table.lookup_of_mem distinctFound member, rfl, rfl⟩

theorem Sound.refreshWithin {walk : Walk} {bound : Nat} {pending visited : List String}
    (sound : site.Sound cache) :
    site.Sound (site.refreshWithin walk bound cache pending visited) := by
  refine refreshWithin_keeps site.Sound site.Belongs ?_ ?_ sound
  · intro key schema cache belongs sound
    exact sound.renew belongs
  · intro cache name sound entry member
    exact sound.belong entry.1 entry.2 ((mem_dependents sound.distinct).mp member).1

/-- The cache during a walk: what is out of date stands under a key that the walk has not come to. -/
structure Underway (site : Site) (keys : List String) (cache : Cache) : Prop where
  distinct : (Table.names cache).Nodup
  belong : site.AllBelong cache
  fresh : ∀ key schema, Table.lookup cache key = some schema → site.IsFresh schema ∨ key ∈ keys

theorem Underway.renew {keys : List String} (underway : site.Underway (key :: keys) cache)
    (found : Table.lookup cache key = some schema) :
    site.Underway keys (site.renew key schema cache).2 := by
  have remains : ∀ {result : Except CompileError Schema} {after : Cache},
      (site.compile schema.source).outcome cache = (result, after) → ∀ other found,
      Table.lookup after other = some found → other ≠ key → site.IsFresh found ∨ other ∈ keys := by
    intro result after compiled other found lookup apart
    rcases lookup_compileWithin compiled lookup with fresh | before
    · exact .inl fresh
    · rcases underway.fresh other found before with fresh | pending
      · exact .inl fresh
      · exact .inr ((List.mem_cons.mp pending).resolve_left apart)
  unfold Site.renew
  split
  · rename_i fresh after compiled
    have distinct := names_compileWithin compiled ▸ underway.distinct
    have belong := allBelong_compileWithin compiled underway.belong
    refine ⟨Table.nodup_names_put key fresh distinct, ?_, ?_⟩
    · intro other found' lookup
      rw [Table.lookup_put] at lookup
      split at lookup
      · rename_i same
        cases lookup
        rw [same]
        exact (underway.belong key schema found).renewed compiled
      · exact belong other found' lookup
    · intro other found' lookup
      rw [Table.lookup_put] at lookup
      split at lookup
      · cases lookup
        exact .inl (isFresh_of_compileWithin compiled)
      · rename_i apart
        exact remains compiled other found' lookup apart
  · rename_i error after compiled
    have distinct := names_compileWithin compiled ▸ underway.distinct
    have belong := allBelong_compileWithin compiled underway.belong
    refine ⟨Table.nodup_names_remove key distinct, ?_, ?_⟩
    · intro other found' lookup
      rw [Table.lookup_remove] at lookup
      split at lookup
      · cases lookup
      · exact belong other found' lookup
    · intro other found' lookup
      rw [Table.lookup_remove] at lookup
      split at lookup
      · cases lookup
      · rename_i apart
        exact remains compiled other found' lookup apart

theorem Underway.skip {keys : List String} (underway : site.Underway (key :: keys) cache)
    (current : ∀ schema, Table.lookup cache key = some schema → site.IsFresh schema) :
    site.Underway keys cache where
  distinct := underway.distinct
  belong := underway.belong
  fresh := by
    intro other schema found
    rcases underway.fresh other schema found with fresh | pending
    · exact .inl fresh
    · rcases List.mem_cons.mp pending with same | later
      · rw [same] at found
        exact .inl (current schema found)
      · exact .inr later

/-- A walk over all keys that hold an out-of-date schema leaves none. -/
theorem Underway.renewStale {keys : List String} {count : Nat}
    (underway : site.Underway keys cache) : site.Sound (site.renewStale cache count keys).2 := by
  induction keys generalizing cache count with
  | nil =>
      refine ⟨underway.distinct, underway.belong, ?_⟩
      intro key schema found
      exact (underway.fresh key schema found).resolve_right List.not_mem_nil
  | cons key keys ih =>
      unfold Site.renewStale
      cases found : Table.lookup cache key with
      | none =>
          apply ih
          apply underway.skip
          intro schema present
          rw [found] at present
          cases present
      | some schema =>
          dsimp only
          split
          · rename_i fresh
            apply ih
            apply underway.skip
            intro other present
            rw [found] at present
            cases present
            exact fresh
          · have renewed := underway.renew found
            split
            all_goals
              rename_i after done
              rw [done] at renewed
              exact ih renewed

/-- Where nothing is out of date, a walk does nothing. -/
theorem Sound.renewStale {keys : List String} {count : Nat} (sound : site.Sound cache) :
    site.renewStale cache count keys = (count, cache) := by
  induction keys with
  | nil => rfl
  | cons key keys ih =>
      unfold Site.renewStale
      cases found : Table.lookup cache key with
      | none => exact ih
      | some schema =>
          have fresh : schema.header.environmentRevision = site.revision :=
            sound.fresh key schema found
          dsimp only
          rw [if_pos fresh]
          exact ih

end Site

/-- The revision of what is compiled, in the place of what is cached. -/
def Material.revisionOver (cached : Option Schema) : Material → Nat
  | .document _ => cached.elim 0 fun old => old.revision + 1
  | .schema compiled => compiled.revision

namespace Environment

variable {environment : Environment} {walk : Walk} {schema : Schema} {source : Source}

/-- An environment whose cache is sound for its settings of now. -/
def Sound (environment : Environment) : Prop := environment.site.Sound environment.cache

theorem Sound.store (sound : environment.Sound)
    (belongs : environment.site.Belongs schema.name schema)
    (fresh : environment.site.IsFresh schema) : (environment.store walk schema).Sound :=
  Site.Sound.refreshWithin (sound.put belongs fresh)

theorem Sound.compile (sound : environment.Sound) :
    (environment.compile walk source).2.Sound := by
  unfold Environment.compile
  split
  · rename_i schema after compiled
    rw [Site.compileWithin_of_allFresh compiled sound.fresh]
    exact sound.store (Site.belongs_of_compileWithin compiled)
      (Site.isFresh_of_compileWithin compiled)
  · rename_i error after compiled
    rw [Site.compileWithin_of_allFresh compiled sound.fresh]
    exact sound

/-- A build finds a schema and changes nothing, or compiles a source. -/
theorem build_cases (environment : Environment) (walk : Walk) (material : Material)
    (name : Option String) (strict : Option Bool) :
    (environment.build walk material name strict).2 = environment ∨
      ∃ source, environment.build walk material name strict = environment.compile walk source ∧
        source.revision = material.revisionOver
          (environment.get (source.name.getD (source.document.digest environment.name))) := by
  unfold Environment.build
  split
  · exact .inl rfl
  · cases material with
    | schema schema =>
        dsimp only
        split
        · split
          · split
            · exact .inl rfl
            · exact .inl rfl
          · exact .inl rfl
        · exact .inr ⟨_, rfl, rfl⟩
    | document document =>
        dsimp only
        split
        · rename_i cached found
          split
          · exact .inl rfl
          · refine .inr ⟨_, rfl, ?_⟩
            dsimp only [Material.revisionOver]
            rw [found]
            rfl
        · rename_i absent
          refine .inr ⟨_, rfl, ?_⟩
          dsimp only [Material.revisionOver]
          rw [absent]
          rfl

theorem Sound.build {material : Material} {name : Option String} {strict : Option Bool}
    (sound : environment.Sound) : (environment.build walk material name strict).2.Sound := by
  rcases build_cases environment walk material name strict with same | ⟨source, same, _⟩
  · rw [same]
    exact sound
  · rw [same]
    exact sound.compile

theorem Sound.dropSuperseded (sound : environment.Sound) :
    (environment.dropSuperseded schema).Sound := by
  unfold Environment.dropSuperseded
  split
  · exact Site.Sound.remove sound schema.name
  · exact sound

theorem site_dropSuperseded : (environment.dropSuperseded schema).site = environment.site := by
  unfold Environment.dropSuperseded
  split
  · rfl
  · rfl

theorem Sound.revise {document : Value} (sound : environment.Sound) :
    (environment.revise walk schema document).2.Sound := by
  unfold Environment.revise
  dsimp only
  split
  · rename_i revised after compiled
    have same := Site.compileWithin_of_allFresh compiled sound.fresh
    subst same
    apply Sound.store sound.dropSuperseded
    · rw [site_dropSuperseded]
      exact Site.belongs_of_compileWithin compiled
    · rw [site_dropSuperseded]
      exact Site.isFresh_of_compileWithin compiled
  · rename_i error after compiled
    have same := Site.compileWithin_of_allFresh compiled sound.fresh
    subst same
    exact sound

/-- Only an accepted change of settings makes a difference to what is read when a schema is compiled. -/
theorem site_perform (environment : Environment) (walk : Walk) (operation : Operation) :
    (environment.perform walk operation).site = environment.site ∨
      ∃ change, operation = .change change ∧ (environment.change walk change).1 = .ok () := by
  have compile : ∀ source, (environment.compile walk source).2.site = environment.site := by
    intro source
    unfold Environment.compile
    split
    · rfl
    · rfl
  cases operation with
  | build material name strict =>
      refine .inl ?_
      change (environment.build walk material name strict).2.site = environment.site
      rcases build_cases environment walk material name strict with same | ⟨source, same, _⟩
      · rw [same]
      · rw [same]
        exact compile source
  | revise schema document =>
      refine .inl ?_
      change (environment.revise walk schema document).2.site = environment.site
      unfold Environment.revise
      dsimp only
      split
      · exact site_dropSuperseded
      · rfl
  | remove name => exact .inl rfl
  | recompile => exact .inl rfl
  | change change =>
      cases changed : environment.settings.change change with
      | error error =>
          refine .inl ?_
          dsimp only [Environment.perform, Environment.change]
          rw [changed]
      | ok settings =>
          refine .inr ⟨change, rfl, ?_⟩
          unfold Environment.change
          rw [changed]

/-- A walk over all names, in whatever order, leaves nothing out of date. -/
theorem sound_recompile (distinct : (Table.names environment.cache).Nodup)
    (belong : environment.site.AllBelong environment.cache) :
    (environment.recompile walk).2.Sound := by
  apply Site.Underway.renewStale
  refine ⟨distinct, belong, ?_⟩
  intro key schema found
  exact .inr ((walk.perm _).mem_iff.mpr (List.mem_map_of_mem (Table.mem_of_lookup found)))

/-- After a change of settings every cached schema is out of date. -/
theorem Sound.not_isFresh_changed (sound : environment.Sound) (settings : Settings) {key : String}
    (found : environment.get key = some schema) :
    ¬ Site.IsFresh (Environment.site { environment with
      settings := settings, revision := environment.revision + 1 }) schema := by
  intro fresh
  have before : schema.header.environmentRevision = environment.revision :=
    sound.fresh key schema found
  have now : schema.header.environmentRevision = environment.revision + 1 := fresh
  omega

theorem Sound.change {change : Change} (sound : environment.Sound) :
    (environment.change walk change).2.Sound := by
  unfold Environment.change
  split
  · exact sound
  · refine sound_recompile ?_ ?_
    · exact sound.distinct
    intro key schema found
    have belongs := sound.belong key schema found
    exact ⟨belongs.name, belongs.digest, belongs.environment, fun fresh =>
      absurd fresh (sound.not_isFresh_changed _ found)⟩

theorem Sound.perform {operation : Operation} (sound : environment.Sound) :
    (environment.perform walk operation).Sound := by
  cases operation with
  | build material name strict => exact sound.build
  | revise schema document => exact sound.revise
  | remove name => exact Site.Sound.remove sound name
  | recompile => exact sound_recompile sound.distinct sound.belong
  | change change => exact sound.change

theorem Reachable.sound (reached : Reachable environment) : environment.Sound := by
  induction reached with
  | initial identity name constraints types config =>
      refine ⟨List.nodup_nil, ?_, ?_⟩
      · intro key schema found
        cases found
      · intro key schema found
        cases found
  | perform walk operation reached ih => exact ih.perform

/-- In every state, every cached schema stands under its own name, which is the digest of its
document unless it was given one; it belongs to the environment and is as recent as the environment.
So there is nothing left to compile again. -/
theorem fresh_of_reachable (reached : Reachable environment) :
    (∀ key schema, (key, schema) ∈ environment.cache →
      schema.name = key ∧
      (schema.named = false → schema.name = schema.document.digest environment.name) ∧
      schema.header.environment = environment.identity ∧
      schema.header.environmentRevision = environment.revision) ∧
    ∀ walk, environment.recompile walk = (0, environment) := by
  have sound := reached.sound
  constructor
  · intro key schema member
    have found := Table.lookup_of_mem sound.distinct member
    have belongs := sound.belong key schema found
    exact ⟨belongs.name, belongs.digest, belongs.environment, sound.fresh key schema found⟩
  · intro walk
    unfold Environment.recompile
    rw [Site.Sound.renewStale sound]

/-- An environment with a schema that refers to another, after a change of settings. -/
def relaxed : Environment :=
  (((native 0).perform .listed
    (.build (.document (.object [("type", .string "int")])) (some "count") none)).perform .listed
    (.build (.document (.object [("items", .string "count")])) (some "counts") none)).perform
    .listed (.change (.strict false))

theorem reachable_relaxed : Reachable relaxed :=
  .perform _ _ (.perform _ _ (.perform _ _ (.initial 0 "native" _ _ _)))

theorem fresh_relaxed :
    Table.names relaxed.cache = ["count", "counts"] ∧ relaxed.revision = 1 ∧
      ∀ walk, relaxed.recompile walk = (0, relaxed) := by
  have state : Table.names relaxed.cache = ["count", "counts"] ∧ relaxed.revision = 1 := by
    decide +kernel
  exact ⟨state.1, state.2, (fresh_of_reachable reachable_relaxed).2⟩

end Environment

end Conformance
