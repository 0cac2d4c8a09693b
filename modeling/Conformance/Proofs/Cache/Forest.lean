import Conformance.Proofs.Cache.Refresh
/-!
Caches whose references form a forest. A refresh visits every name once, so that a schema may be
compiled before one of its references is. This does no harm where at most one route leads from one
name to another: then a schema is reached from the refreshed name through one reference only. In a
history that keeps to forests the cache is coherent throughout (`Environment.settled_of_forest`).
-/

namespace Conformance

/-- Whether one cached schema refers to another. -/
def Edge (cache : Cache) (name other : String) : Prop :=
  ∃ schema, Table.lookup cache name = some schema ∧ other ∈ schema.references ∧
    Site.IsCached cache other

/-- The routes from one cached schema to another, as the names after the first. -/
inductive Route (cache : Cache) : String → String → List String → Prop where
  | last {name other : String} (edge : Edge cache name other) : Route cache name other [other]
  | step {name next other : String} {path : List String} (edge : Edge cache name next)
      (rest : Route cache next other path) : Route cache name other (next :: path)

/-- A cache without cycles in which at most one route leads from one name to another. -/
structure IsForest (cache : Cache) : Prop where
  acyclic : ∀ name path, ¬ Route cache name name path
  unique : ∀ {name other path path'}, Route cache name other path → Route cache name other path' →
    path = path'

/-- There are no longer routes where no schema with references is referred to. -/
theorem isForest_of_flat {cache : Cache}
    (flat : ∀ name other next, Edge cache name other → ¬ Edge cache other next) :
    IsForest cache := by
  have single : ∀ {name other path}, Route cache name other path →
      Edge cache name other ∧ path = [other] := by
    intro name other path route
    cases route with
    | last edge => exact ⟨edge, rfl⟩
    | step edge rest =>
        cases rest with
        | last edge' => exact absurd edge' (flat _ _ _ edge)
        | step edge' _ => exact absurd edge' (flat _ _ _ edge)
  constructor
  · intro name path route
    exact flat name name name (single route).1 (single route).1
  · intro name other path path' route route'
    exact (single route).2.trans (single route').2.symm

namespace Site

variable {site : Site} {before start cache : Cache} {origin key : String} {schema : Schema}
  {visited : List String}

/-- A visited name that is still cached was found through a reference from which a route leads to the
refreshed name. -/
theorem Trail.route (trail : Trail site start cache origin visited) (member : key ∈ visited)
    (found : Table.lookup cache key = some schema) (cachedOrigin : IsCached cache origin) :
    key = origin ∨ ∃ older finder path, (∀ name ∈ older, name ∈ visited) ∧
      site.Traced start cache older schema finder ∧ Route cache key origin (finder :: path) := by
  induction trail generalizing key schema with
  | origin => exact .inl (List.mem_singleton.mp member)
  | @visit newest older earlier traced ih =>
      rcases List.mem_cons.mp member with rfl | member
      · obtain ⟨finder, trace⟩ := traced schema found
        have ⟨seen, refers, ⟨finderSchema, foundFinder⟩, _⟩ := trace
        have edge : Edge cache key finder := ⟨schema, found, refers, finderSchema, foundFinder⟩
        rcases ih seen foundFinder with rfl | ⟨_, _, path, _, _, route⟩
        · exact .inr ⟨older, finder, [], fun _ => List.mem_cons_of_mem _, trace, .last edge⟩
        · exact .inr ⟨older, finder, _, fun _ => List.mem_cons_of_mem _, trace, .step edge route⟩
      · rcases ih member found with same | ⟨first, finder, path, included, trace, route⟩
        · exact .inl same
        · exact .inr ⟨first, finder, path,
            fun name inside => List.mem_cons_of_mem _ (included name inside), trace, route⟩

/-- From a schema that refers to a visited name, a route leads there and on to the refreshed name. -/
theorem Trail.route_of_edge {name : String} (trail : Trail site start cache origin visited)
    (cachedOrigin : IsCached cache origin) (edge : Edge cache key name) (member : name ∈ visited) :
    ∃ path, Route cache key origin (name :: path) := by
  have ⟨_, _, _, present, found⟩ := edge
  rcases trail.route member found cachedOrigin with same | ⟨_, finder, path, _, _, route⟩
  · rw [← same]
    exact ⟨[], .last edge⟩
  · exact ⟨finder :: path, .step edge route⟩

/-- Storing a schema and refreshing its dependents keeps a cache coherent, if it ends in a forest. The
schema may have been compiled in another cache, if that holds whatever is cached. -/
theorem Coherent.refresh {past : Cache} (walk : Walk) (coherent : site.Coherent before)
    (sound : site.Sound (Table.put before origin schema)) (settled : site.Settled past schema)
    (held : ∀ name found, Table.lookup before name = some found →
      Table.lookup past name = some found)
    (forest : IsForest (site.refresh walk origin (Table.put before origin schema))) :
    site.Coherent (site.refresh walk origin (Table.put before origin schema)) := by
  obtain ⟨visited, progress⟩ :=
    exists_progress_refresh walk sound (Table.lookup_put_self before origin schema)
  generalize site.refresh walk origin (Table.put before origin schema) = final at forest progress ⊢
  have trail := progress.trail
  have foundOrigin : Table.lookup final origin = some schema := by
    rw [progress.kept, Table.lookup_put_self]
  have cachedOrigin : IsCached final origin := ⟨schema, foundOrigin⟩
  have unvisited : ∀ name, name ∉ visited →
      Table.lookup final name = Table.lookup before name := by
    intro name absent
    rw [progress.untouched name absent]
    apply Table.lookup_put_of_ne
    intro same
    exact absent (same ▸ trail.origin_mem)
  intro key found lookup fresh references
  have edge : ∀ name ∈ found.references, Edge final key name :=
    fun name member => ⟨found, lookup, member, references name member⟩
  by_cases member : key ∈ visited
  · rcases trail.route member lookup cachedOrigin with same | ⟨older, finder, path, included, trace,
      route⟩
    case inl =>
      -- The stored schema: none of its references was visited, since none leads back to it.
      rw [same, foundOrigin] at lookup
      cases lookup
      apply settled.congr
      intro name refers
      have absent : name ∉ visited := by
        intro inside
        obtain ⟨path, route⟩ := trail.route_of_edge cachedOrigin (edge name refers) inside
        rw [same] at route
        exact forest.acyclic _ _ route
      obtain ⟨other, present⟩ := references name refers
      rw [present, held name other ((unvisited name absent).symm.trans present)]
    case inr =>
      -- A visited schema: of its references, only the one that it was found through was visited.
      obtain ⟨_, _, _, past, settled, sameFinder, rest⟩ := trace
      apply settled.congr
      intro name refers
      by_cases inside : name ∈ visited
      · obtain ⟨path', route'⟩ := trail.route_of_edge cachedOrigin (edge name refers) inside
        have same := forest.unique route route'
        rw [List.cons.injEq] at same
        rw [← same.1, sameFinder]
      · rw [rest name fun old => inside (included name old), progress.untouched name inside]
  · -- A schema that was not visited: neither were its references.
    have absent : ∀ name ∈ found.references, name ∉ visited := by
      intro name refers inside
      rcases progress.closed key found name lookup refers inside with waiting | visitedKey
      · exact absurd waiting List.not_mem_nil
      · exact member visitedKey
    have agree : AgreeOn found.references before final :=
      fun name refers => unvisited name (absent name refers)
    rw [unvisited key member] at lookup
    apply Settled.congr _ agree
    apply coherent key found lookup fresh
    intro name refers
    obtain ⟨other, present⟩ := references name refers
    exact ⟨other, (agree name refers).symm.trans present⟩

end Site

namespace Environment

variable {environment : Environment} {walk : Walk} {schema : Schema} {source : Source}

theorem Coherent.store {past : Cache} (coherent : environment.Coherent) (sound : environment.Sound)
    (belongs : environment.site.Belongs schema.name schema)
    (settled : environment.site.Settled past schema)
    (held : ∀ name found, environment.get name = some found → Table.lookup past name = some found)
    (forest : IsForest (environment.store walk schema).cache) :
    (environment.store walk schema).Coherent :=
  Site.Coherent.refresh walk coherent
    (Site.Sound.put sound belongs (Site.isFresh_of_compileWithin settled)) settled held forest

theorem Coherent.compile (coherent : environment.Coherent) (sound : environment.Sound)
    (forest : IsForest (environment.compile walk source).2.cache) :
    (environment.compile walk source).2.Coherent := by
  unfold Environment.compile at forest ⊢
  split at forest
  · rename_i schema after compiled
    have same := Site.compileWithin_of_allFresh compiled sound.fresh
    subst same
    exact coherent.store sound (Site.belongs_of_compileWithin compiled)
      (Site.settled_of_compileWithin (Nat.le_refl _) compiled) (fun _ _ => id) forest
  · rename_i error after compiled
    have same := Site.compileWithin_of_allFresh compiled sound.fresh
    subst same
    exact coherent

theorem Coherent.build {material : Material} {name : Option String} {strict : Option Bool}
    (coherent : environment.Coherent) (sound : environment.Sound)
    (forest : IsForest (environment.build walk material name strict).2.cache) :
    (environment.build walk material name strict).2.Coherent := by
  rcases build_cases environment walk material name strict with same | ⟨source, same, _⟩
  · rw [same]
    exact coherent
  · rw [same] at forest ⊢
    exact coherent.compile sound forest

theorem Coherent.dropSuperseded (coherent : environment.Coherent) :
    (environment.dropSuperseded schema).Coherent := by
  unfold Environment.dropSuperseded
  split
  · exact Site.Coherent.remove coherent schema.name
  · exact coherent

theorem lookup_dropSuperseded {name : String} {found : Schema}
    (lookup : Table.lookup (environment.dropSuperseded schema).cache name = some found) :
    Table.lookup environment.cache name = some found := by
  unfold Environment.dropSuperseded at lookup
  split at lookup
  · rw [Table.lookup_remove] at lookup
    split at lookup
    · cases lookup
    · exact lookup
  · exact lookup

theorem Coherent.revise {document : Value} (coherent : environment.Coherent)
    (sound : environment.Sound)
    (forest : IsForest (environment.revise walk schema document).2.cache) :
    (environment.revise walk schema document).2.Coherent := by
  unfold Environment.revise at forest ⊢
  dsimp only at forest ⊢
  split at forest
  · rename_i revised after compiled
    have same := Site.compileWithin_of_allFresh compiled sound.fresh
    subst same
    apply Coherent.store coherent.dropSuperseded sound.dropSuperseded _ _ _ forest
    · exact environment.cache
    · rw [site_dropSuperseded]
      exact Site.belongs_of_compileWithin compiled
    · rw [site_dropSuperseded]
      exact Site.settled_of_compileWithin (Nat.le_refl _) compiled
    · exact fun _ _ => lookup_dropSuperseded
  · rename_i error after compiled
    have same := Site.compileWithin_of_allFresh compiled sound.fresh
    subst same
    exact coherent

/-- The environments that a history leads to in which the cache is a forest after every step. -/
inductive ForestReachable : Environment → Prop where
  | initial (identity : Nat) (name : String) (constraints : Registry) (types : TypeTable)
      (config : Config) : ForestReachable (ofTables identity name constraints types config)
  | perform {environment : Environment} (walk : Walk) (operation : Operation)
      (reached : ForestReachable environment)
      (forest : IsForest (environment.perform walk operation).cache) :
      ForestReachable (environment.perform walk operation)

theorem ForestReachable.reachable (reached : ForestReachable environment) :
    Reachable environment := by
  induction reached with
  | initial identity name constraints types config => exact .initial _ _ _ _ _
  | perform walk operation reached forest ih => exact .perform walk operation ih

theorem Coherent.perform {operation : Operation} (coherent : environment.Coherent)
    (sound : environment.Sound) (forest : IsForest (environment.perform walk operation).cache) :
    (environment.perform walk operation).Coherent := by
  cases operation with
  | build material name strict => exact coherent.build sound forest
  | revise schema document => exact coherent.revise sound forest
  | remove name => exact Site.Coherent.remove coherent name
  | recompile => exact coherent.recompile
  | change change => exact coherent_change sound coherent

theorem ForestReachable.coherent (reached : ForestReachable environment) :
    environment.Coherent := by
  induction reached with
  | initial identity name constraints types config =>
      intro key schema found
      cases found
  | perform walk operation reached forest ih => exact ih.perform reached.reachable.sound forest

/-- In a history of forests, every cached schema whose references are cached is the very schema that
its document compiles to, with the settings and the cache of now. -/
theorem settled_of_forest (reached : ForestReachable environment) :
    ∀ key schema, (key, schema) ∈ environment.cache →
      (∀ name ∈ schema.references, (environment.get name).isSome) →
      (environment.site.compile schema.source).outcome environment.cache =
        (.ok schema, environment.cache) := by
  intro key schema member references
  have sound := reached.reachable.sound
  have found := Table.lookup_of_mem sound.distinct member
  apply reached.coherent key schema found (sound.fresh key schema found)
  intro name refers
  exact Option.isSome_iff_exists.mp (references name refers)

/-- Whether no schema with references is referred to. -/
def isFlat (cache : Cache) : Bool :=
  cache.all fun entry => entry.2.references.all fun name =>
    ((Table.lookup cache name).map Schema.references).all List.isEmpty

theorem isForest_of_isFlat {cache : Cache} (flat : isFlat cache = true) : IsForest cache := by
  apply isForest_of_flat
  rintro name other next ⟨schema, found, refers, _⟩ ⟨target, foundTarget, refersTarget, _⟩
  have here := List.all_eq_true.mp (List.all_eq_true.mp flat _ (Table.mem_of_lookup found)) _ refers
  rw [foundTarget] at here
  rw [List.isEmpty_iff.mp here] at refersTarget
  cases refersTarget

theorem forestReachable_relaxed : ForestReachable relaxed :=
  .perform _ _ (.perform _ _ (.perform _ _ (.initial 0 "native" _ _ _)
    (isForest_of_isFlat (by decide +kernel))) (isForest_of_isFlat (by decide +kernel)))
    (isForest_of_isFlat (by decide +kernel))

/-- The schema that refers to another is compiled again after the change of settings, and is what
its document compiles to. -/
theorem settled_relaxed :
    ∃ schema, relaxed.get "counts" = some schema ∧ schema.references = ["count"] ∧
      (relaxed.site.compile schema.source).outcome relaxed.cache = (.ok schema, relaxed.cache) := by
  have cached : (relaxed.get "counts").map Schema.references = some ["count"] ∧
      (relaxed.get "count").isSome := by decide +kernel
  obtain ⟨schema, found, references⟩ := Option.map_eq_some_iff.mp cached.1
  refine ⟨schema, found, references, settled_of_forest forestReachable_relaxed "counts" schema
    (Table.mem_of_lookup found) ?_⟩
  intro name refers
  rw [references, List.mem_singleton] at refers
  rw [refers]
  exact cached.2

end Environment

end Conformance
