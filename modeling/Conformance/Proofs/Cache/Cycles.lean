import Conformance.Proofs.Cache.Lineage
import Mathlib.Logic.Relation
/-!
Cycles among the references of cached schemas. A schema refers to names that are cached when it is compiled,
and its own name may be one of them, if it takes the place of another schema. An operation closes a
cycle in no other way (`Environment.acyclic_of_loopless`), and a change of settings leaves none: it
puts every schema after those that it refers to, and drops the schemas of a cycle.
-/

namespace Conformance

/-- Whether no cached schema refers to itself, directly or through others. -/
def Acyclic (cache : Cache) : Prop := ∀ name, ¬ Relation.TransGen (Edge cache) name name

instance (cache : Cache) (name other : String) : Decidable (Edge cache name other) :=
  decidable_of_iff ((Table.lookup cache name).any (fun schema => decide (other ∈ schema.references)) ∧
    Table.has cache other) <| by
      simp only [Option.any_eq_true, decide_eq_true_eq, Table.has, Option.isSome_iff_exists, Edge,
        Site.IsCached]
      exact ⟨fun ⟨⟨schema, found, refers⟩, cached⟩ => ⟨schema, found, refers, cached⟩,
        fun ⟨schema, found, refers, cached⟩ => ⟨⟨schema, found, refers⟩, cached⟩⟩

/-- A cycle that only the edges at a point set apart from another relation goes through that point. -/
theorem exists_cycle_of_apart {α : Type} {related other : α → α → Prop} {point first last : α}
    (apart : ∀ first last, related first last → first ≠ point → last ≠ point → other first last)
    (path : Relation.TransGen related first last) :
    Relation.TransGen other first last ∨
      Relation.ReflTransGen related first point ∧ Relation.ReflTransGen related point last := by
  have step : ∀ {first last}, related first last →
      other first last ∨
        Relation.ReflTransGen related first point ∧ Relation.ReflTransGen related point last := by
    intro first last edge
    by_cases same : first = point
    · exact .inr ⟨same ▸ .refl, same ▸ .single edge⟩
    · by_cases same' : last = point
      · exact .inr ⟨same' ▸ .single edge, same' ▸ .refl⟩
      · exact .inl (apart first last edge same same')
  induction path with
  | single edge => exact (step edge).imp_left .single
  | tail early edge ih =>
      rcases ih with path | ⟨early, late⟩
      · rcases step edge with edge' | ⟨toPoint, fromPoint⟩
        · exact .inl (path.tail edge')
        · exact .inr ⟨early.to_reflTransGen.trans toPoint, fromPoint⟩
      · exact .inr ⟨early, late.tail edge⟩

namespace Site

variable {site : Site} {cache after : Cache} {key : String} {schema fresh : Schema} {source : Source}

/-- The names of fresh schemas from which every chain of references leads through fresh schemas and
comes to an end. -/
inductive Grounded (site : Site) (cache : Cache) : String → Prop where
  | of_references {key : String} {schema : Schema} (found : Table.lookup cache key = some schema)
      (fresh : site.IsFresh schema)
      (references : ∀ name ∈ schema.references, IsCached cache name → Grounded site cache name) :
      Grounded site cache key

/-- Whether the names of all fresh schemas are grounded. -/
def IsGrounded (site : Site) (cache : Cache) : Prop :=
  ∀ key schema, Table.lookup cache key = some schema → site.IsFresh schema → site.Grounded cache key

theorem Grounded.not_cycle (grounded : site.Grounded cache key) :
    ¬ Relation.TransGen (Edge cache) key key := by
  induction grounded with
  | @of_references key schema found fresh references ih =>
      intro cycle
      obtain ⟨next, ⟨_, found', refers, cached⟩, rest⟩ := Relation.TransGen.head'_iff.mp cycle
      rw [found] at found'
      cases found'
      exact ih next refers cached (Relation.TransGen.tail' rest ⟨schema, found, refers, cached⟩)

/-- A schema that takes the place of one out of date changes no grounded name: no chain from there comes
by that place. -/
theorem Grounded.put {name : String} (grounded : site.Grounded cache name)
    (stale : ∀ present, Table.lookup cache key = some present → ¬ site.IsFresh present)
    (cached : IsCached cache key) : site.Grounded (Table.put cache key schema) name := by
  induction grounded with
  | @of_references name found lookup fresh references ih =>
      have apart : name ≠ key := by
        rintro rfl
        exact stale found lookup fresh
      refine .of_references ((Table.lookup_put_of_ne cache schema apart).trans lookup) fresh ?_
      rintro other refers ⟨present, foundOther⟩
      apply ih other refers
      rw [Table.lookup_put] at foundOther
      split at foundOther
      · rename_i here
        exact here ▸ cached
      · exact ⟨present, foundOther⟩

theorem Grounded.remove {name : String} (grounded : site.Grounded cache name) (apart : name ≠ key) :
    site.Grounded (Table.remove cache key) name := by
  induction grounded with
  | @of_references name found lookup fresh references ih =>
      refine .of_references ((Table.lookup_remove_of_ne cache apart).trans lookup) fresh ?_
      rintro other refers ⟨present, foundOther⟩
      rw [Table.lookup_remove] at foundOther
      split at foundOther
      · cases foundOther
      · rename_i apartOther
        exact ih other refers ⟨present, foundOther⟩ apartOther

theorem IsGrounded.remove (grounded : site.IsGrounded cache) (key : String) :
    site.IsGrounded (Table.remove cache key) := by
  intro other present found isFresh
  rw [Table.lookup_remove] at found
  split at found
  · cases found
  · rename_i apart
    exact (grounded other present found isFresh).remove apart

/-- A settled schema refers to fresh ones, so it may take the place of one out of date. -/
theorem IsGrounded.put (grounded : site.IsGrounded cache) (settled : site.Settled cache fresh)
    (isFresh : site.IsFresh fresh) (cached : IsCached cache key)
    (same : ∀ present, Table.lookup cache key = some present → site.IsFresh present →
      present = fresh) : site.IsGrounded (Table.put cache key fresh) := by
  obtain ⟨present, found⟩ := cached
  by_cases current : site.IsFresh present
  · cases same present found current
    rwa [Table.put_of_lookup found]
  · have stale : ∀ other, Table.lookup cache key = some other → ¬ site.IsFresh other := by
      intro other foundOther
      rw [found] at foundOther
      cases foundOther
      exact current
    intro name schema lookup schemaFresh
    rw [Table.lookup_put] at lookup
    split at lookup
    · rename_i here
      cases lookup
      rw [here]
      refine .of_references (Table.lookup_put_self cache key fresh) isFresh ?_
      intro other refers _
      obtain ⟨target, foundTarget, targetFresh⟩ := settled.hasFresh other refers
      exact (grounded other target foundTarget targetFresh).put stale ⟨present, found⟩
    · exact (grounded name schema lookup schemaFresh).put stale ⟨present, found⟩

/-- A schema that was compiled again takes the place of the one out of date. -/
theorem IsGrounded.put_compiled {levels : Nat} {cached : Schema} (grounded : site.IsGrounded after)
    (renewal : site.Renewal cache after) (within : levels ≤ site.settings.config.maxDepth + 1)
    (found : Table.lookup cache key = some cached) (stale : ¬ site.IsFresh cached)
    (compiled : (site.compileWithin levels cached.source).outcome cache = (.ok fresh, after)) :
    site.IsGrounded (Table.put after key fresh) := by
  apply grounded.put (settled_of_compileWithin within compiled) (isFresh_of_compileWithin compiled)
  · have member : key ∈ Table.names after := by
      rw [names_compileWithin compiled]
      exact List.mem_map_of_mem (Table.mem_of_lookup found)
    exact Option.isSome_iff_exists.mp ((Table.has_iff_mem_names after key).mpr member)
  · exact fun present lookup isFresh =>
      renewal.eq_of_isFresh within found stale compiled lookup isFresh

theorem IsGrounded.compile {result : Except CompileError Schema} (grounded : site.IsGrounded cache)
    (compiled : (site.compile source).outcome cache = (result, after)) : site.IsGrounded after := by
  have kept := compileWithin_related site
    (fun cache after => site.Renewal cache after ∧ (site.IsGrounded cache → site.IsGrounded after))
    (site.settings.config.maxDepth + 1) (fun cache => ⟨.refl site cache, id⟩)
    (fun early late => ⟨early.1.trans late.1, fun grounded => late.2 (early.2 grounded)⟩)
    (fun below found stale compiled kept =>
      have within := Nat.le_of_lt below
      ⟨kept.1.put within found stale compiled, fun grounded =>
        (kept.2 grounded).put_compiled kept.1 within found stale compiled⟩)
    (Nat.le_refl _) source cache
  unfold Site.compile at compiled
  rw [compiled] at kept
  exact kept.2 grounded

theorem IsGrounded.renew (grounded : site.IsGrounded cache)
    (found : Table.lookup cache key = some schema) (stale : ¬ site.IsFresh schema) :
    site.IsGrounded (site.renew key schema cache).2 := by
  unfold Site.renew
  split
  · rename_i fresh after compiled
    exact (grounded.compile compiled).put_compiled (renewal_compile compiled) (Nat.le_refl _) found
      stale compiled
  · rename_i error after compiled
    exact (grounded.compile compiled).remove key

theorem IsGrounded.renewStale {keys : List String} {count : Nat} (grounded : site.IsGrounded cache) :
    site.IsGrounded (site.renewStale cache count keys).2 :=
  renewStale_keeps site.IsGrounded (fun found stale grounded => grounded.renew found stale) grounded

theorem IsGrounded.acyclic (grounded : site.IsGrounded cache) (allFresh : site.AllFresh cache) :
    Acyclic cache := by
  intro name cycle
  obtain ⟨_, ⟨schema, found, _⟩, _⟩ := Relation.TransGen.head'_iff.mp cycle
  exact (grounded name schema found (allFresh name schema found)).not_cycle cycle

/-- Schemas made from the same source by the same settings refer to the same names. -/
theorem Sound.references_eq {key' : String} {old : Schema} (sound : site.Sound cache)
    (sound' : site.Sound after) (found : Table.lookup cache key = some old)
    (found' : Table.lookup after key' = some schema) (same : schema.source = old.source) :
    schema.references = old.references := by
  obtain ⟨_, _, _, compiled⟩ := (sound.belong key old found).made (sound.fresh key old found)
  obtain ⟨_, _, _, compiled'⟩ :=
    (sound'.belong key' schema found').made (sound'.fresh key' schema found')
  rw [same] at compiled'
  exact Site.references_eq compiled' compiled

end Site

namespace Environment

variable {environment after : Environment} {walk : Walk} {schema : Schema} {name other : String}

/-- After an accepted change of settings no schema refers back to itself, whatever there was before: all
schemas are out of date at first, so that none is grounded and none has to be. -/
theorem Sound.acyclic_change {change : Change} (sound : environment.Sound)
    (accepted : (environment.change walk change).1 = .ok ()) :
    Acyclic (environment.change walk change).2.cache := by
  have sound' : (environment.change walk change).2.Sound := sound.change
  unfold Environment.change at accepted sound' ⊢
  split at accepted
  · cases accepted
  · rename_i settings changed
    rw [changed] at sound'
    refine Site.IsGrounded.acyclic (Site.IsGrounded.renewStale ?_) sound'.fresh
    intro key schema found fresh
    exact absurd fresh (sound.not_isFresh_changed settings found)

/-- A reference of a schema whose source was cached before was there before, if its target was. -/
theorem Sound.edge_of_edge (sound : environment.Sound) (sound' : after.Sound)
    (same : after.site = environment.site) {start : Cache} (descends : Descends start after.cache)
    (held : ∀ key old, key = name ∨ key = other → Table.lookup start key = some old →
      environment.get key = some old)
    (edge : Edge after.cache name other) : Edge environment.cache name other := by
  obtain ⟨schema, found, refers, target, foundTarget⟩ := edge
  obtain ⟨old, foundOld, source⟩ := descends name schema found
  obtain ⟨oldTarget, foundOldTarget, _⟩ := descends other target foundTarget
  have before : Table.lookup environment.cache name = some old := held name old (.inl rfl) foundOld
  have references : schema.references = old.references :=
    Site.Sound.references_eq sound (same ▸ sound') before found source
  exact ⟨old, before, references ▸ refers, oldTarget, held other oldTarget (.inr rfl) foundOldTarget⟩

/-- Whether the schema that an operation gives leads back to itself in the cache afterwards. -/
def ClosesLoop (environment : Environment) (walk : Walk) (operation : Operation) : Prop :=
  ∃ schema, environment.given walk operation = some schema ∧
    Relation.TransGen (Edge (environment.perform walk operation).cache) schema.name schema.name

theorem Sound.acyclic_iff (sound : environment.Sound) (acyclic : Acyclic environment.cache)
    (walk : Walk) (operation : Operation) :
    Acyclic (environment.perform walk operation).cache ↔
      ¬ environment.ClosesLoop walk operation := by
  constructor
  · rintro acyclic' ⟨schema, _, cycle⟩
    exact acyclic' schema.name cycle
  · intro loopless name cycle
    have sound' : (environment.perform walk operation).Sound := sound.perform
    rcases site_perform environment walk operation with same | ⟨change, rfl, accepted⟩
    · rcases sound.descends_or_stores walk operation with descends | ⟨schema, given, stores, _⟩
      · refine acyclic name (Relation.TransGen.mono (fun first last edge => ?_) _ _ cycle)
        exact sound.edge_of_edge sound' same descends (fun _ _ _ found => found) edge
      · -- All edges but those at the stored schema were there before, so a new cycle passes there.
        have apart : ∀ first last, Edge (environment.perform walk operation).cache first last →
            first ≠ schema.name → last ≠ schema.name → Edge environment.cache first last := by
          intro first last edge notFirst notLast
          refine sound.edge_of_edge sound' same stores.descends ?_ edge
          rintro key old (rfl | rfl) found
          · rwa [Table.lookup_put_of_ne _ _ notFirst] at found
          · rwa [Table.lookup_put_of_ne _ _ notLast] at found
        rcases exists_cycle_of_apart apart cycle with before | ⟨toSchema, fromSchema⟩
        · exact acyclic name before
        · exact loopless ⟨schema, given,
            Relation.TransGen.trans_left (.trans_right fromSchema cycle) toSchema⟩
    · exact sound.acyclic_change accepted name cycle

/-- The environments that a history leads to in which no operation gives a schema that leads back to
itself, from the beginning or from some change of settings on. -/
inductive LooplessReachable : Environment → Prop where
  | initial (identity : Nat) (name : String) (constraints : Registry) (types : TypeTable)
      (config : Config) : LooplessReachable (ofTables identity name constraints types config)
  | perform {environment : Environment} (walk : Walk) (operation : Operation)
      (reached : LooplessReachable environment) (loopless : ¬ environment.ClosesLoop walk operation) :
      LooplessReachable (environment.perform walk operation)
  | change {environment : Environment} (walk : Walk) (change : Change)
      (reached : Reachable environment)
      (accepted : (environment.change walk change).1 = .ok ()) :
      LooplessReachable (environment.change walk change).2

theorem LooplessReachable.reachable (reached : LooplessReachable environment) :
    Reachable environment := by
  induction reached with
  | initial identity name constraints types config => exact .initial _ _ _ _ _
  | perform walk operation reached loopless ih => exact .perform walk operation ih
  | change walk change reached accepted => exact .perform walk (.change change) reached

theorem LooplessReachable.acyclic (reached : LooplessReachable environment) :
    Acyclic environment.cache := by
  induction reached with
  | initial identity name constraints types config =>
      intro name cycle
      obtain ⟨_, ⟨schema, found, _⟩, _⟩ := Relation.TransGen.head'_iff.mp cycle
      cases found
  | perform walk operation reached loopless ih =>
      exact (reached.reachable.sound.acyclic_iff ih walk operation).mpr loopless
  | change walk change reached accepted => exact reached.sound.acyclic_change accepted

/-- As long as no operation gives a schema that leads back to itself, no cached schema refers to itself,
directly or through others, and the next operation closes a cycle only with the schema that it gives. An
accepted change of settings breaks all cycles. -/
theorem acyclic_of_loopless (reached : LooplessReachable environment) :
    Acyclic environment.cache ∧
    (∀ walk operation, Acyclic (environment.perform walk operation).cache ↔
      ¬ environment.ClosesLoop walk operation) :=
  ⟨reached.acyclic, fun walk operation =>
    reached.reachable.sound.acyclic_iff reached.acyclic walk operation⟩

/-- Puts a schema that asks for lists of numbers in the place of that of the numbers. -/
def crossing : Operation :=
  .build (.document (.object [("items", .string "counts")])) (some "count") none

/-- After the change of settings nothing refers back to itself. The crossing then closes a cycle of
two. -/
theorem acyclic_of_loopless_relaxed :
    Edge relaxed.cache "counts" "count" ∧ Acyclic relaxed.cache ∧
      ¬ Acyclic (relaxed.perform .listed crossing).cache := by
  have reached : LooplessReachable relaxed :=
    .change .listed _ (.perform _ _ (.perform _ _ (.initial 0 "native" _ _ _))) rfl
  obtain ⟨acyclic, next⟩ := acyclic_of_loopless reached
  have states : Edge relaxed.cache "counts" "count" ∧
      (relaxed.given .listed crossing).map Schema.name = some "count" ∧
      Edge (relaxed.perform .listed crossing).cache "count" "counts" ∧
      Edge (relaxed.perform .listed crossing).cache "counts" "count" := by decide +kernel
  obtain ⟨before, given, forth, back⟩ := states
  obtain ⟨schema, given, named⟩ := Option.map_eq_some_iff.mp given
  refine ⟨before, acyclic, fun acyclic' => (next .listed crossing).mp acyclic' ⟨schema, given, ?_⟩⟩
  rw [named]
  exact .tail (.single forth) back

/-- A bound, and in its place a schema that refers to the name that it takes. -/
def looped : Environment :=
  ((native 0).perform .listed
    (.build (.document (.object [("maximum", .ofNat 5)])) (some "a") none)).perform .listed
    (.build (.document (.object [("all_of", .array [.string "a"])])) (some "a") none)

/-- A cached schema may refer to its own name. It does not survive the next change of settings. -/
theorem looped_cyclic :
    Reachable looped ∧ ¬ Acyclic looped.cache ∧
      (looped.change .listed (.strict true)).2.get "a" = none := by
  have states : Edge looped.cache "a" "a" ∧
      ((looped.change .listed (.strict true)).2.get "a").isNone = true := by decide +kernel
  obtain ⟨edge, dropped⟩ := states
  exact ⟨.perform _ _ (.perform _ _ (.initial 0 "native" _ _ _)),
    fun acyclic => acyclic "a" (.single edge), Option.isNone_iff_eq_none.mp dropped⟩

end Environment

end Conformance
