import Conformance.Proofs.Cache.Lineage
/-!
What a change of settings leaves. All cached schemas are compiled again or dropped, so that what is cached
afterwards was cached before. A document that names no schema does not depend on the others: whether its
schema survives is told by the document alone (`Environment.survives_change`).
-/

namespace Conformance

namespace Binding

variable {α : Type} {suits : Value → Prop} {answer : Value → Except CompileError Schema}
  {inner : Value → Compiling Schema} {script : Binding α}

/-- Whether a run asks for no schema by name, as far as it comes: the documents that it asks for suit,
and what it goes on with are the answers to these. -/
def AsksNoName (suits : Value → Prop) (answer : Value → Except CompileError Schema) :
    Binding α → Prop
  | .done _ => True
  | .failed _ => True
  | .inner document next => suits document ∧
      ∀ schema ∈ (answer document).toOption, (next schema).AsksNoName suits answer
  | .named _ _ => False

instance decidableAsksNoName [DecidablePred suits] :
    (script : Binding α) → Decidable (script.AsksNoName suits answer)
  | .done _ => isTrue trivial
  | .failed _ => isTrue trivial
  | .inner document next =>
    have : DecidablePred fun schema => (next schema).AsksNoName suits answer :=
      fun schema => decidableAsksNoName (next schema)
    inferInstanceAs (Decidable (suits document ∧
      ∀ schema ∈ (answer document).toOption, (next schema).AsksNoName suits answer))
  | .named _ _ => isFalse id

theorem AsksNoName.outcome (asks : script.AsksNoName suits answer)
    (onInner : ∀ document cache, suits document →
      (inner document).outcome cache = (answer document, cache))
    (named : String → Compiling Schema) (references : NameSet) :
    ∃ result, ∀ cache, (script.run inner named references).outcome cache = (result, cache) := by
  induction script generalizing references with
  | done result => exact ⟨.ok (result, references), fun _ => rfl⟩
  | failed error => exact ⟨.error error, fun _ => rfl⟩
  | inner document next ih =>
      obtain ⟨suited, rest⟩ := asks
      cases answered : answer document with
      | error error =>
          refine ⟨.error error, fun cache => ?_⟩
          rw [outcome_run_inner, onInner document cache suited, answered]
      | ok schema =>
          obtain ⟨result, same⟩ := ih schema (rest schema (by rw [answered]; rfl)) _
          refine ⟨result, fun cache => ?_⟩
          rw [outcome_run_inner, onInner document cache suited, answered]
          exact same cache
  | named name next ih => exact asks.elim

end Binding

namespace Site

variable {site : Site} {cache after : Cache} {key : String} {schema : Schema} {source : Source}

/-- Whether the compilation of a document within some levels asks for no schema by name, neither itself nor
for a document inside. -/
def NamesNothing (site : Site) : Nat → Source → Prop
  | 0, _ => True
  | levels + 1, source =>
    match source.document with
    | .object entries => (site.context source entries).bindAll.AsksNoName
        (fun document => site.NamesNothing levels ⟨document, none, source.strict, 0⟩)
        (fun document => ((site.compileWithin levels ⟨document, none, source.strict, 0⟩).outcome []).1)
    | _ => True

instance decidableNamesNothing (site : Site) :
    (levels : Nat) → (source : Source) → Decidable (site.NamesNothing levels source)
  | 0, _ => isTrue trivial
  | levels + 1, ⟨.object entries, name, strict, revision⟩ =>
    have : DecidablePred fun document => site.NamesNothing levels ⟨document, none, strict, 0⟩ :=
      fun document => site.decidableNamesNothing levels ⟨document, none, strict, 0⟩
    Binding.decidableAsksNoName (site.context ⟨.object entries, name, strict, revision⟩ entries).bindAll
  | _ + 1, ⟨.null, _, _, _⟩ => isTrue trivial
  | _ + 1, ⟨.bool _, _, _, _⟩ => isTrue trivial
  | _ + 1, ⟨.number _, _, _, _⟩ => isTrue trivial
  | _ + 1, ⟨.string _, _, _, _⟩ => isTrue trivial
  | _ + 1, ⟨.bytes _, _, _, _⟩ => isTrue trivial
  | _ + 1, ⟨.array _, _, _, _⟩ => isTrue trivial

/-- What names nothing compiles alike in all caches, and leaves them as they are. -/
theorem NamesNothing.outcome {levels : Nat} (namesNothing : site.NamesNothing levels source) :
    ∃ result, ∀ cache, (site.compileWithin levels source).outcome cache = (result, cache) := by
  induction levels generalizing source with
  | zero => exact ⟨_, fun _ => rfl⟩
  | succ levels ih =>
      change ∃ result, ∀ cache,
        (site.compileWith (site.compileWithin levels) source).outcome cache = (result, cache)
      unfold compileWith
      split
      · rename_i entries isObject
        have onInner : ∀ document cache,
            site.NamesNothing levels ⟨document, none, source.strict, 0⟩ →
            (site.compileWithin levels ⟨document, none, source.strict, 0⟩).outcome cache =
              (((site.compileWithin levels ⟨document, none, source.strict, 0⟩).outcome []).1, cache) := by
          intro document cache namesNothing
          obtain ⟨result, same⟩ := ih namesNothing
          rw [same cache, same []]
        unfold NamesNothing at namesNothing
        rw [isObject] at namesNothing
        obtain ⟨bound, same⟩ :=
          namesNothing.outcome onInner (site.resolve (site.compileWithin levels)) []
        cases bound with
        | error error =>
            refine ⟨.error error, fun cache => ?_⟩
            rw [Compiling.outcome_bind, same cache]
        | ok bound =>
            refine ⟨.ok (site.schema source bound.1.1 bound.1.2 bound.2), fun cache => ?_⟩
            rw [Compiling.outcome_bind, same cache]
            rfl
      · exact ⟨_, fun _ => rfl⟩

/-- Whether a document compiles in some cache. -/
def Compiles (site : Site) (source : Source) : Prop :=
  ∃ cache schema after, (site.compile source).outcome cache = (.ok schema, after)

/-- What stands under a key in the course of a walk. It is made from a source, and tells whether that
compiles once it is up to date or gone. -/
structure Tells (site : Site) (source : Source) (key : String) (cache : Cache) : Prop where
  made : ∀ schema, Table.lookup cache key = some schema → schema.source = source
  fresh : ∀ schema, Table.lookup cache key = some schema → site.IsFresh schema → site.Compiles source
  gone : Table.lookup cache key = none → ¬ site.Compiles source

theorem Tells.renewal (tells : site.Tells source key cache) (renewal : site.Renewal cache after)
    (kept : Table.lookup after key = none → Table.lookup cache key = none) :
    site.Tells source key after where
  made := by
    intro schema found
    obtain ⟨old, foundOld, same⟩ := renewal.source key schema found
    exact same.trans (tells.made old foundOld)
  fresh := by
    intro schema found isFresh
    rcases renewal.settled key schema found isFresh with before | settled
    · exact tells.fresh schema before isFresh
    · obtain ⟨old, foundOld, same⟩ := renewal.source key schema found
      exact ⟨after, schema, after, tells.made old foundOld ▸ same ▸ settled⟩
  gone := fun lost => tells.gone (kept lost)

theorem lookup_eq_none_of_compile {result : Except CompileError Schema}
    (compiled : (site.compile source).outcome cache = (result, after))
    (lost : Table.lookup after key = none) : Table.lookup cache key = none := by
  cases found : Table.lookup cache key with
  | none => rfl
  | some schema =>
      have member : key ∈ Table.names after :=
        names_compileWithin compiled ▸ List.mem_map_of_mem (Table.mem_of_lookup found)
      have present := (Table.has_iff_mem_names after key).mpr member
      unfold Table.has at present
      rw [lost] at present
      cases present

theorem Tells.renew {name : String} {stale : Schema} (tells : site.Tells source key cache)
    (alike : site.Compiles source → ∀ cache,
      ∃ schema after, (site.compile source).outcome cache = (.ok schema, after))
    (found : Table.lookup cache name = some stale) (outdated : ¬ site.IsFresh stale) :
    site.Tells source key (site.renew name stale cache).2 := by
  unfold Site.renew
  split
  · rename_i fresh after compiled
    have renewal := (renewal_compile compiled).put (Nat.le_refl _) found outdated compiled
    refine tells.renewal renewal fun lost => ?_
    rw [Table.lookup_put] at lost
    split at lost
    · cases lost
    · exact lookup_eq_none_of_compile compiled lost
  · rename_i error after compiled
    have between := tells.renewal (renewal_compile compiled) (lookup_eq_none_of_compile compiled)
    by_cases here : key = name
    · subst here
      refine ⟨?_, ?_, fun _ compiles => ?_⟩
      · intro schema present
        rw [Table.lookup_remove_self] at present
        cases present
      · intro schema present
        rw [Table.lookup_remove_self] at present
        cases present
      · obtain ⟨schema, rest, succeeded⟩ := alike compiles cache
        rw [← tells.made stale found, compiled] at succeeded
        cases succeeded
    · have apart : Table.lookup (Table.remove after name) key = Table.lookup after key :=
        Table.lookup_remove_of_ne after here
      exact ⟨apart ▸ between.made, apart ▸ between.fresh, apart ▸ between.gone⟩

/-- Once nothing is out of date, a schema that names nothing stands under its key iff it compiles. -/
theorem Tells.survives {keys : List String} {count : Nat} (tells : site.Tells source key cache)
    (namesNothing : site.NamesNothing (site.settings.config.maxDepth + 1) source)
    (allFresh : site.AllFresh (site.renewStale cache count keys).2) :
    (Table.lookup (site.renewStale cache count keys).2 key).isSome ↔
      ∃ schema, ∀ cache, (site.compile source).outcome cache = (.ok schema, cache) := by
  obtain ⟨result, same⟩ : ∃ result, ∀ cache, (site.compile source).outcome cache = (result, cache) :=
    namesNothing.outcome
  have anywhere : site.Compiles source → ∃ schema, ∀ cache,
      (site.compile source).outcome cache = (.ok schema, cache) := by
    rintro ⟨cache, schema, after, compiled⟩
    cases (same cache).symm.trans compiled
    exact ⟨schema, same⟩
  have final : site.Tells source key (site.renewStale cache count keys).2 := by
    refine renewStale_keeps (site.Tells source key) (fun found stale tells => ?_) tells
    exact tells.renew (fun compiles cache =>
      (anywhere compiles).imp fun schema compiled => ⟨cache, compiled cache⟩) found stale
  constructor
  · intro present
    obtain ⟨fresh, found⟩ := Option.isSome_iff_exists.mp present
    exact anywhere (final.fresh fresh found (allFresh key fresh found))
  · rintro ⟨schema, compiled⟩
    refine Option.isSome_iff_ne_none.mpr fun lost => final.gone lost ?_
    exact ⟨[], schema, [], compiled []⟩

end Site

namespace Environment

variable {environment : Environment}

/-- What an environment that takes up new settings owes to the one before. -/
structure Adopts (before : Environment) (settings : Settings) (after : Environment) : Prop where
  site : after.site = { before.site with settings := settings, revision := before.revision + 1 }
  renewed : ∀ key fresh, after.get key = some fresh →
    ∃ old, before.get key = some old ∧ fresh.Renews old
  survives : ∀ key old, before.get key = some old →
    after.site.NamesNothing (settings.config.maxDepth + 1) old.source →
    ((after.get key).isSome ↔
      ∃ schema, ∀ cache, (after.site.compile old.source).outcome cache = (.ok schema, cache))

/-- A change of settings is accepted unless it registers a constraint. Once it is, the environment has the
next revision, and whatever it caches was cached before and is made from the same source. A schema whose
document names no schema is cached still iff the document compiles. -/
theorem survives_change (reached : Reachable environment) (walk : Walk) (change : Change) :
    ((∀ definition overwrite, change ≠ .constraint definition overwrite) →
      (environment.change walk change).1 = .ok ()) ∧
    ∀ settings, environment.settings.change change = .ok settings →
      environment.Adopts settings (environment.change walk change).2 := by
  have sound := reached.sound
  constructor
  · intro unregistered
    cases change with
    | constraint definition overwrite => exact absurd rfl (unregistered definition overwrite)
    | _ => rfl
  · intro settings changed
    have sound' : (environment.change walk change).2.Sound := sound.change
    unfold Environment.change at sound' ⊢
    rw [changed] at sound' ⊢
    dsimp only at sound' ⊢
    refine ⟨rfl, ?_, ?_⟩
    · intro key fresh found
      obtain ⟨old, foundOld, same⟩ := (Descends.refl environment.cache).renewStale key fresh found
      exact ⟨old, foundOld, (sound'.belong key fresh found).renews (sound.belong key old foundOld) same⟩
    · intro key old foundOld namesNothing
      refine Site.Tells.survives ⟨?_, ?_, ?_⟩ namesNothing sound'.fresh
      · intro schema found
        cases foundOld.symm.trans found
        rfl
      · intro schema found fresh
        exact absurd fresh (sound.not_isFresh_changed settings found)
      · intro lost
        cases foundOld.symm.trans lost

/-- An environment with a schema that has no document inside and one that has. -/
def nested : Environment :=
  ((native 0).perform .listed
    (.build (.document (.object [("type", .string "int")])) (some "count") none)).perform .listed
    (.build (.document (.object [("items", .object [("type", .string "int")])])) (some "counts") none)

/-- Where no document may stand inside another, the flat schema survives and the nested one does not. Both
documents name nothing. -/
theorem survives_change_nested :
    Table.names nested.cache = ["count", "counts"] ∧
      ∃ settings, nested.settings.change (.config { strict := true, maxDepth := 0 }) = .ok settings ∧
        nested.Adopts settings
          (nested.change .listed (.config { strict := true, maxDepth := 0 })).2 ∧
        Table.names (nested.change .listed (.config { strict := true, maxDepth := 0 })).2.cache =
          ["count"] ∧
        ∀ schema ∈ nested.cache.map Prod.snd,
          (nested.change .listed (.config { strict := true, maxDepth := 0 })).2.site.NamesNothing 1
            schema.source := by
  have reached : Reachable nested := .perform _ _ (.perform _ _ (.initial 0 "native" _ _ _))
  have before : Table.names nested.cache = ["count", "counts"] := by decide +kernel
  have after : Table.names (nested.change .listed (.config { strict := true, maxDepth := 0 })).2.cache =
      ["count"] := by decide +kernel
  have namesNothing : ∀ schema ∈ nested.cache.map Prod.snd,
      (nested.change .listed (.config { strict := true, maxDepth := 0 })).2.site.NamesNothing 1
        schema.source := by decide +kernel
  exact ⟨before, _, rfl, (survives_change reached .listed _).2 _ rfl, after, namesNothing⟩

end Environment

end Conformance
