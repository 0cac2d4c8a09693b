import Conformance.Proofs.Cache.Cycles
/-!
What storing a schema leaves alone. A refresh compiles a cached schema again only if references lead from it
to the stored name, and no schema twice (`Site.exists_refreshes`). So an operation that stores a schema
touches the name that it stores it under, the name that it supersedes, and what depends on the stored name
(`Environment.stores_alone`).
-/

namespace Conformance

/-- Whether the schema cached under a key refers to a name, be that cached or not. -/
def Refers (cache : Cache) (key name : String) : Prop :=
  ∃ schema, Table.lookup cache key = some schema ∧ name ∈ schema.references

namespace Site

variable {site : Site} {walk : Walk} {start cache last : Cache} {origin finder key : String}
  {schema : Schema} {added pending visited compiled : List String}

/-- The course of a refresh that leaves the cache `last` in the end, without a limit on its rounds: from a
cache, the names that are pending and visited, and the dependents at hand. It tells the keys whose schemas
are compiled again, in order. Nothing is out of date whenever one is, so that all schemas that it asks for
are taken as they are. -/
inductive Refreshes (site : Site) (walk : Walk) (last : Cache) : Cache → List String → List String →
    List (String × Schema) → List String → Prop
  | done {visited : List String} : Refreshes site walk last last [] visited [] []
  | next {cache : Cache} {name : String} {pending visited compiled : List String}
      (rest : Refreshes site walk last cache pending visited (dependents walk cache name) compiled) :
      Refreshes site walk last cache (name :: pending) visited [] compiled
  | skip {cache : Cache} {key : String} {schema : Schema} {listed : List (String × Schema)}
      {pending visited compiled : List String} (known : key ∈ visited)
      (rest : Refreshes site walk last cache pending visited listed compiled) :
      Refreshes site walk last cache pending visited ((key, schema) :: listed) compiled
  | renew {cache : Cache} {key : String} {schema : Schema} {listed : List (String × Schema)}
      {pending visited compiled : List String} (new : key ∉ visited) (current : site.AllFresh cache)
      (rest : Refreshes site walk last (site.renew key schema cache).2 (key :: pending)
        (key :: visited) listed compiled) :
      Refreshes site walk last cache pending visited ((key, schema) :: listed) (key :: compiled)

/-- A round visits dependents only, and its course goes before that of the other rounds. -/
theorem Progress.refreshes_listed {cache' : Cache} {added' visited' : List String}
    (walk : Walk) (listed : List (String × Schema))
    (progress : site.Progress start origin cache (finder :: added) visited) (seen : finder ∈ visited)
    (dependents : ∀ entry ∈ listed, entry.1 ∉ visited →
      Table.lookup start entry.1 = some entry.2 ∧ finder ∈ entry.2.references)
    (renewed : site.renewEach cache visited added listed = (cache', visited', added')) :
    ∃ newly, visited' = newly.reverse ++ visited ∧ (∀ key ∈ newly, Refers start key finder) ∧
      ∀ last compiled, site.Refreshes walk last cache' added' visited' [] compiled →
        site.Refreshes walk last cache added visited listed (newly ++ compiled) := by
  induction listed generalizing cache added visited with
  | nil =>
      cases renewed
      exact ⟨[], rfl, List.forall_mem_nil _, fun _ _ => id⟩
  | cons entry listed ih =>
      obtain ⟨key, schema⟩ := entry
      unfold Site.renewEach at renewed
      by_cases known : key ∈ visited
      · rw [if_pos known] at renewed
        obtain ⟨newly, grown, refer, course⟩ := ih progress seen
          (fun entry member => dependents entry (List.mem_cons_of_mem _ member)) renewed
        exact ⟨newly, grown, refer, fun last compiled rest => .skip known (course last compiled rest)⟩
      · rw [if_neg known] at renewed
        obtain ⟨found, refers⟩ := dependents (key, schema) List.mem_cons_self known
        have foundNow : Table.lookup cache key = some schema :=
          (progress.untouched key known).trans found
        obtain ⟨newly, grown, refer, course⟩ := ih (progress.visit known foundNow seen refers)
          (List.mem_cons_of_mem _ seen) (fun entry member absent =>
            dependents entry (List.mem_cons_of_mem _ member) fun old =>
              absent (List.mem_cons_of_mem _ old)) renewed
        refine ⟨key :: newly, ?_, ?_, ?_⟩
        · rw [grown, List.reverse_cons, List.append_assoc, List.singleton_append]
        · exact List.forall_mem_cons.mpr ⟨⟨schema, found, refers⟩, refer⟩
        · exact fun last compiled rest =>
            .renew known progress.sound.fresh (course last compiled rest)

/-- As every name is visited once, the rounds are enough for the whole course, and it comes to names from
which references lead to the refreshed one only. -/
theorem Progress.refreshes (walk : Walk) (bound : Nat)
    (progress : site.Progress start origin cache pending visited)
    (enough : start.length + 1 + pending.length ≤ bound + visited.length)
    (lead : ∀ key ∈ visited, key = origin ∨ Relation.TransGen (Refers start) key origin) :
    ∃ compiled, site.Refreshes walk (site.refreshWithin walk bound cache pending visited) cache pending
        visited [] compiled ∧
      site.Progress start origin (site.refreshWithin walk bound cache pending visited) []
        (compiled.reverse ++ visited) ∧
      ∀ key ∈ compiled, Relation.TransGen (Refers start) key origin := by
  induction bound generalizing cache pending visited with
  | zero =>
      have few := progress.distinct.length_le_of_subset progress.known
      rw [Table.names, List.length_map] at few
      omega
  | succ bound ih =>
      cases pending with
      | nil => exact ⟨[], .done, progress, List.forall_mem_nil _⟩
      | cons finder pending =>
          have seen : finder ∈ visited := progress.waiting finder List.mem_cons_self
          obtain ⟨cache', visited', pending', renewed, progress', lengths⟩ := progress.round walk
          unfold Site.refreshWithin
          rw [renewed]
          have shorter : start.length + 1 + pending'.length ≤ bound + visited'.length := by
            rw [List.length_cons] at enough
            omega
          obtain ⟨newly, grown, refer, course⟩ := Progress.refreshes_listed walk _ progress seen
            (fun entry member absent => progress.found_of_dependent member absent) renewed
          have leadNewly : ∀ key ∈ newly, Relation.TransGen (Refers start) key origin := by
            intro key member
            rcases lead finder seen with rfl | path
            · exact .single (refer key member)
            · exact .head (refer key member) path
          have leadNow : ∀ key ∈ visited', key = origin ∨
              Relation.TransGen (Refers start) key origin := by
            intro key member
            rw [grown, List.mem_append, List.mem_reverse] at member
            exact member.elim (fun newly => .inr (leadNewly key newly)) (lead key)
          obtain ⟨compiled, rest, done, leadRest⟩ := ih progress' shorter leadNow
          refine ⟨newly ++ compiled, .next (course _ compiled rest), ?_, ?_⟩
          · rw [List.reverse_append, List.append_assoc, ← grown]
            exact done
          · intro key member
            exact (List.mem_append.mp member).elim (leadNewly key) (leadRest key)

/-- A refresh takes its course: it compiles again schemas that depend on the refreshed name, no name twice
and not the refreshed one, and leaves the others as they stand. -/
theorem exists_refreshes (walk : Walk) (sound : site.Sound start)
    (found : Table.lookup start origin = some schema) :
    ∃ compiled, site.Refreshes walk (site.refresh walk origin start) start [origin] [origin] [] compiled ∧
      (origin :: compiled).Nodup ∧
      (∀ key ∈ compiled, Relation.TransGen (Refers start) key origin) ∧
      ∀ key, key ∉ compiled →
        Table.lookup (site.refresh walk origin start) key = Table.lookup start key := by
  obtain ⟨compiled, course, progress, lead⟩ := Progress.refreshes walk (start.length + 1)
    (progress_start sound found) (Nat.le_refl _) fun _ member => .inl (List.mem_singleton.mp member)
  refine ⟨compiled, course, ?_, lead, ?_⟩
  · have distinct := progress.distinct
    rw [← List.reverse_cons] at distinct
    exact (List.pairwise_reverse.mp distinct).imp Ne.symm
  · intro key absent
    by_cases here : key = origin
    · rw [here]
      exact progress.kept
    · refine progress.untouched key ?_
      rw [List.mem_append, List.mem_reverse, List.mem_singleton]
      exact not_or.mpr ⟨absent, here⟩

end Site

/-- A chain of references to a name leads there before it comes to what the name stands for. -/
theorem transGen_refers_of_put {cache : Cache} {key name : String} {schema : Schema}
    (path : Relation.TransGen (Refers (Table.put cache name schema)) key name) (apart : key ≠ name) :
    Relation.TransGen (Refers cache) key name := by
  have before {key other : String} (apart : key ≠ name)
      (refers : Refers (Table.put cache name schema) key other) : Refers cache key other := by
    obtain ⟨found, lookup, refers⟩ := refers
    exact ⟨found, (Table.lookup_put_of_ne cache schema apart).symm.trans lookup, refers⟩
  induction path using Relation.TransGen.head_induction_on with
  | single refers => exact .single (before apart refers)
  | @head key next refers _ ih =>
      by_cases arrived : next = name
      · exact .single (arrived ▸ before apart refers)
      · exact .head (before apart refers) (ih arrived)

/-- The name whose schema an operation supersedes: that of a revised schema without a name of its own. -/
def Operation.superseded (environment : Environment) : Operation → Option String
  | .revise schema _ =>
    if !schema.named && schema.header.environment == environment.identity then some schema.name
    else none
  | _ => none

namespace Environment

variable {environment : Environment} {walk : Walk} {operation : Operation} {schema : Schema}
  {key name : String}

/-- An environment without the schema that an operation supersedes. -/
def cleared (environment : Environment) (operation : Operation) : Environment :=
  match operation.superseded environment with
  | some name => (environment.remove name).2
  | none => environment

theorem site_cleared : (environment.cleared operation).site = environment.site := by
  unfold cleared
  split <;> rfl

theorem lookup_cleared_of_ne (apart : operation.superseded environment ≠ some key) :
    (environment.cleared operation).get key = environment.get key := by
  unfold cleared
  split
  · rename_i name superseded
    exact Table.lookup_remove_of_ne _ fun same => apart (superseded.trans (congrArg some same.symm))
  · rfl

theorem lookup_cleared_self (superseded : operation.superseded environment = some name) :
    (environment.cleared operation).get name = none := by
  unfold cleared
  rw [superseded]
  exact Table.lookup_remove_self _ _

theorem refers_of_cleared {other : String} (refers : Refers (environment.cleared operation).cache key other) :
    operation.superseded environment ≠ some key ∧ Refers environment.cache key other := by
  obtain ⟨old, lookup, refers⟩ := refers
  by_cases superseded : operation.superseded environment = some key
  · cases (lookup_cleared_self superseded).symm.trans lookup
  · exact ⟨superseded, old, (lookup_cleared_of_ne superseded).symm.trans lookup, refers⟩

theorem Sound.cleared (sound : environment.Sound) : (environment.cleared operation).Sound := by
  unfold Environment.cleared
  split
  · exact Site.Sound.remove sound _
  · exact sound

theorem cleared_revise (environment : Environment) (schema : Schema) (document : Value) :
    environment.cleared (.revise schema document) = environment.dropSuperseded schema := by
  unfold cleared dropSuperseded
  dsimp only [Operation.superseded]
  by_cases owned : (!schema.named && schema.header.environment == environment.identity) = true
  · rw [if_pos owned, if_pos owned]
    rfl
  · rw [if_neg owned, if_neg owned]

/-- An operation that gives a schema stores it, or leaves everything as it is. -/
theorem Sound.given_cases (sound : environment.Sound)
    (given : environment.given walk operation = some schema) :
    environment.perform walk operation = environment ∨
      environment.perform walk operation = (environment.cleared operation).store walk schema ∧
        environment.site.Belongs schema.name schema ∧ environment.site.IsFresh schema := by
  cases operation with
  | build material name strict =>
      dsimp only [Environment.perform, Environment.given] at given ⊢
      rcases Environment.build_cases environment walk material name strict with same | ⟨source, same, _⟩
      · exact .inl same
      · rw [same] at given ⊢
        rcases sound.compile_store walk source with ⟨error, failed⟩ | ⟨fresh, compiled, belongs,
          current, _⟩
        · rw [failed]
          exact .inl rfl
        · rw [compiled] at given ⊢
          cases given
          exact .inr ⟨rfl, belongs, current⟩
  | revise handle document =>
      dsimp only [Environment.perform, Environment.given] at given ⊢
      rw [cleared_revise]
      rcases sound.revise_store walk handle document with ⟨error, failed⟩ | ⟨fresh, revised, belongs,
        current, _⟩
      · rw [failed]
        exact .inl rfl
      · rw [revised] at given ⊢
        cases given
        exact .inr ⟨rfl, belongs, current⟩
  | remove name => cases given
  | recompile => cases given
  | change change => cases given

/-- What an operation that stores a schema owes to the environment before. The keys compiled again are
those of a refresh that comes to its end. -/
structure StoresAlone (before : Environment) (walk : Walk) (operation : Operation) (schema : Schema)
    (after : Environment) : Prop where
  site : after.site = before.site
  placed : after.get schema.name = some schema
  dropped : ∀ key, operation.superseded before = some key → key ≠ schema.name → after.get key = none
  refreshed : ∃ compiled,
    before.site.Refreshes walk after.cache
      (Table.put (before.cleared operation).cache schema.name schema) [schema.name] [schema.name] []
      compiled ∧
    (schema.name :: compiled).Nodup
  others : ∀ key, key ≠ schema.name → operation.superseded before ≠ some key →
    after.get key = before.get key ∨
      Relation.TransGen (Refers before.cache) key schema.name ∧
        ∀ fresh, after.get key = some fresh → ∃ old, before.get key = some old ∧ fresh.Renews old

/-- An operation that gives a schema leaves everything as it is, or stores the schema and compiles the
schemas again that depend on it, each once at most. They are dropped, or differ in what they are compiled to
only. Nothing else changes, but that a schema without a name gives way to its revision. -/
theorem stores_alone (reached : Reachable environment) (walk : Walk)
    (given : environment.given walk operation = some schema) :
    environment.perform walk operation = environment ∨
      environment.StoresAlone walk operation schema (environment.perform walk operation) := by
  have sound := reached.sound
  rcases sound.given_cases given with same | ⟨stored, belongs, fresh⟩
  · exact .inl same
  have sound' : (environment.perform walk operation).Sound := sound.perform
  rw [stored] at sound' ⊢
  rw [← @site_cleared environment operation] at belongs fresh
  have start := Site.Sound.put sound.cleared belongs fresh
  have found := Table.lookup_put_self (environment.cleared operation).cache schema.name schema
  obtain ⟨compiled, course, distinct, lead, untouched⟩ := Site.exists_refreshes walk start found
  have self : schema.name ∉ compiled := (List.nodup_cons.mp distinct).1
  have unmoved (key : String) (absent : key ∉ compiled) (apart : key ≠ schema.name) :
      ((environment.cleared operation).store walk schema).get key =
        (environment.cleared operation).get key :=
    (untouched key absent).trans (Table.lookup_put_of_ne _ _ apart)
  have before (key : String) (member : key ∈ compiled) (apart : key ≠ schema.name) :
      Relation.TransGen (Refers (environment.cleared operation).cache) key schema.name :=
    transGen_refers_of_put (lead key member) apart
  refine .inr ⟨site_cleared, (untouched _ self).trans found, ?_,
    ⟨compiled, site_cleared ▸ course, distinct⟩, ?_⟩
  case refine_1 =>
    intro key superseded apart
    have absent : key ∉ compiled := by
      intro member
      obtain ⟨next, refers, _⟩ := Relation.TransGen.head'_iff.mp (before key member apart)
      exact (refers_of_cleared refers).1 superseded
    exact (unmoved key absent apart).trans (lookup_cleared_self superseded)
  case refine_2 =>
    intro key apart kept
    by_cases member : key ∈ compiled
    · refine .inr ⟨Relation.TransGen.mono (fun key other refers => (refers_of_cleared refers).2) _ _
        (before key member apart), ?_⟩
      intro fresh lookup
      obtain ⟨old, foundOld, same⟩ := Descends.refreshWithin (.refl _) start key fresh lookup
      rw [Table.lookup_put_of_ne _ _ apart] at foundOld
      have lookupOld : environment.get key = some old := (lookup_cleared_of_ne kept).symm.trans foundOld
      exact ⟨old, lookupOld, (sound'.belong key fresh lookup).renews (sound.belong key old lookupOld)
        same⟩
    · exact .inl ((unmoved key member apart).trans (lookup_cleared_of_ne kept))

/-- The crossing puts a schema under "count" that refers to "counts", which refers to "count" already. -/
theorem stores_alone_relaxed :
    ∃ schema, relaxed.given .listed crossing = some schema ∧ schema.name = "count" ∧
      relaxed.StoresAlone .listed crossing schema (relaxed.perform .listed crossing) := by
  have states : (relaxed.given .listed crossing).map Schema.name = some "count" ∧
      Edge (relaxed.perform .listed crossing).cache "count" "counts" ∧
      ¬ Edge relaxed.cache "count" "counts" := by decide +kernel
  obtain ⟨given, edge, none⟩ := states
  obtain ⟨schema, given, named⟩ := Option.map_eq_some_iff.mp given
  refine ⟨schema, given, named, (stores_alone reachable_relaxed .listed given).resolve_left ?_⟩
  intro same
  rw [same] at edge
  exact none edge

end Environment

end Conformance
