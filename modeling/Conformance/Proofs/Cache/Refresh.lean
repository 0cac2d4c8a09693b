import Conformance.Proofs.Cache.Coherence
import Conformance.Proofs.Compilation.References
/-!
Refreshing the dependents of a name. Every name is visited once, when it is found through a schema
that it refers to and that is settled by then. When nothing is pending any more, the visited names
are closed under dependence, and the others stand as they stood (`Site.exists_progress_refresh`).
-/

namespace Conformance

namespace Site

variable {site : Site} {start cache other : Cache} {origin key finder : String} {schema : Schema}
  {older pending added visited : List String}

/-- What is known of a schema that was compiled when its name was visited: it was found through one
of its references, which has not changed since, and the names not visited stood as at the start. -/
def Traced (site : Site) (start cache : Cache) (older : List String) (schema : Schema)
    (finder : String) : Prop :=
  finder ∈ older ∧ finder ∈ schema.references ∧ IsCached cache finder ∧
  ∃ past, site.Settled past schema ∧ Table.lookup past finder = Table.lookup cache finder ∧
    ∀ name, name ∉ older → Table.lookup past name = Table.lookup start name

/-- The visited names, the latest first. -/
inductive Trail (site : Site) (start cache : Cache) (origin : String) : List String → Prop where
  | origin : Trail site start cache origin [origin]
  | visit {key : String} {older : List String} (earlier : Trail site start cache origin older)
      (traced : ∀ schema, Table.lookup cache key = some schema →
        ∃ finder, site.Traced start cache older schema finder) :
      Trail site start cache origin (key :: older)

theorem Trail.origin_mem (trail : Trail site start cache origin visited) : origin ∈ visited := by
  induction trail with
  | origin => exact List.mem_cons_self
  | visit earlier traced ih => exact List.mem_cons_of_mem _ ih

/-- A trail depends on what stands under the visited names only. -/
theorem Trail.congr (trail : Trail site start cache origin visited)
    (same : ∀ name ∈ visited, Table.lookup other name = Table.lookup cache name) :
    Trail site start other origin visited := by
  induction trail with
  | origin => exact .origin
  | visit earlier traced ih =>
      refine .visit (ih fun name member => same name (List.mem_cons_of_mem _ member)) ?_
      intro schema found
      rw [same _ List.mem_cons_self] at found
      obtain ⟨finder, member, refers, ⟨present, foundFinder⟩, past, settled, sameFinder, rest⟩ :=
        traced schema found
      have sameNow := same finder (List.mem_cons_of_mem _ member)
      refine ⟨finder, member, refers, ⟨present, sameNow.trans foundFinder⟩, past, settled, ?_, rest⟩
      exact sameFinder.trans sameNow.symm

/-- What holds of a refresh as it goes on. -/
structure Progress (site : Site) (start : Cache) (origin : String) (cache : Cache)
    (pending visited : List String) : Prop where
  sound : site.Sound cache
  distinct : visited.Nodup
  known : ∀ name ∈ visited, name ∈ Table.names start
  trail : Trail site start cache origin visited
  waiting : ∀ name ∈ pending, name ∈ visited
  kept : Table.lookup cache origin = Table.lookup start origin
  untouched : ∀ name, name ∉ visited → Table.lookup cache name = Table.lookup start name
  closed : ∀ key schema name, Table.lookup cache key = some schema → name ∈ schema.references →
    name ∈ visited → name ∈ pending ∨ key ∈ visited

theorem progress_start (sound : site.Sound start) (found : Table.lookup start origin = some schema) :
    site.Progress start origin start [origin] [origin] where
  sound := sound
  distinct := List.nodup_cons.mpr ⟨List.not_mem_nil, List.nodup_nil⟩
  known := by
    intro name member
    cases List.mem_singleton.mp member
    exact List.mem_map_of_mem (Table.mem_of_lookup found)
  trail := .origin
  waiting := fun _ => id
  kept := rfl
  untouched := fun _ _ => rfl
  closed := fun _ _ _ _ _ => .inl

theorem lookup_renew_of_ne {name : String} (allFresh : site.AllFresh cache) (apart : name ≠ key) :
    Table.lookup (site.renew key schema cache).2 name = Table.lookup cache name := by
  unfold Site.renew
  split
  · rename_i fresh after compiled
    rw [compileWithin_of_allFresh compiled allFresh]
    exact Table.lookup_put_of_ne cache fresh apart
  · rename_i error after compiled
    rw [compileWithin_of_allFresh compiled allFresh]
    exact Table.lookup_remove_of_ne cache apart

theorem settled_of_lookup_renew {fresh : Schema} (allFresh : site.AllFresh cache)
    (found : Table.lookup (site.renew key schema cache).2 key = some fresh) :
    fresh.source = schema.source ∧ site.Settled cache fresh := by
  unfold Site.renew at found
  split at found
  · rename_i compiledSchema after compiled
    have same := compileWithin_of_allFresh compiled allFresh
    subst same
    rw [Table.lookup_put_self] at found
    cases found
    exact ⟨source_of_compileWithin compiled, settled_of_compileWithin (Nat.le_refl _) compiled⟩
  · rw [Table.lookup_remove_self] at found
    cases found

/-- A name is visited: its schema is compiled again, and its dependents are pending. -/
theorem Progress.visit (progress : site.Progress start origin cache (finder :: added) visited)
    (new : key ∉ visited) (found : Table.lookup cache key = some schema)
    (seen : finder ∈ visited) (refers : finder ∈ schema.references) :
    site.Progress start origin (site.renew key schema cache).2 (finder :: key :: added)
      (key :: visited) := by
  have allFresh := progress.sound.fresh
  have belongs := progress.sound.belong key schema found
  have others : ∀ name ∈ visited,
      Table.lookup (site.renew key schema cache).2 name = Table.lookup cache name := by
    intro name member
    apply lookup_renew_of_ne allFresh
    intro same
    exact new (same ▸ member)
  refine ⟨progress.sound.renew belongs, List.nodup_cons.mpr ⟨new, progress.distinct⟩, ?_, ?_, ?_, ?_,
    ?_, ?_⟩
  case refine_1 =>
    intro name member
    rcases List.mem_cons.mp member with rfl | member
    · rw [progress.untouched name new] at found
      exact List.mem_map_of_mem (Table.mem_of_lookup found)
    · exact progress.known name member
  case refine_2 =>
    refine .visit (progress.trail.congr others) ?_
    intro fresh foundFresh
    obtain ⟨origin, settled⟩ := settled_of_lookup_renew allFresh foundFresh
    -- The old schema and the new one have the same document, hence the same references.
    obtain ⟨levels, _, _, compiled⟩ := belongs.made (allFresh key schema found)
    rw [← origin] at compiled
    have refersFresh : finder ∈ fresh.references := references_eq settled compiled ▸ refers
    obtain ⟨present, foundFinder, _⟩ := settled.hasFresh finder refersFresh
    exact ⟨finder, seen, refersFresh, ⟨present, (others finder seen).trans foundFinder⟩, cache,
      settled, (others finder seen).symm, progress.untouched⟩
  case refine_3 =>
    intro name member
    rcases List.mem_cons.mp member with rfl | member
    · exact List.mem_cons_of_mem _ seen
    · rcases List.mem_cons.mp member with rfl | member
      · exact List.mem_cons_self
      · exact List.mem_cons_of_mem _ (progress.waiting name (List.mem_cons_of_mem _ member))
  case refine_4 =>
    rw [others origin progress.trail.origin_mem]
    exact progress.kept
  case refine_5 =>
    intro name absent
    rw [List.mem_cons, not_or] at absent
    rw [lookup_renew_of_ne allFresh absent.1]
    exact progress.untouched name absent.2
  case refine_6 =>
    intro dependent present name foundDependent refersName member
    by_cases here : dependent = key
    · exact .inr (here ▸ List.mem_cons_self)
    · rw [lookup_renew_of_ne allFresh here] at foundDependent
      rcases List.mem_cons.mp member with rfl | member
      · exact .inl (List.mem_cons_of_mem _ List.mem_cons_self)
      · rcases progress.closed dependent present name foundDependent refersName member with
          waiting | done
        · refine .inl ?_
          rcases List.mem_cons.mp waiting with rfl | waiting
          · exact List.mem_cons_self
          · exact List.mem_cons_of_mem _ (List.mem_cons_of_mem _ waiting)
        · exact .inr (List.mem_cons_of_mem _ done)

/-- The dependents of a pending name are visited. As many names are added as are visited. -/
theorem Progress.renewEach (listed : List (String × Schema))
    (progress : site.Progress start origin cache (finder :: added) visited)
    (seen : finder ∈ visited)
    (dependents : ∀ entry ∈ listed, entry.1 ∉ visited →
      Table.lookup start entry.1 = some entry.2 ∧ finder ∈ entry.2.references) :
    ∃ cache' visited' added',
      site.renewEach cache visited added listed = (cache', visited', added') ∧
      site.Progress start origin cache' (finder :: added') visited' ∧
      (∀ name ∈ visited, name ∈ visited') ∧ (∀ entry ∈ listed, entry.1 ∈ visited') ∧
      added'.length + visited.length = added.length + visited'.length := by
  induction listed generalizing cache added visited with
  | nil =>
      exact ⟨cache, visited, added, rfl, progress, fun _ => id,
        fun _ member => absurd member List.not_mem_nil, rfl⟩
  | cons entry rest ih =>
      obtain ⟨key, schema⟩ := entry
      unfold Site.renewEach
      by_cases known : key ∈ visited
      · rw [if_pos known]
        obtain ⟨cache', visited', added', result, progress', more, all, lengths⟩ :=
          ih progress seen fun entry member => dependents entry (List.mem_cons_of_mem _ member)
        refine ⟨cache', visited', added', result, progress', more, ?_, lengths⟩
        intro entry member
        rcases List.mem_cons.mp member with rfl | later
        · exact more _ known
        · exact all entry later
      · rw [if_neg known]
        obtain ⟨found, refers⟩ := dependents (key, schema) List.mem_cons_self known
        have foundNow : Table.lookup cache key = some schema :=
          (progress.untouched key known).trans found
        obtain ⟨cache', visited', added', result, progress', more, all, lengths⟩ :=
          ih (progress.visit known foundNow seen refers) (List.mem_cons_of_mem _ seen) (by
            intro entry member absent
            rw [List.mem_cons, not_or] at absent
            exact dependents entry (List.mem_cons_of_mem _ member) absent.2)
        refine ⟨cache', visited', added', result, progress', ?_, ?_, ?_⟩
        · exact fun name member => more name (List.mem_cons_of_mem _ member)
        · intro entry member
          rcases List.mem_cons.mp member with rfl | later
          · exact more _ List.mem_cons_self
          · exact all entry later
        · simp only [List.length_cons] at lengths
          omega

/-- A dependent that was not visited stands as at the start. -/
theorem Progress.found_of_dependent {walk : Walk} {entry : String × Schema}
    (progress : site.Progress start origin cache pending visited)
    (member : entry ∈ dependents walk cache finder) (absent : entry.1 ∉ visited) :
    Table.lookup start entry.1 = some entry.2 ∧ finder ∈ entry.2.references := by
  obtain ⟨found, refers⟩ := (mem_dependents progress.sound.distinct).mp member
  exact ⟨(progress.untouched entry.1 absent).symm.trans found, refers⟩

/-- One round: a pending name is done once all its dependents are visited. -/
theorem Progress.round (walk : Walk)
    (progress : site.Progress start origin cache (finder :: pending) visited) :
    ∃ cache' visited' pending',
      site.renewEach cache visited pending (dependents walk cache finder) =
        (cache', visited', pending') ∧
      site.Progress start origin cache' pending' visited' ∧
      pending'.length + visited.length = pending.length + visited'.length := by
  have seen : finder ∈ visited := progress.waiting finder List.mem_cons_self
  obtain ⟨cache', visited', pending', result, progress', more, all, lengths⟩ :=
    progress.renewEach (dependents walk cache finder) seen
      fun entry member absent => progress.found_of_dependent member absent
  refine ⟨cache', visited', pending', result, { progress' with waiting := ?_, closed := ?_ }, lengths⟩
  · exact fun name member => progress'.waiting name (List.mem_cons_of_mem _ member)
  · intro key schema name found refers member
    rcases progress'.closed key schema name found refers member with waiting | done
    · rcases List.mem_cons.mp waiting with rfl | waiting
      · by_cases done : key ∈ visited'
        · exact .inr done
        · have before : Table.lookup cache key = some schema := by
            rw [progress.untouched key fun old => done (more key old),
              ← progress'.untouched key done]
            exact found
          exact .inr (all (key, schema)
            ((mem_dependents progress.sound.distinct).mpr ⟨before, refers⟩))
      · exact .inl waiting
    · exact .inr done

/-- As every name is visited once, the rounds are enough to leave nothing pending. -/
theorem Progress.refreshWithin {walk : Walk} {bound : Nat}
    (progress : site.Progress start origin cache pending visited)
    (enough : start.length + 1 + pending.length ≤ bound + visited.length) :
    ∃ visited', site.Progress start origin (site.refreshWithin walk bound cache pending visited) []
      visited' := by
  induction bound generalizing cache pending visited with
  | zero =>
      have few := progress.distinct.length_le_of_subset progress.known
      rw [Table.names, List.length_map] at few
      omega
  | succ bound ih =>
      cases pending with
      | nil => exact ⟨visited, progress⟩
      | cons finder pending =>
          obtain ⟨cache', visited', pending', result, progress', lengths⟩ :=
            progress.round walk
          unfold Site.refreshWithin
          rw [result]
          apply ih progress'
          simp only [List.length_cons] at enough
          omega

/-- A refresh ends with nothing pending. -/
theorem exists_progress_refresh (walk : Walk) (sound : site.Sound start)
    (found : Table.lookup start origin = some schema) :
    ∃ visited, site.Progress start origin (site.refresh walk origin start) [] visited :=
  (progress_start sound found).refreshWithin (Nat.le_refl _)

end Site

end Conformance
