import Conformance.Proofs.Cache.Freshness
import Conformance.Proofs.Compilation.Postcondition
/-!
Properties that pass from schemas to the schemas built from them. If a property holds of what a document
compiles to whenever it holds of the schemas that the document asks for, then in every state it holds of
all cached schemas (`Environment.Reachable.keeps`), and so of whatever compiles there.
-/

namespace Conformance

namespace Site

variable {site : Site} {good : Schema → Prop} {cache after : Cache} {key : String}
  {schema : Schema}

/-- Whether a property holds of all cached schemas that are not out of date. -/
def Keeps (site : Site) (good : Schema → Prop) (cache : Cache) : Prop :=
  ∀ key schema, Table.lookup cache key = some schema → site.IsFresh schema → good schema

/-- Whether a property passes from the schemas that a document asks for to the one made of it. -/
def Inherits (site : Site) (good : Schema → Prop) : Prop :=
  ∀ source entries, source.document = .object entries →
    (site.context source entries).bindAll.Yields (fun _ => good) (fun _ => good) fun bound =>
      ∀ references, good (site.schema source bound.1 bound.2 references)

theorem Keeps.put (keeps : site.Keeps good cache) (isGood : good schema) :
    site.Keeps good (Table.put cache key schema) := by
  intro other found lookup fresh
  rw [Table.lookup_put] at lookup
  split at lookup
  · cases lookup
    exact isGood
  · exact keeps other found lookup fresh

theorem Keeps.remove (keeps : site.Keeps good cache) (key : String) :
    site.Keeps good (Table.remove cache key) := by
  intro other found lookup fresh
  rw [Table.lookup_remove] at lookup
  split at lookup
  · cases lookup
  · exact keeps other found lookup fresh

theorem Keeps.resolve {compile : Source → Compiling Schema}
    (compiles : ∀ source cache, site.Keeps good cache →
      site.Keeps good ((compile source).outcome cache).2 ∧
        ∀ schema, ((compile source).outcome cache).1 = .ok schema → good schema)
    (name : String) (keeps : site.Keeps good cache) :
    site.Keeps good ((site.resolve compile name).outcome cache).2 ∧
      ∀ schema, ((site.resolve compile name).outcome cache).1 = .ok schema → good schema := by
  rw [outcome_resolve]
  cases found : Table.lookup cache name with
  | none => exact ⟨keeps, fun schema same => nomatch same⟩
  | some cached =>
      dsimp only
      split
      · rename_i fresh
        refine ⟨keeps, fun schema same => ?_⟩
        cases same
        exact keeps name cached found fresh
      · obtain ⟨between, isGood⟩ := compiles cached.source cache keeps
        cases compiled : (compile cached.source).outcome cache with
        | mk result after =>
            rw [compiled] at between isGood
            cases result with
            | error error => exact ⟨between, fun schema same => nomatch same⟩
            | ok fresh =>
                refine ⟨between.put (isGood fresh rfl), fun schema same => ?_⟩
                cases same
                exact isGood fresh rfl

/-- What compiles where all fresh schemas are good is good, and leaves them so. The induction is on the
levels: what a document asks for is compiled one level below, or cached. -/
theorem Keeps.compileWithin (inherits : site.Inherits good) (levels : Nat) (source : Source)
    (keeps : site.Keeps good cache) :
    site.Keeps good ((site.compileWithin levels source).outcome cache).2 ∧
      ∀ schema, ((site.compileWithin levels source).outcome cache).1 = .ok schema → good schema := by
  induction levels generalizing source cache with
  | zero => exact ⟨keeps, fun schema same => nomatch same⟩
  | succ below ih =>
      change site.Keeps good ((site.compileWith (site.compileWithin below) source).outcome cache).2 ∧
        ∀ schema, ((site.compileWith (site.compileWithin below) source).outcome cache).1 =
          .ok schema → good schema
      unfold compileWith
      split
      · rename_i entries isObject
        have ran := Binding.yielded_of_run (site.Keeps good)
          (fun document cache keeps => ih ⟨document, none, source.strict, 0⟩ keeps)
          (fun name cache keeps => keeps.resolve (fun source cache keeps => ih source keeps) name)
          (inherits source entries isObject) [] keeps
        rw [Compiling.outcome_bind]
        split
        · rename_i result after bound
          rw [bound] at ran
          refine ⟨ran.1, fun schema same => ?_⟩
          cases same
          exact ran.2 result rfl result.2
        · rename_i error after bound
          rw [bound] at ran
          exact ⟨ran.1, fun schema same => nomatch same⟩
      · exact ⟨keeps, fun schema same => nomatch same⟩

variable (inherits : site.Inherits good)

include inherits

theorem Keeps.good_of_compile {levels : Nat} {source : Source} (keeps : site.Keeps good cache)
    (compiled : (site.compileWithin levels source).outcome cache = (.ok schema, after)) :
    good schema :=
  (keeps.compileWithin inherits levels source).2 schema (congrArg Prod.fst compiled)

theorem Keeps.after_compile {levels : Nat} {source : Source} {result : Except CompileError Schema}
    (keeps : site.Keeps good cache)
    (compiled : (site.compileWithin levels source).outcome cache = (result, after)) :
    site.Keeps good after := by
  have kept := (keeps.compileWithin inherits levels source).1
  rwa [compiled] at kept

theorem Keeps.renew (keeps : site.Keeps good cache) (key : String) (schema : Schema) :
    site.Keeps good (site.renew key schema cache).2 := by
  unfold Site.renew
  split
  · rename_i fresh after compiled
    exact (keeps.after_compile inherits compiled).put (keeps.good_of_compile inherits compiled)
  · rename_i error after compiled
    exact (keeps.after_compile inherits compiled).remove key

theorem Keeps.refreshWithin {walk : Walk} {bound : Nat} {pending visited : List String}
    (keeps : site.Keeps good cache) :
    site.Keeps good (site.refreshWithin walk bound cache pending visited) :=
  refreshWithin_keeps (site.Keeps good) (fun _ _ => True)
    (fun _ keeps => keeps.renew inherits _ _) (fun _ _ _ => trivial) keeps

theorem Keeps.renewStale {keys : List String} {count : Nat} (keeps : site.Keeps good cache) :
    site.Keeps good (site.renewStale cache count keys).2 :=
  renewStale_keeps (site.Keeps good) (fun _ _ keeps => keeps.renew inherits _ _) keeps

end Site

namespace Environment

variable {environment : Environment} {walk : Walk} {good : Site → Schema → Prop}

/-- Whether a property of schemas and sites holds of the schemas of an environment. -/
def Keeps (good : Site → Schema → Prop) (environment : Environment) : Prop :=
  environment.site.Keeps (good environment.site) environment.cache

variable (inherits : ∀ site : Site, site.Inherits (good site))

include inherits

theorem Keeps.store {schema : Schema} (keeps : environment.Keeps good)
    (isGood : good environment.site schema) : (environment.store walk schema).Keeps good :=
  Site.Keeps.refreshWithin (inherits _) (Site.Keeps.put keeps isGood)

theorem Keeps.compile {source : Source} (keeps : environment.Keeps good) :
    (environment.compile walk source).2.Keeps good := by
  unfold Environment.compile
  split
  · rename_i schema after compiled
    have kept : Environment.Keeps good { environment with cache := after } :=
      Site.Keeps.after_compile (inherits _) keeps compiled
    exact kept.store inherits (Site.Keeps.good_of_compile (inherits _) keeps compiled)
  · rename_i error after compiled
    exact Site.Keeps.after_compile (inherits _) keeps compiled

theorem Keeps.revise {schema : Schema} {document : Value} (keeps : environment.Keeps good) :
    (environment.revise walk schema document).2.Keeps good := by
  unfold Environment.revise
  dsimp only
  split
  · rename_i revised after compiled
    have kept : Environment.Keeps good { environment with cache := after } :=
      Site.Keeps.after_compile (inherits _) keeps compiled
    have isGood := Site.Keeps.good_of_compile (inherits _) keeps compiled
    have dropped : Environment.Keeps good
        (Environment.dropSuperseded { environment with cache := after } schema) := by
      unfold Environment.dropSuperseded
      split
      · exact Site.Keeps.remove kept schema.name
      · exact kept
    refine dropped.store inherits ?_
    rw [site_dropSuperseded]
    exact isGood
  · rename_i error after compiled
    exact Site.Keeps.after_compile (inherits _) keeps compiled

theorem Keeps.recompile (keeps : environment.Keeps good) :
    (environment.recompile walk).2.Keeps good :=
  Site.Keeps.renewStale (inherits _) keeps

/-- A change of settings leaves no schema fresh, and those that are compiled again are good. -/
theorem Keeps.change {change : Change} (sound : environment.Sound) (keeps : environment.Keeps good) :
    (environment.change walk change).2.Keeps good := by
  unfold Environment.change
  split
  · exact keeps
  · apply Keeps.recompile inherits
    intro key schema found fresh
    exact absurd fresh (sound.not_isFresh_changed _ found)

theorem Keeps.perform {operation : Operation} (sound : environment.Sound)
    (keeps : environment.Keeps good) : (environment.perform walk operation).Keeps good := by
  cases operation with
  | build material name strict =>
      change (environment.build walk material name strict).2.Keeps good
      rcases build_cases environment walk material name strict with same | ⟨source, same, _⟩
      · rw [same]
        exact keeps
      · rw [same]
        exact keeps.compile inherits
  | revise schema document => exact keeps.revise inherits
  | remove name => exact Site.Keeps.remove keeps name
  | recompile => exact keeps.recompile inherits
  | change change => exact keeps.change inherits sound

/-- In every state, what passes from schemas to those built from them holds of all cached schemas. -/
theorem Reachable.keeps (reached : Reachable environment) : environment.Keeps good := by
  induction reached with
  | initial identity name constraints types config => exact fun key schema found => nomatch found
  | perform walk operation reached ih => exact ih.perform inherits reached.sound

end Environment

end Conformance
