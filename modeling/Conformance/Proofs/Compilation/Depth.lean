import Conformance.Proofs.Compilation.Run
import Conformance.Proofs.Value.Parts
/-!
The depth of compilations. A compilation at some depth asks for schemas that are compiled one level deeper: those
of the documents inside it, and those of names that are out of date, which may lead back to a document that is
being compiled. Nothing but the depth ends that. What comes of a compilation is described here with every
compilation that it calls for and without a bound on their number (`Site.CompilesAt`). Within the levels that are
left at a depth there is always an outcome (`Site.exists_compilesAt`), it is the only one, and no call is deeper
than one below the limit (`Site.CompilesAt.bounded`).
-/

namespace Conformance

/-- The compilation of a document at some depth. -/
structure Call where
  depth : Nat
  source : Source

/-- What is bound of a document: the kinds that it admits, and its constraints. -/
abbrev Bindings := Option KindSet × List Bound

namespace Site

/-- A document that stands inside another. -/
def inside (strict : Bool) (document : Value) : Source := ⟨document, none, strict, 0⟩

mutual

/-- What comes of the compilation of a document at a depth, and which compilations it calls for. The depth is
compared with the limit before anything else is looked at. -/
inductive CompilesAt (site : Site) :
    Nat → Source → Cache → List Call → Except CompileError Schema × Cache → Prop where
  | tooDeep {depth : Nat} {source : Source} {cache : Cache}
      (beyond : site.settings.config.maxDepth < depth) :
      CompilesAt site depth source cache []
        (.error (.recursionLimit site.settings.config.maxDepth), cache)
  | noMapping {depth : Nat} {source : Source} {cache : Cache}
      (within : depth ≤ site.settings.config.maxDepth) (other : source.document.kind ≠ .object) :
      CompilesAt site depth source cache []
        (.error (.malformedDocument (.notMapping source.document.kind)), cache)
  | bound {depth : Nat} {source : Source} {entries : List (String × Value)} {cache after : Cache}
      {calls : List Call} {declared : Option KindSet} {constraints : List Bound} {references : NameSet}
      (within : depth ≤ site.settings.config.maxDepth) (isObject : source.document = .object entries)
      (runs : RunsAt site depth source.strict [] (site.context source entries).bindAll cache calls
        (.ok ((declared, constraints), references), after)) :
      CompilesAt site depth source cache calls
        (.ok (site.schema source declared constraints references), after)
  | unbound {depth : Nat} {source : Source} {entries : List (String × Value)} {cache after : Cache}
      {calls : List Call} {error : CompileError}
      (within : depth ≤ site.settings.config.maxDepth) (isObject : source.document = .object entries)
      (runs : RunsAt site depth source.strict [] (site.context source entries).bindAll cache calls
        (.error error, after)) :
      CompilesAt site depth source cache calls (.error error, after)

/-- What comes of a script of a document at a depth. The schemas that it asks for are compiled one level deeper,
but for those of names that are up to date. -/
inductive RunsAt (site : Site) :
    Nat → Bool → NameSet → Binding Bindings → Cache → List Call →
      Except CompileError (Bindings × NameSet) × Cache → Prop where
  | done {depth : Nat} {strict : Bool} {references : NameSet} {result : Bindings} {cache : Cache} :
      RunsAt site depth strict references (.done result) cache [] (.ok (result, references), cache)
  | failed {depth : Nat} {strict : Bool} {references : NameSet} {error : CompileError} {cache : Cache} :
      RunsAt site depth strict references (.failed error) cache [] (.error error, cache)
  | inner {depth : Nat} {strict : Bool} {references : NameSet} {document : Value}
      {next : Schema → Binding Bindings} {cache between : Cache} {calls others : List Call} {schema : Schema}
      {outcome : Except CompileError (Bindings × NameSet) × Cache}
      (compiles : CompilesAt site (depth + 1) (inside strict document) cache calls (.ok schema, between))
      (rest : RunsAt site depth strict (NameSet.union references schema.references) (next schema) between
        others outcome) :
      RunsAt site depth strict references (.inner document next) cache
        (⟨depth + 1, inside strict document⟩ :: (calls ++ others)) outcome
  | innerFailed {depth : Nat} {strict : Bool} {references : NameSet} {document : Value}
      {next : Schema → Binding Bindings} {cache after : Cache} {calls : List Call} {error : CompileError}
      (compiles : CompilesAt site (depth + 1) (inside strict document) cache calls (.error error, after)) :
      RunsAt site depth strict references (.inner document next) cache
        (⟨depth + 1, inside strict document⟩ :: calls) (.error error, after)
  | unknown {depth : Nat} {strict : Bool} {references : NameSet} {name : String}
      {next : Schema → Binding Bindings} {cache : Cache} (absent : Table.lookup cache name = none) :
      RunsAt site depth strict references (.named name next) cache [] (.error (.unknownSchema name), cache)
  | current {depth : Nat} {strict : Bool} {references : NameSet} {name : String}
      {next : Schema → Binding Bindings} {cache : Cache} {calls : List Call} {cached : Schema}
      {outcome : Except CompileError (Bindings × NameSet) × Cache}
      (found : Table.lookup cache name = some cached) (fresh : site.IsFresh cached)
      (rest : RunsAt site depth strict (NameSet.insert name references) (next cached) cache calls outcome) :
      RunsAt site depth strict references (.named name next) cache calls outcome
  | renewed {depth : Nat} {strict : Bool} {references : NameSet} {name : String}
      {next : Schema → Binding Bindings} {cache between : Cache} {calls others : List Call}
      {cached fresh : Schema} {outcome : Except CompileError (Bindings × NameSet) × Cache}
      (found : Table.lookup cache name = some cached) (stale : ¬ site.IsFresh cached)
      (compiles : CompilesAt site (depth + 1) cached.source cache calls (.ok fresh, between))
      (rest : RunsAt site depth strict (NameSet.insert name references) (next fresh)
        (Table.put between name fresh) others outcome) :
      RunsAt site depth strict references (.named name next) cache
        (⟨depth + 1, cached.source⟩ :: (calls ++ others)) outcome
  | notRenewed {depth : Nat} {strict : Bool} {references : NameSet} {name : String}
      {next : Schema → Binding Bindings} {cache after : Cache} {calls : List Call} {cached : Schema}
      {error : CompileError} (found : Table.lookup cache name = some cached)
      (stale : ¬ site.IsFresh cached)
      (compiles : CompilesAt site (depth + 1) cached.source cache calls (.error error, after)) :
      RunsAt site depth strict references (.named name next) cache (⟨depth + 1, cached.source⟩ :: calls)
        (.error error, after)

end

variable {site : Site} {depth levels limit : Nat} {strict : Bool} {references : NameSet}
  {script : Binding Bindings} {cache : Cache} {source : Source} {calls : List Call}
  {compile : Source → Compiling Schema}

/-- How a script is run whose questions are answered by `compile`. -/
def answering (site : Site) (strict : Bool) (compile : Source → Compiling Schema) (script : Binding Bindings)
    (references : NameSet) : Compiling (Bindings × NameSet) :=
  script.run (fun document => compile (inside strict document)) (site.resolve compile) references

theorem compileWith_of_mapping {entries : List (String × Value)} (isObject : source.document = .object entries) :
    (site.compileWith compile source).outcome cache =
      match (site.answering source.strict compile (site.context source entries).bindAll []).outcome cache with
      | (.ok ((declared, constraints), references), after) =>
        (.ok (site.schema source declared constraints references), after)
      | (.error error, after) => (.error error, after) := by
  unfold compileWith
  rw [isObject]
  dsimp only
  rw [Compiling.outcome_bind]
  unfold answering inside
  rcases Compiling.outcome _ cache with ⟨_ | _, _⟩ <;> rfl

theorem compileWith_of_noMapping (other : source.document.kind ≠ .object) :
    (site.compileWith compile source).outcome cache =
      (.error (.malformedDocument (.notMapping source.document.kind)), cache) := by
  unfold compileWith
  split
  · rename_i entries isObject
    rw [isObject] at other
    exact absurd rfl other
  · rfl

section Outcomes

/-- Where everything that is compiled one level deeper has an outcome, so has every script. -/
theorem exists_runsAt
    (deeper : ∀ source cache, ∃ calls, site.CompilesAt (depth + 1) source cache calls
      ((compile source).outcome cache)) (strict : Bool) (script : Binding Bindings) (references : NameSet)
    (cache : Cache) :
    ∃ calls, site.RunsAt depth strict references script cache calls
      ((site.answering strict compile script references).outcome cache) := by
  unfold answering
  -- Each answer leaves another cache behind, so the rest of the script has to have an outcome over every cache.
  induction script generalizing references cache with
  | done result => exact ⟨[], .done⟩
  | failed error => exact ⟨[], .failed⟩
  | inner document next ih =>
      obtain ⟨calls, compiles⟩ := deeper (inside strict document) cache
      rw [Binding.outcome_run_inner]
      cases answered : (compile (inside strict document)).outcome cache with
      | mk answer between =>
          rw [answered] at compiles
          cases answer with
          | error error => exact ⟨_, .innerFailed compiles⟩
          | ok schema =>
              obtain ⟨others, rest⟩ := ih schema (NameSet.union references schema.references) between
              exact ⟨_, .inner compiles rest⟩
  | named name next ih =>
      rw [Binding.outcome_run_named, outcome_resolve]
      cases found : Table.lookup cache name with
      | none => exact ⟨[], .unknown found⟩
      | some cached =>
          dsimp only
          by_cases fresh : site.IsFresh cached
          · rw [if_pos fresh]
            obtain ⟨calls, rest⟩ := ih cached (NameSet.insert name references) cache
            exact ⟨calls, .current found fresh rest⟩
          · rw [if_neg fresh]
            obtain ⟨calls, compiles⟩ := deeper cached.source cache
            cases answered : (compile cached.source).outcome cache with
            | mk answer between =>
                rw [answered] at compiles
                cases answer with
                | error error => exact ⟨_, .notRenewed found fresh compiles⟩
                | ok schema =>
                    obtain ⟨others, rest⟩ :=
                      ih schema (NameSet.insert name references) (Table.put between name schema)
                    exact ⟨_, .renewed found fresh compiles rest⟩

/-- Every compilation has an outcome, which the levels that are left at its depth suffice for. The induction is
on these levels. -/
theorem exists_compilesAt (left : depth + levels = site.settings.config.maxDepth + 1) (source : Source)
    (cache : Cache) :
    ∃ calls, site.CompilesAt depth source cache calls ((site.compileWithin levels source).outcome cache) := by
  induction levels generalizing depth source cache with
  | zero => exact ⟨[], .tooDeep (by omega)⟩
  | succ levels ih =>
      have within : depth ≤ site.settings.config.maxDepth := by omega
      change ∃ calls, site.CompilesAt depth source cache calls
        ((site.compileWith (site.compileWithin levels) source).outcome cache)
      by_cases isMapping : source.document.kind = .object
      · have below : depth + 1 + levels = site.settings.config.maxDepth + 1 := by omega
        obtain ⟨entries, isObject⟩ := Value.exists_object_of_kind isMapping
        obtain ⟨calls, runs⟩ := exists_runsAt (ih below) source.strict
          (site.context source entries).bindAll [] cache
        rw [compileWith_of_mapping isObject]
        cases ran : (site.answering source.strict (site.compileWithin levels)
            (site.context source entries).bindAll []).outcome cache with
        | mk result after =>
            rw [ran] at runs
            cases result with
            | error error => exact ⟨calls, .unbound within isObject runs⟩
            | ok bound => exact ⟨calls, .bound within isObject runs⟩
      · rw [compileWith_of_noMapping isMapping]
        exact ⟨[], .noMapping within isMapping⟩

/-- Where what is compiled one level deeper has one outcome and calls for nothing beyond a limit, so it is with
every script. -/
theorem RunsAt.bounded {outcome : Except CompileError (Bindings × NameSet) × Cache}
    (deeper : ∀ source cache calls outcome, site.CompilesAt (depth + 1) source cache calls outcome →
      outcome = (compile source).outcome cache ∧ ∀ call ∈ calls, call.depth ≤ limit)
    (below : depth + 1 ≤ limit) (runs : site.RunsAt depth strict references script cache calls outcome) :
    outcome = (site.answering strict compile script references).outcome cache ∧
      ∀ call ∈ calls, call.depth ≤ limit := by
  unfold answering
  -- On the script and not on its run: runs are made along with compilations, of which `deeper` knows already.
  induction script generalizing references cache calls outcome with
  | done result =>
      cases runs
      exact ⟨rfl, List.forall_mem_nil _⟩
  | failed error =>
      cases runs
      exact ⟨rfl, List.forall_mem_nil _⟩
  | inner document next ih =>
      rw [Binding.outcome_run_inner]
      cases runs with
      | inner compiles rest =>
          obtain ⟨answered, called⟩ := deeper _ _ _ _ compiles
          obtain ⟨ran, others⟩ := ih _ rest
          rw [← answered]
          exact ⟨ran, List.forall_mem_cons.mpr ⟨below, List.forall_mem_append.mpr ⟨called, others⟩⟩⟩
      | innerFailed compiles =>
          obtain ⟨answered, called⟩ := deeper _ _ _ _ compiles
          rw [← answered]
          exact ⟨rfl, List.forall_mem_cons.mpr ⟨below, called⟩⟩
  | named name next ih =>
      rw [Binding.outcome_run_named, outcome_resolve]
      cases runs with
      | unknown absent =>
          rw [absent]
          exact ⟨rfl, List.forall_mem_nil _⟩
      | current found fresh rest =>
          obtain ⟨ran, called⟩ := ih _ rest
          rw [found]
          dsimp only
          rw [if_pos fresh]
          exact ⟨ran, called⟩
      | renewed found stale compiles rest =>
          obtain ⟨answered, called⟩ := deeper _ _ _ _ compiles
          obtain ⟨ran, others⟩ := ih _ rest
          rw [found]
          dsimp only
          rw [if_neg stale, ← answered]
          exact ⟨ran, List.forall_mem_cons.mpr ⟨below, List.forall_mem_append.mpr ⟨called, others⟩⟩⟩
      | notRenewed found stale compiles =>
          obtain ⟨answered, called⟩ := deeper _ _ _ _ compiles
          rw [found]
          dsimp only
          rw [if_neg stale, ← answered]
          exact ⟨rfl, List.forall_mem_cons.mpr ⟨below, called⟩⟩

/-- A compilation has one outcome, and no call is deeper than one below the limit. The induction is on the levels
that are left. -/
theorem CompilesAt.bounded {outcome : Except CompileError Schema × Cache}
    (left : depth + levels = site.settings.config.maxDepth + 1)
    (compiles : site.CompilesAt depth source cache calls outcome) :
    outcome = (site.compileWithin levels source).outcome cache ∧
      ∀ call ∈ calls, call.depth ≤ site.settings.config.maxDepth + 1 := by
  induction levels generalizing depth source cache calls outcome with
  | zero =>
      cases compiles with
      | tooDeep beyond => exact ⟨rfl, List.forall_mem_nil _⟩
      | noMapping within other => omega
      | bound within isObject runs => omega
      | unbound within isObject runs => omega
  | succ levels ih =>
      have deeper : ∀ source cache calls outcome, site.CompilesAt (depth + 1) source cache calls outcome →
          outcome = (site.compileWithin levels source).outcome cache ∧
            ∀ call ∈ calls, call.depth ≤ site.settings.config.maxDepth + 1 :=
        fun _ _ _ _ => ih (by omega)
      change outcome = (site.compileWith (site.compileWithin levels) source).outcome cache ∧ _
      cases compiles with
      | tooDeep beyond => omega
      | noMapping within other =>
          rw [compileWith_of_noMapping other]
          exact ⟨rfl, List.forall_mem_nil _⟩
      | bound within isObject runs =>
          obtain ⟨ran, called⟩ := runs.bounded deeper (by omega)
          rw [compileWith_of_mapping isObject, ← ran]
          exact ⟨rfl, called⟩
      | unbound within isObject runs =>
          obtain ⟨ran, called⟩ := runs.bounded deeper (by omega)
          rw [compileWith_of_mapping isObject, ← ran]
          exact ⟨rfl, called⟩

end Outcomes

end Site

end Conformance
