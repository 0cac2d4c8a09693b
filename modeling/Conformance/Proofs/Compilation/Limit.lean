import Conformance.Environment
import Conformance.Proofs.Compilation.Depth
import Conformance.Proofs.Compilation.Uniformity
/-!
The limit on depth. What a document asks for does not depend on the limit (`Site.bindAll_withDepth`), so that a
compilation goes the same way under a higher limit unless it ends at the lower one. It makes the same schema then,
or fails with the same error, whatever the cache holds (`Site.compile_bounded`).
-/

namespace Conformance

namespace Binding

variable {α : Type} {script script' : Binding α}

/-- Scripts that ask for the same and end with the same, whatever the answers are, are the same. -/
theorem Uniform.eq (uniform : Uniform Eq Eq Eq script script') : script = script' := by
  induction uniform with
  | done held => rw [held]
  | failed error => rfl
  | inner held _ ih =>
      rw [held]
      exact congrArg (Binding.inner _) (funext fun schema => ih schema schema rfl)
  | named _ ih => exact congrArg (Binding.named _) (funext fun schema => ih schema schema rfl)

theorem Uniform.mono {α' : Type} {script' : Binding α'} {asked : Value → Value → Prop}
    {answers : Schema → Schema → Prop} {ends ends' : α → α' → Prop}
    (uniform : Uniform asked answers ends script script')
    (weaker : ∀ result result', ends result result' → ends' result result') :
    Uniform asked answers ends' script script' := by
  induction uniform with
  | done held => exact .done (weaker _ _ held)
  | failed error => exact .failed error
  | inner held _ ih => exact .inner held ih
  | named _ ih => exact .named ih

end Binding

section Equality

variable {part part' : Subschema} {rule rule' : Rule} {bound bound' : Bound}

theorem Subschema.Beside.eq (beside : Subschema.Beside Eq part part') : part = part' := by
  cases beside with
  | accept | reject => rfl
  | schema held => rw [held]

theorem Dependency.Beside.eq {demand demand' : Dependency} (beside : Dependency.Beside Eq demand demand') :
    demand = demand' := by
  cases beside with
  | peers names => rfl
  | whole held => rw [held]

theorem eq_of_forall₂_atKey {κ α : Type} {related : α → α → Prop} {entries entries' : List (κ × α)}
    (each : List.Forall₂ (AtKey related) entries entries')
    (same : ∀ value value', related value value' → value = value') : entries = entries' := by
  rw [← List.forall₂_eq_eq_eq]
  exact each.imp fun entry entry' both => Prod.ext both.1 (same _ _ both.2)

/-- Rules side by side with the same sub-schemas are the same. -/
theorem Rule.Beside.eq (beside : rule.Beside (Subschema.Beside Eq) rule') : rule = rule' := by
  have parts := beside.mono fun _ _ => Subschema.Beside.eq
  have option {choice choice' : Option Subschema} (rel : Option.Rel Eq choice choice') :
      choice = choice' := by
    cases rel with
    | none => rfl
    | some same => rw [same]
  cases parts with
  | check check => rfl
  | items each others =>
      rw [List.forall₂_eq_eq_eq] at each
      rw [each, others]
  | contains held | additionalEntries _ _ held | entryNames held | negation held | apply held => rw [held]
  | entries each | patternEntries each => rw [eq_of_forall₂_atKey each fun _ _ => id]
  | dependencies each => rw [eq_of_forall₂_atKey each fun _ _ => Dependency.Beside.eq]
  | allOf each | anyOf each | oneOf each =>
      rw [List.forall₂_eq_eq_eq] at each
      rw [each]
  | conditional held first second => rw [held, option first, option second]

theorem Bound.Beside.eq (beside : Bound.Beside Eq bound bound') : bound = bound' := by
  cases beside with
  | mk name terminal restriction rules => rw [rules.eq]

end Equality

/-- Whether one compilation ends at the limit on depth, or another ends in the same way. -/
def Compiling.Reproduced {α : Type} (first second : Except CompileError α × Cache) : Prop :=
  (∃ limit, first.1 = .error (.recursionLimit limit)) ∨ second = first

/-- A run is reproduced if all its answers are. -/
theorem Binding.run_reproduced {α : Type} {inner inner' : Value → Compiling Schema}
    {named named' : String → Compiling Schema}
    (onInner : ∀ document cache, Compiling.Reproduced ((inner document).outcome cache)
      ((inner' document).outcome cache))
    (onNamed : ∀ name cache, Compiling.Reproduced ((named name).outcome cache)
      ((named' name).outcome cache))
    (script : Binding α) (references : NameSet) (cache : Cache) :
    Compiling.Reproduced ((script.run inner named references).outcome cache)
      ((script.run inner' named' references).outcome cache) := by
  induction script generalizing references cache with
  | done result => exact .inr rfl
  | failed error => exact .inr rfl
  | inner document next ih =>
      have answer := onInner document cache
      rw [outcome_run_inner, outcome_run_inner]
      generalize (inner document).outcome cache = outcome at answer ⊢
      obtain ⟨result, after⟩ := outcome
      rcases answer with ⟨limit, ended⟩ | same
      · cases ended
        exact .inl ⟨limit, rfl⟩
      · rw [same]
        cases result with
        | error error => exact .inr rfl
        | ok schema => exact ih schema _ after
  | named name next ih =>
      have answer := onNamed name cache
      rw [outcome_run_named, outcome_run_named]
      generalize (named name).outcome cache = outcome at answer ⊢
      obtain ⟨result, after⟩ := outcome
      rcases answer with ⟨limit, ended⟩ | same
      · cases ended
        exact .inl ⟨limit, rfl⟩
      · rw [same]
        cases result with
        | error error => exact .inr rfl
        | ok schema => exact ih schema _ after

namespace Site

/-- A site with another limit on depth. -/
def withDepth (site : Site) (limit : Nat) : Site :=
  { site with settings :=
      { site.settings with config := { site.settings.config with maxDepth := limit } } }

variable {site : Site} {limit levels : Nat}

theorem readsBeside_withDepth (site : Site) (limit : Nat) (source : Source) (entries : List (String × Value)) :
    (site.context source entries).ReadsBeside Eq ((site.withDepth limit).context source entries) where
  self := fun _ => rfl
  constraint := rfl
  strict := rfl
  declared := rfl
  types := rfl
  formats := rfl
  ignores := fun _ => rfl
  finds := ⟨fun _ => rfl, fun _ => rfl⟩
  siblings := by
    intro sibling _
    change Option.Rel _ ((site.context source entries).sibling? sibling.1)
      ((site.context source entries).sibling? sibling.1)
    cases (site.context source entries).sibling? sibling.1 with
    | none => exact .none
    | some value => exact .some (.refl _ _)
  probed := fun _ _ _ _ _ => rfl

/-- The limit does not change what a document asks for, nor what is bound of it. -/
theorem bindAll_withDepth (site : Site) (limit : Nat) (source : Source) (entries : List (String × Value)) :
    ((site.withDepth limit).context source entries).bindAll = (site.context source entries).bindAll := by
  have uniform : Binding.Uniform Eq Eq (AtKey (List.Forall₂ (Bound.Beside Eq)))
      (site.context source entries).bindAll ((site.withDepth limit).context source entries).bindAll :=
    (site.readsBeside_withDepth limit source entries).uniform_bindAll
      (.of_forall₂ (List.forall₂_same.mpr fun entry _ => .refl _ _ entry))
  refine (uniform.mono fun result result' both => Prod.ext both.1 ?_).eq.symm
  rw [← List.forall₂_eq_eq_eq]
  exact both.2.imp fun _ _ => Bound.Beside.eq

open Compiling

theorem resolve_reproduced {compile compile' : Source → Compiling Schema}
    (each : ∀ source cache, Reproduced ((compile source).outcome cache) ((compile' source).outcome cache))
    (name : String) (cache : Cache) :
    Reproduced ((site.resolve compile name).outcome cache)
      (((site.withDepth limit).resolve compile' name).outcome cache) := by
  rw [outcome_resolve, outcome_resolve]
  cases Table.lookup cache name with
  | none => exact .inr rfl
  | some cached =>
      have fresh : (site.withDepth limit).IsFresh cached ↔ site.IsFresh cached := Iff.rfl
      dsimp only
      rw [if_congr fresh rfl rfl]
      split
      · exact .inr rfl
      · have renewed := each cached.source cache
        generalize (compile cached.source).outcome cache = outcome at renewed ⊢
        obtain ⟨result, after⟩ := outcome
        rcases renewed with ⟨bound, ended⟩ | same
        · cases ended
          exact .inl ⟨bound, rfl⟩
        · rw [same]
          cases result <;> exact .inr rfl

/-- Within more levels and under another limit a compilation goes the same way, unless it runs out of levels. -/
theorem compileWithin_reproduced (site : Site) (limit levels more : Nat) (source : Source) (cache : Cache) :
    Reproduced ((site.compileWithin levels source).outcome cache)
      (((site.withDepth limit).compileWithin (levels + more) source).outcome cache) := by
  induction levels generalizing source cache with
  | zero => exact .inl ⟨_, rfl⟩
  | succ levels ih =>
      rw [Nat.succ_add]
      unfold compileWithin
      by_cases isMapping : source.document.kind = .object
      · obtain ⟨entries, isObject⟩ := Value.exists_object_of_kind isMapping
        -- Both run the same script, since what a document asks for does not depend on the limit.
        have ran : Reproduced
            ((site.answering source.strict (site.compileWithin levels)
              (site.context source entries).bindAll []).outcome cache)
            (((site.withDepth limit).answering source.strict
              ((site.withDepth limit).compileWithin (levels + more))
              ((site.withDepth limit).context source entries).bindAll []).outcome cache) := by
          rw [bindAll_withDepth]
          exact Binding.run_reproduced (fun document => ih (inside source.strict document))
            (resolve_reproduced ih) _ _ cache
        rw [compileWith_of_mapping isObject, compileWith_of_mapping isObject]
        generalize (site.answering source.strict _ _ []).outcome cache = outcome at ran ⊢
        obtain ⟨result, after⟩ := outcome
        rcases ran with ⟨bound, ended⟩ | same
        · cases ended
          exact .inl ⟨bound, rfl⟩
        · rw [same]
          cases result <;> exact .inr rfl
      · rw [compileWith_of_noMapping isMapping, compileWith_of_noMapping isMapping]
        exact .inr rfl

/-- Compilation at depth zero has one outcome, whatever the cache holds, and no compilation that it calls for is
deeper than one below the limit. A higher limit changes neither a schema nor any error but that of the limit. -/
theorem compile_bounded (site : Site) (source : Source) (cache : Cache) :
    (∃ calls, site.CompilesAt 0 source cache calls ((site.compile source).outcome cache)) ∧
    (∀ calls outcome, site.CompilesAt 0 source cache calls outcome →
      outcome = (site.compile source).outcome cache ∧
        ∀ call ∈ calls, call.depth ≤ site.settings.config.maxDepth + 1) ∧
    ∀ limit, site.settings.config.maxDepth ≤ limit →
      (∀ schema after, (site.compile source).outcome cache = (.ok schema, after) →
        ((site.withDepth limit).compile source).outcome cache = (.ok schema, after)) ∧
      ∀ error after, (site.compile source).outcome cache = (.error error, after) →
        (∀ depth, error ≠ .recursionLimit depth) →
        ((site.withDepth limit).compile source).outcome cache = (.error error, after) := by
  have whole : 0 + (site.settings.config.maxDepth + 1) = site.settings.config.maxDepth + 1 := Nat.zero_add _
  refine ⟨exists_compilesAt whole source cache, fun calls outcome => CompilesAt.bounded whole, ?_⟩
  intro limit higher
  have reproduced : Reproduced ((site.compile source).outcome cache)
      (((site.withDepth limit).compile source).outcome cache) := by
    obtain ⟨more, rfl⟩ := Nat.exists_eq_add_of_le higher
    have again := site.compileWithin_reproduced (site.settings.config.maxDepth + more)
      (site.settings.config.maxDepth + 1) more source cache
    rwa [Nat.add_right_comm] at again
  rcases reproduced with ⟨depth, ended⟩ | same
  · constructor
    · intro schema after compiled
      rw [compiled] at ended
      cases ended
    · intro error after failed other
      rw [failed] at ended
      cases ended
      exact absurd rfl (other depth)
  · rw [same]
    exact ⟨fun _ _ => id, fun _ _ failed _ => failed⟩

/-- A site whose documents nest at most once. -/
def shallow : Site := (Environment.native 0).site.withDepth 1

/-- A document that excludes what another asks for. -/
def excluding (inner : Value) : Source := ⟨.object [("not", inner)], none, true, 0⟩

/-- A cache in which two schemas, made of documents that name each other, are out of date. -/
def circular : Cache :=
  let header (name other : String) : Header :=
    { name := name, named := true, document := .object [("not", .string other)], digest := "", environment := 0,
      environmentRevision := 7, strict := true, declared := none, revision := 0, registry := Registry.base,
      references := [other] }
  [("left", .mk (header "left" "right") []), ("right", .mk (header "right" "left") [])]

/-- Names that lead around in a circle end at the limit; a document that nests once compiles, and one with an
unknown constraint fails, under every higher limit as well. -/
theorem compile_bounded_shallow :
    (∃ calls outcome, shallow.CompilesAt 0 (excluding (.string "left")) circular calls outcome ∧
      outcome.1 = .error (.recursionLimit 1) ∧ ∀ call ∈ calls, call.depth ≤ 2) ∧
    (∃ schema after, (shallow.compile (excluding (.object []))).outcome [] = (.ok schema, after) ∧
      ((shallow.withDepth 5).compile (excluding (.object []))).outcome [] = (.ok schema, after)) ∧
    ∃ after, (shallow.compile (excluding (.object [("", .null)]))).outcome [] =
        (.error (.unknownConstraint ""), after) ∧
      ((shallow.withDepth 5).compile (excluding (.object [("", .null)]))).outcome [] =
        (.error (.unknownConstraint ""), after) := by
  refine ⟨?circle, ?nested, ?unknown⟩
  case circle =>
    obtain ⟨⟨calls, compiles⟩, only, _⟩ := compile_bounded shallow (excluding (.string "left")) circular
    refine ⟨calls, _, compiles, ?_, (only _ _ compiles).2⟩
    unfold shallow Environment.native
    rw [Registry.base_eq]
    rfl
  case nested =>
    obtain ⟨schema, after, compiled, _⟩ := Compiling.exists_of_observed
      (show ((shallow.compile (excluding (.object []))).outcome []).1.toOption.map Schema.strict = some true by
        unfold shallow Environment.native
        rw [Registry.base_eq]
        decide +kernel)
    obtain ⟨_, _, higher⟩ := compile_bounded shallow (excluding (.object [])) []
    exact ⟨schema, after, compiled, (higher 5 (by decide)).1 schema after compiled⟩
  case unknown =>
    have failed : (shallow.compile (excluding (.object [("", .null)]))).outcome [] =
        (.error (.unknownConstraint ""), []) := by
      unfold shallow Environment.native
      rw [Registry.base_eq]
      rfl
    obtain ⟨_, _, higher⟩ := compile_bounded shallow (excluding (.object [("", .null)])) []
    exact ⟨[], failed, (higher 5 (by decide)).2 _ _ failed nofun⟩

end Site

end Conformance
