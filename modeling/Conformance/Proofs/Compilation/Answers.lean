import Conformance.Proofs.Cache.Freshness
import Conformance.Proofs.Compilation.Reading
/-!
What scripts come to. With one answer to each question a script comes to one result or to none, whatever
the order of its questions. Where no cached schema is out of date, compilation answers in this way: a
document compiles to what its script comes to (`Site.rel_compiled?`).
-/

namespace Conformance

namespace Binding

variable {α β : Type} {inner : Value → Option Schema} {named : String → Option Schema}

/-- What a script comes to with the answers of two tables. -/
def answered (inner : Value → Option Schema) (named : String → Option Schema) : Binding α → Option α
  | .done result => some result
  | .failed _ => none
  | .inner document next => (inner document).bind fun schema => (next schema).answered inner named
  | .named name next => (named name).bind fun schema => (next schema).answered inner named

theorem answered_bind (script : Binding α) (next : α → Binding β) :
    (script >>= next).answered inner named =
      (script.answered inner named).bind fun result => (next result).answered inner named := by
  induction script with
  | done result => rfl
  | failed error => rfl
  | inner document rest ih =>
      change ((inner document).bind fun schema => (rest schema >>= next).answered inner named) =
        ((inner document).bind fun schema => (rest schema).answered inner named).bind _
      rw [Option.bind_assoc]
      exact congrArg (Option.bind _) (funext ih)
  | named name rest ih =>
      change ((named name).bind fun schema => (rest schema >>= next).answered inner named) =
        ((named name).bind fun schema => (rest schema).answered inner named).bind _
      rw [Option.bind_assoc]
      exact congrArg (Option.bind _) (funext ih)

theorem answered_map (script : Binding α) (f : α → β) :
    (script >>= fun result => pure (f result)).answered inner named =
      (script.answered inner named).map f := by
  rw [answered_bind]
  exact Option.map_eq_bind.symm

theorem answered_ofExcept (result : Except CompileError α) :
    (ofExcept result).answered inner named = result.toOption := by
  cases result <;> rfl

/-- A run that leaves the cache as it is comes to what its script comes to. -/
theorem answered_of_run {compile : Value → Compiling Schema} {resolve : String → Compiling Schema}
    {cache : Cache} (compileKeeps : ∀ document, ((compile document).outcome cache).2 = cache)
    (resolveKeeps : ∀ name, ((resolve name).outcome cache).2 = cache) (script : Binding α)
    (references : NameSet) :
    ((script.run compile resolve references).outcome cache).1.toOption.map Prod.fst =
      script.answered (fun document => ((compile document).outcome cache).1.toOption)
        fun name => ((resolve name).outcome cache).1.toOption := by
  induction script generalizing references with
  | done result => rfl
  | failed error => rfl
  | inner document next ih =>
      have kept := compileKeeps document
      rw [outcome_run_inner, answered]
      cases answer : (compile document).outcome cache with
      | mk result after =>
          rw [answer] at kept
          cases kept
          cases result with
          | error error => rfl
          | ok schema => exact ih schema _
  | named name next ih =>
      have kept := resolveKeeps name
      rw [outcome_run_named, answered]
      cases answer : (resolve name).outcome cache with
      | mk result after =>
          rw [answer] at kept
          cases kept
          cases result with
          | error error => rfl
          | ok schema => exact ih schema _

end Binding

namespace Context

open Binding

variable {inner : Value → Option Schema} {named : String → Option Schema} (context : Context)

theorem answered_subschemasOfItems (items : List Value) :
    (context.subschemasOfItems items).answered inner named =
      items.mapM fun item => (context.subschema item).answered inner named := by
  induction items with
  | nil => rfl
  | cons item items ih =>
      change (context.subschema item >>= fun part => context.subschemasOfItems items >>= fun parts =>
        pure (part :: parts)).answered inner named = _
      rw [answered_bind, mapM_cons_eq, ← ih]
      exact congrArg (Option.bind _) (funext fun part => answered_map _ _)

theorem answered_subschemasOfEntries (entries : List (String × Value)) :
    (context.subschemasOfEntries entries).answered inner named =
      entries.mapM fun entry =>
        ((context.subschema entry.2).answered inner named).map (Prod.mk entry.1) := by
  induction entries with
  | nil => rfl
  | cons entry entries ih =>
      change (context.subschema entry.2 >>= fun part => context.subschemasOfEntries entries >>=
        fun parts => pure ((entry.1, part) :: parts)).answered inner named = _
      rw [answered_bind, mapM_cons_eq, ← ih, Option.bind_map]
      exact congrArg (Option.bind _) (funext fun part => answered_map _ _)

theorem answered_dependenciesOfEntries (entries : List (String × Value)) :
    (context.dependenciesOfEntries entries).answered inner named =
      entries.mapM fun entry =>
        ((context.dependency entry.1 entry.2).answered inner named).map (Prod.mk entry.1) := by
  induction entries with
  | nil => rfl
  | cons entry entries ih =>
      change (context.dependency entry.1 entry.2 >>= fun demand =>
        context.dependenciesOfEntries entries >>= fun demands =>
          pure ((entry.1, demand) :: demands)).answered inner named = _
      rw [answered_bind, mapM_cons_eq, ← ih, Option.bind_map]
      exact congrArg (Option.bind _) (funext fun demand => answered_map _ _)

theorem items_eq_of_noList {value : Value} (noList : value.kind ≠ .array) :
    context.items value = context.subschema value >>= fun rest => pure (.items [] rest) := by
  cases value with
  | array items => exact absurd rfl noList
  | _ => rfl

/-- The rule on patterns, when the sub-schemas beside them are known. -/
def patternRule (context : Context) (schemas : List (String × Subschema)) : Binding Rule := do
  let patterns ← context.entryPatterns (Table.names schemas)
  pure (.patternEntries (patterns.zip (schemas.map Prod.snd)))

theorem patternEntries_eq (value : Value) :
    context.patternEntries value = context.subschemaTable value >>= context.patternRule := rfl

theorem answered_patternRule (schemas : List (String × Subschema)) :
    (context.patternRule schemas).answered inner named =
      (schemas.mapM fun entry => (context.entryPattern entry.1).toOption.map fun pattern =>
        (pattern, entry.2)).map Rule.patternEntries := by
  have zipped := mapM_zip (fun source => (context.entryPattern source).toOption) schemas
  rw [← zipped, Option.map_map]
  refine (answered_map _ _).trans ?_
  change Option.map _ ((Binding.ofExcept (context.entryPatterns (Table.names schemas))).answered inner
    named) = _
  rw [answered_ofExcept, toOption_entryPatterns_eq]
  rfl

/-- The constraint that one entry of a document introduces, if no entry before it does. -/
def bindEntry (context : Context) (entry : String × Value) : Binding (List Bound) :=
  match context.settings.constraints.resolve entry.1 with
  | none => if context.strict then .failed (.unknownConstraint entry.1) else pure []
  | some name =>
    if some name = context.typeName? then pure []
    else match context.settings.constraints.get name with
      | some definition => context.bindConstraint definition name entry.2
      | none => pure []

/-- The names of the constraints that the keys of entries denote. -/
def denoted (context : Context) (entries : List (String × Value)) : List String :=
  entries.filterMap fun entry => context.settings.constraints.resolve entry.1

variable {context} {entry : String × Value} {name : String}

theorem denoted_of_unknown (unknown : context.settings.constraints.resolve entry.1 = none)
    (entries : List (String × Value)) : context.denoted (entry :: entries) = context.denoted entries :=
  List.filterMap_cons_none unknown

theorem denoted_of_resolved (resolved : context.settings.constraints.resolve entry.1 = some name)
    (entries : List (String × Value)) :
    context.denoted (entry :: entries) = name :: context.denoted entries :=
  List.filterMap_cons_some resolved

theorem bindEntries_of_unknown (unknown : context.settings.constraints.resolve entry.1 = none)
    (seen : List String) (entries : List (String × Value)) :
    context.bindEntries seen (entry :: entries) =
      if context.strict then .failed (.unknownConstraint entry.1)
      else context.bindEntries seen entries := by
  rw [bindEntries, unknown]

theorem bindEntries_of_resolved (resolved : context.settings.constraints.resolve entry.1 = some name)
    (seen : List String) (entries : List (String × Value)) :
    context.bindEntries seen (entry :: entries) =
      if name ∈ seen then .failed (.malformedDocument (.repeated name))
      else context.bindEntry entry >>= fun first =>
        context.bindEntries (name :: seen) entries >>= fun others => pure (first ++ others) := by
  unfold bindEntry
  rw [bindEntries, resolved]
  dsimp only
  split
  · rfl
  · split
    · rfl
    · cases context.settings.constraints.get name <;> rfl

/-- Whether entries denote constraints that are different, and none of those that were seen. -/
def AreApart (context : Context) (seen : List String) (entries : List (String × Value)) : Prop :=
  (context.denoted entries).Nodup ∧ ∀ name ∈ context.denoted entries, name ∉ seen

instance (seen : List String) (entries : List (String × Value)) :
    Decidable (context.AreApart seen entries) :=
  inferInstanceAs (Decidable
    ((context.denoted entries).Nodup ∧ ∀ name ∈ context.denoted entries, name ∉ seen))

theorem areApart_of_unknown (unknown : context.settings.constraints.resolve entry.1 = none)
    (seen : List String) (entries : List (String × Value)) :
    context.AreApart seen (entry :: entries) ↔ context.AreApart seen entries := by
  unfold AreApart
  rw [denoted_of_unknown unknown]

theorem areApart_cons (resolved : context.settings.constraints.resolve entry.1 = some name)
    (seen : List String) (entries : List (String × Value)) :
    context.AreApart seen (entry :: entries) ↔
      name ∉ seen ∧ context.AreApart (name :: seen) entries := by
  unfold AreApart
  rw [denoted_of_resolved resolved, List.nodup_cons, List.forall_mem_cons]
  simp only [List.mem_cons, not_or]
  constructor
  · rintro ⟨⟨new, distinct⟩, unseen, apart⟩
    exact ⟨unseen, distinct, fun other member => ⟨fun same => new (same ▸ member), apart other member⟩⟩
  · rintro ⟨unseen, distinct, apart⟩
    exact ⟨⟨fun again => (apart name again).1 rfl, distinct⟩, unseen,
      fun other member => (apart other member).2⟩

/-- If entries denote different constraints, each is bound by itself; otherwise none is. -/
theorem answered_bindEntries (seen : List String) (entries : List (String × Value)) :
    (context.bindEntries seen entries).answered inner named =
      if context.AreApart seen entries then
        (entries.mapM fun entry => (context.bindEntry entry).answered inner named).map List.flatten
      else none := by
  induction entries generalizing seen with
  | nil => rfl
  | cons entry entries ih =>
      rw [mapM_cons_eq]
      cases resolved : context.settings.constraints.resolve entry.1 with
      | none =>
          have same := areApart_of_unknown resolved seen entries
          have bound : context.bindEntry entry =
              if context.strict then .failed (.unknownConstraint entry.1) else pure [] := by
            unfold bindEntry
            rw [resolved]
          rw [bindEntries_of_unknown resolved, bound, if_congr same rfl rfl]
          cases context.strict with
          | true => exact (ite_self _).symm
          | false =>
              rw [if_neg Bool.false_ne_true, if_neg Bool.false_ne_true, ih]
              refine if_congr Iff.rfl ?_ rfl
              change _ = (Option.map _ _).map _
              rw [Option.map_map]
              rfl
      | some name =>
          rw [bindEntries_of_resolved resolved, if_congr (areApart_cons resolved seen entries) rfl rfl]
          by_cases known : name ∈ seen
          · rw [if_pos known, if_neg fun both => both.1 known]
            rfl
          · rw [if_neg known, answered_bind]
            -- A name that comes again is noticed there only, when the entries before it were bound.
            by_cases apart : context.AreApart (name :: seen) entries
            · rw [if_pos ⟨known, apart⟩, Option.map_bind]
              refine congrArg (Option.bind _) (funext fun first => ?_)
              rw [answered_map, ih, if_pos apart, Function.comp_apply, Option.map_map, Option.map_map]
              rfl
            · rw [if_neg fun both => apart both.2]
              refine Option.bind_eq_none_iff.mpr fun first _ => ?_
              rw [answered_map, ih, if_neg apart]
              rfl

end Context

namespace Site

variable {site : Site} {source : Source} {cache : Cache}

/-- What a document compiles to within some levels, if it does, with a cache at hand. -/
def compiled? (site : Site) (cache : Cache) (levels : Nat) (source : Source) : Option Schema :=
  ((site.compileWithin levels source).outcome cache).1.toOption

/-- What a document compiles to is made of what its script comes to, if what stands inside compiles one
level below and names stand for cached schemas. -/
theorem rel_compiled? (allFresh : site.AllFresh cache) (levels : Nat)
    {entries : List (String × Value)} (isObject : source.document = .object entries) :
    Option.Rel (fun schema bound => ∃ references,
        schema = site.schema source bound.1 bound.2 references)
      (site.compiled? cache (levels + 1) source)
      ((site.context source entries).bindAll.answered
        (fun document => site.compiled? cache levels ⟨document, none, source.strict, 0⟩)
        (Table.lookup cache)) := by
  have named : (fun name => ((site.resolve (site.compileWithin levels) name).outcome
      cache).1.toOption) = Table.lookup cache := by
    funext name
    rw [outcome_resolve_of_allFresh _ _ allFresh]
    cases Table.lookup cache name <;> rfl
  have kept : ∀ document, ((site.compileWithin levels ⟨document, none, source.strict, 0⟩).outcome
      cache).2 = cache := fun document => compileWithin_of_allFresh rfl allFresh
  have keptNamed : ∀ name, ((site.resolve (site.compileWithin levels) name).outcome cache).2 =
      cache := fun name => congrArg Prod.snd (outcome_resolve_of_allFresh _ name allFresh)
  have comes := Binding.answered_of_run kept keptNamed (site.context source entries).bindAll []
  rw [named] at comes
  unfold compiled?
  rw [← comes]
  change Option.Rel _ ((site.compileWith (site.compileWithin levels) source).outcome
    cache).1.toOption _
  unfold compileWith
  rw [isObject]
  dsimp only
  rw [Compiling.outcome_bind]
  split
  · rename_i result after ran
    rw [ran]
    exact .some ⟨result.2, rfl⟩
  · rename_i error after ran
    rw [ran]
    exact .none

end Site

end Conformance
