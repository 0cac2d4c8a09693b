import Conformance.Proofs.Compilation.Uniformity
import Conformance.Proofs.Report.Leaves
/-!
Schemas of one document over two registries. Compilation asks a registry for nothing but what names denote
(`Registry.FindsLike.readsBeside`). If the registries find the same, the schemas differ in the registries
that they remember only, and do the same with every instance (`Site.compile_through`).
-/

namespace Conformance

namespace Schema

/-- Whether two schemas differ in the registries that they remember only: what they know of themselves is
the same otherwise, and so are the steps that instances go through. -/
structure Twins (schema schema' : Schema) : Prop where
  header : schema'.header = { schema.header with registry := schema'.header.registry }
  steps : stepsOf schema.constraints = stepsOf schema'.constraints

namespace Twins

variable {schema schema' : Schema} (twins : schema.Twins schema')

include twins

theorem name : schema.name = schema'.name := (congrArg Header.name twins.header).symm

theorem references : schema.references = schema'.references :=
  (congrArg Header.references twins.header).symm

theorem source : schema.source = schema'.source := by
  unfold Schema.source Schema.givenName Schema.named Schema.name Schema.document Schema.strict
    Schema.revision
  rw [twins.header]

theorem constraintNames : schema.constraintNames = schema'.constraintNames := by
  have names (constraints : List Bound) :
      constraints.map Bound.name = (stepsOf constraints).map Step.name := by
    rw [stepsOf_eq_map, List.map_map]
    exact List.map_congr_left fun bound _ => (Bound.name_step bound).symm
  unfold Schema.constraintNames
  rw [names, names, twins.steps]

theorem behaviour : schema.behaviour = schema'.behaviour := by
  have opened (schema : Schema) :
      schema.behaviour = Step.sequence schema.name (stepsOf schema.constraints) := by
    cases schema
    rfl
  rw [opened, opened, twins.name, twins.steps]

theorem validate (subject : Value) (isPartial : Bool) :
    schema.validate subject isPartial = schema'.validate subject isPartial := by
  unfold Schema.validate Schema.outcomes
  rw [twins.name, twins.steps]

theorem convert (subject : Value) (isPartial : Bool) :
    schema.convert subject isPartial = schema'.convert subject isPartial := by
  unfold Schema.convert
  rw [twins.behaviour]

end Twins

end Schema

/-- Rules side by side whose sub-schemas behave the same behave the same. -/
theorem Rule.Beside.behaviour_eq {rule rule' : Rule}
    (beside : rule.Beside (fun part part' => part.behaviour = part'.behaviour) rule') :
    rule.behaviour = rule'.behaviour := by
  have listed {κ α : Type} {entries entries' : List (κ × α)}
      (each : List.Forall₂ (AtKey Eq) entries entries') : entries = entries' := by
    rw [← List.forall₂_eq_eq_eq]
    exact each.imp fun _ _ both => Prod.ext both.1 both.2
  have option {choice choice' : Option Behaviour} (rel : Option.Rel Eq choice choice') :
      choice = choice' := by
    cases rel with
    | none => rfl
    | some same => rw [same]
  cases beside with
  | check check => rfl
  | items each others =>
      have branches := behaviours_beside each
      rw [List.forall₂_eq_eq_eq] at branches
      rw [behaviour, behaviour, branches, others]
  | contains held => exact congrArg Behaviour.contains held
  | entries each => exact congrArg Behaviour.entries (listed (entryBehaviours_beside each))
  | patternEntries each =>
      exact congrArg Behaviour.patternEntries (listed (patternBehaviours_beside each))
  | additionalEntries names patterns held => exact congrArg (Behaviour.additionalEntries names patterns) held
  | dependencies each =>
      exact congrArg Behaviour.dependencies (listed (demands_beside (fun _ => rfl)
        (fun _ _ same => congrArg Behaviour.Demand.whole same) each))
  | entryNames held => exact congrArg Behaviour.entryNames held
  | allOf each | anyOf each | oneOf each =>
      have branches := behaviours_beside each
      rw [List.forall₂_eq_eq_eq] at branches
      rw [behaviour, behaviour, branches]
  | negation held => exact congrArg Behaviour.negation held
  | conditional held first second =>
      rw [behaviour, behaviour, held, option (behaviour?_beside first), option (behaviour?_beside second)]
  | apply held => exact congrArg (Behaviour.under (.label "apply")) held

theorem Bound.Beside.step_eq {bound bound' : Bound} (beside : Bound.Beside Schema.Twins bound bound') :
    bound.step = bound'.step := by
  rcases beside with ⟨name, terminal, restriction, rules⟩
  have same := (rules.mono fun _ _ parts => parts.behaviour rfl rfl fun _ _ twins =>
    Schema.Twins.behaviour twins).behaviour_eq
  cases restriction with
  | none => rw [step, step, same]
  | some guard => rw [step, step, same]

/-- Whether two caches have the same schemas under the same names, but for the registries. -/
def Cache.Twins (cache cache' : Cache) : Prop := List.Forall₂ (AtKey Schema.Twins) cache cache'

namespace Cache.Twins

variable {cache cache' : Cache} (twins : cache.Twins cache')

include twins

theorem lookup (name : String) :
    Option.Rel Schema.Twins (Table.lookup cache name) (Table.lookup cache' name) := by
  induction twins with
  | nil => exact .none
  | @cons entry entry' _ _ first _ ih =>
      obtain ⟨key, schema⟩ := entry
      obtain ⟨_, schema'⟩ := entry'
      obtain ⟨rfl, held⟩ := first
      unfold Table.lookup
      split
      · exact .some held
      · exact ih

theorem put (name : String) {schema schema' : Schema} (fresh : schema.Twins schema') :
    Cache.Twins (Table.put cache name schema) (Table.put cache' name schema') := by
  induction twins with
  | nil => exact .cons ⟨rfl, fresh⟩ .nil
  | @cons entry entry' _ _ first rest ih =>
      obtain ⟨key, old⟩ := entry
      obtain ⟨_, old'⟩ := entry'
      obtain ⟨rfl, held⟩ := first
      unfold Table.put
      split
      · exact .cons ⟨rfl, fresh⟩ rest
      · exact .cons ⟨rfl, held⟩ ih

end Cache.Twins

/-- Settings that find constraints through another registry. -/
def Settings.through (settings : Settings) (registry : Registry) : Settings :=
  { settings with constraints := registry }

/-- Through a registry that finds the same, everything is read the same. -/
theorem Registry.FindsLike.readsBeside {context : Context} {registry : Registry}
    (alike : registry.FindsLike context.settings.constraints) :
    context.ReadsBeside Eq { context with settings := context.settings.through registry } := by
  have same (name : String) : context.sibling? name =
      { context with settings := context.settings.through registry }.sibling? name := by
    have resolved : (context.settings.through registry).constraints.resolve =
        context.settings.constraints.resolve := funext alike.resolve
    unfold Context.sibling? Registry.find?
    rw [resolved]
  refine ⟨fun _ => rfl, rfl, rfl, rfl, rfl, rfl, fun _ => rfl, alike, fun sibling _ => ?_, fun _ _ _ _ => same⟩
  rw [← same]
  cases context.sibling? sibling.1 with
  | none => exact .none
  | some value => exact .some (.refl _ _)

namespace Site

/-- A site that finds constraints through another registry. -/
def through (site : Site) (registry : Registry) : Site :=
  { site with settings := site.settings.through registry }

variable {site : Site} {registry : Registry} {cache cache' : Cache}

open Compiling

theorem resolve_through (site : Site) (registry : Registry) {compile compile' : Source → Compiling Schema}
    (each : ∀ source cache cache', Cache.Twins cache cache' → EndsAlike Schema.Twins Cache.Twins
      ((compile source).outcome cache) ((compile' source).outcome cache'))
    (twins : Cache.Twins cache cache') (name : String) :
    EndsAlike Schema.Twins Cache.Twins ((site.resolve compile name).outcome cache)
      (((site.through registry).resolve compile' name).outcome cache') := by
  have found := twins.lookup name
  rw [outcome_resolve, outcome_resolve]
  generalize Table.lookup cache name = cached at found ⊢
  generalize Table.lookup cache' name = cached' at found ⊢
  cases found with
  | none => exact .error _ twins
  | @some cached cached' both =>
      have fresh : (site.through registry).IsFresh cached' ↔ site.IsFresh cached := by
        unfold IsFresh
        rw [both.header]
        rfl
      have renewed := each cached.source cache cache' twins
      dsimp only
      rw [if_congr fresh rfl rfl, ← both.source]
      split
      · exact .ok both twins
      · generalize (compile cached.source).outcome cache = outcome at renewed ⊢
        generalize (compile' cached.source).outcome cache' = outcome' at renewed ⊢
        cases renewed with
        | error error kept => exact .error error kept
        | ok held kept => exact .ok held (kept.put name held)

/-- The induction is on the levels of the compilation. -/
theorem compileWithin_through (alike : registry.FindsLike site.settings.constraints) (levels : Nat)
    (source : Source) (twins : Cache.Twins cache cache') :
    EndsAlike Schema.Twins Cache.Twins ((site.compileWithin levels source).outcome cache)
      (((site.through registry).compileWithin levels source).outcome cache') := by
  induction levels generalizing source cache cache' with
  | zero => exact .error _ twins
  | succ levels ih =>
      unfold compileWithin
      cases isDocument : source.document with
      | object entries =>
          have inner (document document' : Value) (cache cache' : Cache) (same : document = document')
              (kept : Cache.Twins cache cache') : EndsAlike Schema.Twins Cache.Twins
                ((site.compileWithin levels ⟨document, none, source.strict, 0⟩).outcome cache)
                (((site.through registry).compileWithin levels
                  ⟨document', none, source.strict, 0⟩).outcome cache') := by
            rw [← same]
            exact ih _ kept
          refine compileWith_alike isDocument isDocument
            (@Registry.FindsLike.readsBeside (site.context source entries) registry alike)
            (.of_forall₂ (List.forall₂_same.mpr fun entry _ => .refl _ _ entry))
            (fun _ _ both => Schema.Twins.references both) inner
            (fun name _ _ kept =>
              site.resolve_through registry (fun source _ _ kept => ih source kept) kept name)
            (fun declared constraints constraints' references each => ⟨rfl, ?_⟩) twins
          have steps : stepsOf constraints = stepsOf constraints' := by
            rw [stepsOf_eq_map, stepsOf_eq_map, ← List.forall₂_eq_eq_eq]
            exact List.rel_map (fun _ _ beside => Bound.Beside.step_eq beside) each
          exact steps
      | _ =>
          unfold compileWith
          rw [isDocument]
          exact .error _ twins

/-- A document compiles alike through a registry that finds the same. -/
theorem compile_through (alike : registry.FindsLike site.settings.constraints) (source : Source)
    (twins : Cache.Twins cache cache') :
    EndsAlike Schema.Twins Cache.Twins ((site.compile source).outcome cache)
      (((site.through registry).compile source).outcome cache') :=
  compileWithin_through alike _ source twins

end Site

end Conformance
