import Conformance.Proofs.Compilation.Shape
import Conformance.Proofs.Compilation.Spelling
import Conformance.Proofs.Relaxation.Beside
/-!
Names and the rules that they stand for. In the built-in registries some sorts of rules are bound under one
name only, so that a document without any spelling of the name has no such rule. The sub-schemas of a rule
whose refusal may let an instance pass stand in the constraint's own value, never in that of a sibling
(`Context.ensures_deciding_rule`).
-/

namespace Conformance

namespace Registry

/-- Names that stand for a meaning of their own. -/
def namedMeanings : List (String × Meaning) :=
  [("required", .required), ("dependencies", .dependencies), ("any_of", .anyOf), ("one_of", .oneOf),
    ("not", .negation), ("if", .conditional)]

/-- Whether all constraints with one of these meanings are spelled by the name. -/
def NamesMeanings (registry : Registry) : Prop :=
  ∀ named ∈ namedMeanings, ∀ entry ∈ registry.definitions, entry.2.meaning = named.2 →
    registry.resolve named.1 = some entry.1

instance (registry : Registry) : Decidable registry.NamesMeanings :=
  inferInstanceAs (Decidable (∀ named ∈ namedMeanings, ∀ entry ∈ registry.definitions,
    entry.2.meaning = named.2 → registry.resolve named.1 = some entry.1))

theorem namesMeanings_base : base.NamesMeanings := by
  rw [base_eq]
  decide +kernel

theorem namesMeanings_jsonSchema : jsonSchema.NamesMeanings := by
  rw [jsonSchema_eq]
  decide +kernel

/-- Whether no key of a document spells one of some names. -/
def Lacks (registry : Registry) (names : List String) (entries : List (String × Value)) : Prop :=
  ∀ entry ∈ entries, ∀ name ∈ names, registry.spells name entry.1 = false

instance (registry : Registry) (names : List String) (entries : List (String × Value)) :
    Decidable (registry.Lacks names entries) :=
  inferInstanceAs (Decidable (∀ entry ∈ entries, ∀ name ∈ names, registry.spells name entry.1 = false))

variable {registry : Registry} {entries : List (String × Value)} {entry : String × Value}
  {name own : String} {definition : Definition}

theorem spells_of_meaning (canonical : registry.IsCanonical) (names : registry.NamesMeanings)
    (resolved : registry.resolve entry.1 = some own) (defined : registry.get own = some definition)
    (listed : (name, definition.meaning) ∈ namedMeanings) : registry.spells name entry.1 = true := by
  have member := Table.mem_of_lookup (canonical.lookup_of_get resolved defined)
  have target : registry.resolve name = some own := names _ listed (own, definition) member rfl
  unfold spells
  rw [target]
  exact beq_iff_eq.mpr resolved

theorem Lacks.mono {names names' : List String} (lacks : registry.Lacks names entries)
    (fewer : ∀ name ∈ names', name ∈ names) : registry.Lacks names' entries :=
  fun entry member name listed => lacks entry member name (fewer name listed)

/-- A document that lacks a name has no constraint with the meaning of the name. -/
theorem Lacks.meaning_ne {names : List String} (lacks : registry.Lacks names entries)
    (canonical : registry.IsCanonical) (meanings : registry.NamesMeanings) (member : entry ∈ entries)
    (resolved : registry.resolve entry.1 = some own) (defined : registry.get own = some definition)
    {meaning : Meaning} (named : (name, meaning) ∈ namedMeanings) (listed : name ∈ names) :
    definition.meaning ≠ meaning := by
  rintro rfl
  have spelled := spells_of_meaning canonical meanings resolved defined named
  exact Bool.false_ne_true ((lacks entry member name listed).symm.trans spelled)

end Registry

namespace Rule

variable {rule : Rule} {context : Context} {meaning : Meaning} {value : Value}

theorem IsOf.meaning_of_deciding (isOf : rule.IsOf context meaning value) {part : Subschema}
    (member : part ∈ rule.deciding) :
    meaning = .oneOf ∨ meaning = .negation ∨ meaning = .conditional := by
  cases rule with
  | oneOf branches => exact .inl isOf.1
  | negation excluded => exact .inr (.inl isOf)
  | conditional condition positive negative => exact .inr (.inr isOf)
  | _ => cases member

/-- The names of the constraints whose sub-schemas may let an instance pass by refusing it. -/
def decidingNames : List String := ["not", "one_of", "if"]

theorem IsOf.named_of_deciding (isOf : rule.IsOf context meaning value) {part : Subschema}
    (member : part ∈ rule.deciding) :
    ∃ name ∈ decidingNames, (name, meaning) ∈ Registry.namedMeanings := by
  rcases isOf.meaning_of_deciding member with rfl | rfl | rfl
  · exact ⟨"one_of", by decide, by decide⟩
  · exact ⟨"not", by decide, by decide⟩
  · exact ⟨"if", by decide, by decide⟩

theorem IsOf.named_of_alternatives (isOf : rule.IsOf context meaning value) {part : Subschema}
    (member : part ∈ rule.alternatives) : ("any_of", meaning) ∈ Registry.namedMeanings := by
  cases rule with
  | anyOf branches =>
      obtain ⟨rfl, _⟩ := isOf
      decide
  | _ => cases member

end Rule

namespace Context

variable (context : Context) {good : Value → Schema → Prop}

/-- What a script gets for the value of a constraint is good for what stands in that value. -/
theorem ensures_located_subschema (value : Value) :
    (context.subschema value).Ensures good fun part =>
      part.Holds fun schema => ∃ document ∈ [value], good document schema := by
  refine (context.yields_subschemas_subschema value).ensures.among (context.asksAmong_subschema value) ?_
  exact fun document member schema isGood => ⟨document, member, isGood⟩

theorem ensures_located_subschemas (value : Value) :
    (context.subschemas value).Ensures good fun parts => ∀ part ∈ parts,
      part.Holds fun schema => ∃ document ∈ Layout.list.subschemas value, good document schema := by
  refine (context.yields_subschemas_list value).ensures.among (context.asksAmong_subschemas value) ?_
  exact fun document member schema isGood => ⟨document, member, isGood⟩

/-- All sub-schemas of a rule are good for what stands at the sub-schema positions of the document. -/
theorem ensures_located_rule {meaning : Meaning} {value : Value}
    (own : ∀ document ∈ meaning.layout.subschemas value,
      document ∈ context.settings.constraints.subschemas context.entries) :
    (context.rule meaning value).Ensures good fun rule? => ∀ rule, rule? = some rule →
      rule.BuiltOf fun schema =>
        ∃ document ∈ context.settings.constraints.subschemas context.entries, good document schema := by
  refine (context.yields_subschemas_rule meaning value).ensures.among
    (context.asksAmong_rule meaning value own fun document member => member) ?_
  exact fun document member schema isGood => ⟨document, member, isGood⟩

/-- The sub-schemas whose refusal may let an instance pass are good for what stands in the constraint's
own value. -/
theorem ensures_deciding_rule (meaning : Meaning) (value : Value) :
    (context.rule meaning value).Ensures good fun rule? => ∀ rule, rule? = some rule →
      ∀ part ∈ rule.deciding, part.Holds fun schema =>
        ∃ document ∈ meaning.layout.subschemas value, good document schema := by
  cases meaning with
  | negation =>
      refine (context.ensures_located_subschema value).bind fun part held => ?_
      rintro rule ⟨⟩
      exact List.forall_mem_singleton.mpr held
  | oneOf =>
      refine (context.ensures_located_subschemas value).bind fun parts held => ?_
      rintro rule ⟨⟩
      exact held
  | conditional =>
      refine (context.ensures_located_subschema value).bind fun condition held => ?_
      refine (Binding.ensures_trivial _).bind fun positive _ => ?_
      refine (Binding.ensures_trivial _).bind fun negative _ => ?_
      intro rule same
      split at same
      · cases same
      · cases same
        exact List.forall_mem_singleton.mpr held
  | _ =>
      refine (context.ensures_shape_rule _ value).mono fun rule? isOf rule same part member => ?_
      rcases (isOf rule same).meaning_of_deciding member with other | other | other
      · cases other
      · cases other
      · cases other

end Context

end Conformance
