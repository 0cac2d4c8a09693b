import Conformance.Proofs.Compilation.Postcondition
import Conformance.Proofs.Results
/-!
The sort of rule that a meaning stands for. What a script binds for a constraint is a rule of the
constraint's own sort (`Context.yields_shape_rule`), whatever schemas it gets.
-/

namespace Conformance

/-- Whether a rule is of the sort that a meaning stands for: a choice has alternatives, and a check is the
one that the constraint's value is read as. -/
def Rule.IsOf (context : Context) (meaning : Meaning) (value : Value) : Rule → Prop
  | .check rule => context.check meaning value = .ok (some rule)
  | .items _ _ => meaning = .items
  | .contains _ => meaning = .contains
  | .entries _ => meaning = .entries
  | .patternEntries _ => meaning = .patternEntries
  | .additionalEntries _ _ _ => meaning = .additionalEntries
  | .dependencies _ => meaning = .dependencies
  | .entryNames _ => meaning = .entryNames
  | .allOf _ => meaning = .allOf
  | .anyOf branches => meaning = .anyOf ∧ branches ≠ []
  | .oneOf branches => meaning = .oneOf ∧ branches ≠ []
  | .negation _ => meaning = .negation
  | .conditional _ _ _ => meaning = .conditional
  | .apply _ => meaning = .apply

namespace Context

section

variable {context : Context} {meaning : Meaning} {value : Value}

theorem value_of_among {choices : List Value}
    (read : context.check meaning value = .ok (some (.among choices))) : value = .array choices := by
  unfold check at read
  split at read
  all_goals grind [map_eq_ok]

theorem value_of_constant {expected : Value}
    (read : context.check meaning value = .ok (some (.constant expected))) : value = expected := by
  unfold check at read
  split at read
  all_goals grind [map_eq_ok]

end

variable (context : Context) {good : Value → Schema → Prop} {known : String → Schema → Prop}

theorem yields_shape_items (value : Value) : (context.items value).Yields good known fun rule =>
    rule.IsOf context .items value := by
  unfold items
  split
  · refine (Binding.yields_trivial _).bind fun positional _ => ?_
    exact (Binding.yields_trivial _).bind fun rest _ => rfl
  · exact (Binding.yields_trivial _).bind fun rest _ => rfl

theorem yields_shape_patternEntries (value : Value) :
    (context.patternEntries value).Yields good known fun rule =>
      rule.IsOf context .patternEntries value := by
  refine (Binding.yields_trivial _).bind fun schemas _ => ?_
  exact (Binding.yields_trivial _).bind fun patterns _ => rfl

theorem yields_shape_additionalEntries (value : Value) :
    (context.additionalEntries value).Yields good known fun rule =>
      rule.IsOf context .additionalEntries value := by
  refine (Binding.yields_trivial _).bind fun entry _ => ?_
  exact (Binding.yields_trivial _).bind fun patterns _ => rfl

theorem yields_shape_dependencies (value : Value) :
    (context.dependencies value).Yields good known fun rule =>
      rule.IsOf context .dependencies value := by
  unfold dependencies
  split
  · exact (Binding.yields_trivial _).bind fun demands _ => rfl
  · trivial

theorem yields_shape_conditional (value : Value) :
    (context.conditional value).Yields good known fun rule? =>
      ∀ rule, rule? = some rule → rule.IsOf context .conditional value := by
  refine (Binding.yields_trivial _).bind fun condition _ => ?_
  refine (Binding.yields_trivial _).bind fun positive _ => ?_
  refine (Binding.yields_trivial _).bind fun negative _ => ?_
  intro rule same
  split at same
  · cases same
  · cases same
    rfl

/-- A list of alternatives is not empty. -/
theorem yields_shape_subschemas (value : Value) :
    (context.subschemas value).Yields good known fun parts => parts ≠ [] := by
  unfold subschemas
  split
  · refine (Binding.yields_trivial _).bind fun first _ => ?_
    exact (Binding.yields_trivial _).bind fun rest _ => List.cons_ne_nil first rest
  · trivial

/-- What is bound for a constraint is a rule of the sort that its meaning stands for. -/
theorem yields_shape_rule (meaning : Meaning) (value : Value) :
    (context.rule meaning value).Yields good known fun rule? =>
      ∀ rule, rule? = some rule → rule.IsOf context meaning value := by
  have whole {meaning : Meaning} {script : Binding Rule}
      (yields : script.Yields good known fun rule => rule.IsOf context meaning value) :
      (some <$> script).Yields good known fun rule? =>
        ∀ rule, rule? = some rule → rule.IsOf context meaning value := by
    refine yields.bind fun rule isOf => ?_
    rintro other ⟨⟩
    exact isOf
  have built {meaning : Meaning} {α : Type} {script : Binding α} {make : α → Rule}
      (isOf : ∀ part, (make part).IsOf context meaning value) :
      (script >>= fun part => pure (some (make part))).Yields good known fun rule? =>
        ∀ rule, rule? = some rule → rule.IsOf context meaning value := by
    refine (Binding.yields_trivial _).bind fun part _ => ?_
    rintro other ⟨⟩
    exact isOf part
  have chosen {meaning : Meaning} {make : List Subschema → Rule}
      (isOf : ∀ parts, parts ≠ [] → (make parts).IsOf context meaning value) :
      (context.subschemas value >>= fun parts => pure (some (make parts))).Yields good known
        fun rule? => ∀ rule, rule? = some rule → rule.IsOf context meaning value := by
    refine (context.yields_shape_subschemas value).bind fun parts some => ?_
    rintro other ⟨⟩
    exact isOf parts some
  unfold rule
  split
  · exact fun rule absent => nomatch absent
  · exact whole (context.yields_shape_items value)
  · exact built fun _ => rfl
  · exact built fun _ => rfl
  · exact whole (context.yields_shape_patternEntries value)
  · exact whole (context.yields_shape_additionalEntries value)
  · exact whole (context.yields_shape_dependencies value)
  · exact built fun _ => rfl
  · exact built fun _ => rfl
  · exact chosen fun _ some => ⟨rfl, some⟩
  · exact chosen fun _ some => ⟨rfl, some⟩
  · exact built fun _ => rfl
  · exact context.yields_shape_conditional value
  · exact built fun _ => rfl
  · refine (Binding.yields_ofExcept fun check read => read).bind fun check? read => ?_
    intro rule same
    obtain ⟨check, rfl, rfl⟩ := Option.map_eq_some_iff.mp same
    exact read

theorem ensures_shape_rule (meaning : Meaning) (value : Value) :
    (context.rule meaning value).Ensures good fun rule? =>
      ∀ rule, rule? = some rule → rule.IsOf context meaning value :=
  Binding.Yields.ensures (context.yields_shape_rule meaning value : Binding.Yields _ (fun _ _ => False) _ _)

end Context

end Conformance
