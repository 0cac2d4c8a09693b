import Conformance.Proofs.Compilation.Subschemas
import Conformance.Proofs.Relaxation.Completion
/-!
Rules side by side. Two rules are of one sort and have related sub-schemas at the same positions if they
were made in the same way of different schemas (`Rule.Beside`). Whatever passes from the sub-schemas to the
rule is read off there: that one rule eases the other, and that it completes it.
-/

namespace Conformance

/-- Whether the same truth value stands at the positions of two sub-schemas, or related schemas do. -/
inductive Subschema.Beside (related : Schema → Schema → Prop) : Subschema → Subschema → Prop
  | accept : Beside related .accept .accept
  | reject : Beside related .reject .reject
  | schema {schema schema' : Schema} (held : related schema schema') :
      Beside related (.schema schema) (.schema schema')

/-- What holds between the same truth values and between related schemas, of their behaviours. -/
theorem Subschema.Beside.behaviour {held : Schema → Schema → Prop}
    {related : Behaviour → Behaviour → Prop} {part part' : Subschema}
    (beside : Subschema.Beside held part part')
    (accept : related .pass .pass) (reject : related .refuse .refuse)
    (each : ∀ schema schema', held schema schema' → related schema.behaviour schema'.behaviour) :
    related part.behaviour part'.behaviour := by
  cases beside with
  | accept => exact accept
  | reject => exact reject
  | schema both => exact each _ _ both

/-- Whether two dependencies ask for the same peers or have related sub-schemas. -/
inductive Dependency.Beside (parts : Subschema → Subschema → Prop) : Dependency → Dependency → Prop
  | peers (names : List String) : Beside parts (.peers names) (.peers names)
  | whole {part part' : Subschema} (held : parts part part') :
      Beside parts (.whole part) (.whole part')

/-- Whether two rules are of one sort, with the same data and with related sub-schemas at the same
positions. -/
inductive Rule.Beside (parts : Subschema → Subschema → Prop) : Rule → Rule → Prop
  | check (check : Check) : Beside parts (.check check) (.check check)
  | items {positional positional' : List Subschema} {rest rest' : Subschema}
      (each : List.Forall₂ parts positional positional') (others : parts rest rest') :
      Beside parts (.items positional rest) (.items positional' rest')
  | contains {item item' : Subschema} (held : parts item item') :
      Beside parts (.contains item) (.contains item')
  | entries {listed listed' : List (String × Subschema)}
      (each : List.Forall₂ (AtKey parts) listed listed') :
      Beside parts (.entries listed) (.entries listed')
  | patternEntries {listed listed' : List (Pattern × Subschema)}
      (each : List.Forall₂ (AtKey parts) listed listed') :
      Beside parts (.patternEntries listed) (.patternEntries listed')
  | additionalEntries (listed : List String) (patterns : List Pattern) {entry entry' : Subschema}
      (held : parts entry entry') :
      Beside parts (.additionalEntries listed patterns entry)
        (.additionalEntries listed patterns entry')
  | dependencies {demands demands' : List (String × Dependency)}
      (each : List.Forall₂ (AtKey (Dependency.Beside parts)) demands demands') :
      Beside parts (.dependencies demands) (.dependencies demands')
  | entryNames {name name' : Subschema} (held : parts name name') :
      Beside parts (.entryNames name) (.entryNames name')
  | allOf {branches branches' : List Subschema} (each : List.Forall₂ parts branches branches') :
      Beside parts (.allOf branches) (.allOf branches')
  | anyOf {branches branches' : List Subschema} (each : List.Forall₂ parts branches branches') :
      Beside parts (.anyOf branches) (.anyOf branches')
  | oneOf {branches branches' : List Subschema} (each : List.Forall₂ parts branches branches') :
      Beside parts (.oneOf branches) (.oneOf branches')
  | negation {excluded excluded' : Subschema} (held : parts excluded excluded') :
      Beside parts (.negation excluded) (.negation excluded')
  | conditional {condition condition' : Subschema}
      {positive positive' negative negative' : Option Subschema} (held : parts condition condition')
      (first : Option.Rel parts positive positive') (second : Option.Rel parts negative negative') :
      Beside parts (.conditional condition positive negative)
        (.conditional condition' positive' negative')
  | apply {whole whole' : Subschema} (held : parts whole whole') :
      Beside parts (.apply whole) (.apply whole')

namespace Rule

variable {parts parts' : Subschema → Subschema → Prop} {rule rule' : Rule}

/-- The sub-schemas whose refusal may let an instance pass. -/
def deciding : Rule → List Subschema
  | .oneOf branches => branches
  | .negation excluded => [excluded]
  | .conditional condition _ _ => [condition]
  | _ => []

/-- The sub-schemas of which the first that makes something of an instance is taken. -/
def alternatives : Rule → List Subschema
  | .anyOf branches => branches
  | _ => []

namespace Beside

theorem subschemas (beside : rule.Beside parts rule') :
    List.Forall₂ parts rule.subschemas rule'.subschemas := by
  cases beside with
  | check check => exact .nil
  | items each others => exact List.rel_append each (.cons others .nil)
  | entries each | patternEntries each => exact values_of_parallel each
  | dependencies each =>
      refine List.rel_flatMap each fun demand demand' both => ?_
      obtain ⟨key, dependency⟩ := demand
      obtain ⟨key', dependency'⟩ := demand'
      obtain ⟨_, beside⟩ := both
      cases beside with
      | peers names => exact .nil
      | whole held => exact .cons held .nil
  | allOf each | anyOf each | oneOf each => exact each
  | conditional held first second =>
      exact .cons held (List.rel_append (forall₂_toList first) (forall₂_toList second))
  | contains held | additionalEntries _ _ held | entryNames held | negation held | apply held =>
      exact .cons held .nil

theorem mono (beside : rule.Beside parts rule')
    (weaker : ∀ part part', parts part part' → parts' part part') : rule.Beside parts' rule' := by
  have atKey {κ : Type} {entry entry' : κ × Subschema} (both : AtKey parts entry entry') :
      AtKey parts' entry entry' := ⟨both.1, weaker _ _ both.2⟩
  have option {choice choice' : Option Subschema} (rel : Option.Rel parts choice choice') :
      Option.Rel parts' choice choice' := rel_imp rel fun part _ part' _ => weaker part part'
  cases beside with
  | check check => exact .check check
  | items each others => exact .items (each.imp weaker) (weaker _ _ others)
  | contains held => exact .contains (weaker _ _ held)
  | entries each => exact .entries (each.imp fun _ _ => atKey)
  | patternEntries each => exact .patternEntries (each.imp fun _ _ => atKey)
  | additionalEntries listed patterns held =>
      exact .additionalEntries listed patterns (weaker _ _ held)
  | dependencies each =>
      refine .dependencies (each.imp ?_)
      rintro ⟨key, demand⟩ ⟨_, demand'⟩ ⟨rfl, beside⟩
      cases beside with
      | peers names => exact ⟨rfl, .peers names⟩
      | whole held => exact ⟨rfl, .whole (weaker _ _ held)⟩
  | entryNames held => exact .entryNames (weaker _ _ held)
  | allOf each => exact .allOf (each.imp weaker)
  | anyOf each => exact .anyOf (each.imp weaker)
  | oneOf each => exact .oneOf (each.imp weaker)
  | negation held => exact .negation (weaker _ _ held)
  | conditional held first second =>
      exact .conditional (weaker _ _ held) (option first) (option second)
  | apply held => exact .apply (weaker _ _ held)

end Beside

/-- A rule stands beside itself, if its sub-schemas are related to themselves. -/
theorem beside_self (each : ∀ part ∈ rule.subschemas, parts part part) : rule.Beside parts rule := by
  have listed {κ : Type} {entries : List (κ × Subschema)}
      (all : ∀ part ∈ entries.map Prod.snd, parts part part) :
      List.Forall₂ (AtKey parts) entries entries :=
    List.forall₂_same.mpr fun entry member => ⟨rfl, all _ (List.mem_map_of_mem member)⟩
  have option {choice : Option Subschema} (all : ∀ part ∈ choice.toList, parts part part) :
      Option.Rel parts choice choice := by
    cases choice with
    | none => exact .none
    | some part => exact .some (all part List.mem_cons_self)
  cases rule with
  | check check => exact .check check
  | items positional rest =>
      obtain ⟨first, others⟩ := List.forall_mem_append.mp each
      exact .items (List.forall₂_same.mpr first) (others rest List.mem_cons_self)
  | contains item => exact .contains (each item List.mem_cons_self)
  | entries entries => exact .entries (listed each)
  | patternEntries entries => exact .patternEntries (listed each)
  | additionalEntries names patterns entry =>
      exact .additionalEntries names patterns (each entry List.mem_cons_self)
  | dependencies demands =>
      refine .dependencies (List.forall₂_same.mpr fun demand member => ⟨rfl, ?_⟩)
      obtain ⟨key, dependency⟩ := demand
      cases dependency with
      | peers names => exact .peers names
      | whole part => exact .whole (each part (List.mem_flatMap.mpr ⟨_, member, List.mem_cons_self⟩))
  | entryNames name => exact .entryNames (each name List.mem_cons_self)
  | allOf branches => exact .allOf (List.forall₂_same.mpr each)
  | anyOf branches => exact .anyOf (List.forall₂_same.mpr each)
  | oneOf branches => exact .oneOf (List.forall₂_same.mpr each)
  | negation excluded => exact .negation (each excluded List.mem_cons_self)
  | conditional condition positive negative =>
      obtain ⟨first, others⟩ := List.forall_mem_cons.mp each
      obtain ⟨second, third⟩ := List.forall_mem_append.mp others
      exact .conditional first (option second) (option third)
  | apply whole => exact .apply (each whole List.mem_cons_self)

section Behaviours

variable {related : Behaviour → Behaviour → Prop}

/-- What is related of the behaviours of sub-schemas, at every position. -/
theorem behaviours_beside {branches branches' : List Subschema}
    (each : List.Forall₂ (fun part part' => related part.behaviour part'.behaviour) branches branches') :
    List.Forall₂ related (behavioursOf branches) (behavioursOf branches') := by
  rw [behavioursOf_eq_map, behavioursOf_eq_map]
  exact List.forall₂_map_left_iff.mpr (List.forall₂_map_right_iff.mpr each)

theorem entryBehaviours_beside {listed listed' : List (String × Subschema)}
    (each : List.Forall₂ (AtKey fun part part' => related part.behaviour part'.behaviour) listed
      listed') :
    List.Forall₂ (AtKey related) (entryBehavioursOf listed) (entryBehavioursOf listed') := by
  rw [entryBehavioursOf_eq_map, entryBehavioursOf_eq_map]
  exact List.forall₂_map_left_iff.mpr (List.forall₂_map_right_iff.mpr each)

theorem patternBehaviours_beside {listed listed' : List (Pattern × Subschema)}
    (each : List.Forall₂ (AtKey fun part part' => related part.behaviour part'.behaviour) listed
      listed') :
    List.Forall₂ (AtKey related) (patternBehavioursOf listed) (patternBehavioursOf listed') := by
  rw [patternBehavioursOf_eq_map, patternBehavioursOf_eq_map]
  exact List.forall₂_map_left_iff.mpr (List.forall₂_map_right_iff.mpr each)

theorem behaviour?_beside {choice choice' : Option Subschema}
    (rel : Option.Rel (fun part part' => related part.behaviour part'.behaviour) choice choice') :
    Option.Rel related (behaviourOf? choice) (behaviourOf? choice') := by
  rw [behaviourOf?_eq_map, behaviourOf?_eq_map]
  exact rel_map rel fun _ _ both => both

theorem demands_beside {relatedDemands : Behaviour.Demand → Behaviour.Demand → Prop}
    (peers : ∀ names, relatedDemands (.peers names) (.peers names))
    (whole : ∀ behaviour behaviour', related behaviour behaviour' →
      relatedDemands (.whole behaviour) (.whole behaviour'))
    {demands demands' : List (String × Dependency)}
    (each : List.Forall₂ (AtKey (Dependency.Beside fun part part' =>
      related part.behaviour part'.behaviour)) demands demands') :
    List.Forall₂ (AtKey relatedDemands) (demandsOf demands) (demandsOf demands') := by
  rw [demandsOf_eq_map, demandsOf_eq_map]
  refine List.forall₂_map_left_iff.mpr (List.forall₂_map_right_iff.mpr (each.imp ?_))
  rintro ⟨key, demand⟩ ⟨_, demand'⟩ ⟨rfl, beside⟩
  cases beside with
  | peers names => exact ⟨rfl, peers names⟩
  | whole held => exact ⟨rfl, whole _ _ held⟩

end Behaviours

/-- A rule eases another beside it whose sub-schemas its own ease, if those whose refusal may let an
instance pass decide alike. -/
theorem Beside.eases {before after : Bool} (later : before = true → after = true)
    (beside : rule.Beside (fun part part' =>
      Behaviour.Eases before after part.behaviour part'.behaviour) rule')
    (alike : List.Forall₂ (fun part part' =>
      Behaviour.DecidesAlike before after part.behaviour part'.behaviour) rule.deciding
      rule'.deciding) :
    Behaviour.Eases before after rule.behaviour rule'.behaviour := by
  cases beside with
  | check check => exact Behaviour.eases_ofRule later check
  | items each others => exact Behaviour.eases_items (behaviours_beside each) others
  | contains held => exact Behaviour.eases_contains held
  | entries each => exact Behaviour.eases_entries (entryBehaviours_beside each)
  | patternEntries each => exact Behaviour.eases_patternEntries (patternBehaviours_beside each)
  | additionalEntries listed patterns held =>
      exact Behaviour.eases_additionalEntries held listed patterns
  | dependencies each =>
      exact Behaviour.eases_dependencies later
        (demands_beside .peers (fun _ _ eases => .whole eases) each)
  | entryNames held => exact Behaviour.eases_entryNames held
  | allOf each => exact Behaviour.eases_allOf (behaviours_beside each)
  | anyOf each => exact Behaviour.eases_anyOf (behaviours_beside each)
  | oneOf each => exact Behaviour.eases_oneOf (behaviours_beside alike)
  | negation held =>
      cases alike with
      | cons decides _ => exact Behaviour.eases_negation decides
  | conditional held first second =>
      cases alike with
      | cons decides _ =>
          exact Behaviour.eases_conditional decides (behaviour?_beside first)
            (behaviour?_beside second)
  | apply held => exact Behaviour.eases_under held _

theorem Beside.deciding_eq_nil (beside : rule.Beside parts rule') (none : rule.deciding = []) :
    rule'.deciding = [] := by
  cases beside with
  | oneOf each =>
      cases each with
      | nil => rfl
      | cons _ _ => cases none
  | negation held => cases none
  | conditional held first second => cases none
  | _ => rfl

/-- A rule completes another beside it whose sub-schemas its own complete, and ease as well, if it does
not choose between sub-schemas. -/
theorem Beside.completes
    (beside : rule.Beside (fun part part' => part.behaviour.Completes part'.behaviour) rule')
    (easing : rule.Beside (fun part part' => part.behaviour.EasesEither part'.behaviour) rule')
    (undecided : rule.deciding = []) (unchosen : rule.alternatives = []) :
    rule.behaviour.Completes rule'.behaviour := by
  cases beside with
  | check check => exact Behaviour.Completes.refl _
  | items each others => exact Behaviour.completes_items (behaviours_beside each) others
  | contains _ =>
      cases easing with
      | contains eases =>
          exact Behaviour.completes_ofCheck fun isPartial => Behaviour.eases_contains (eases isPartial)
  | entries each => exact Behaviour.completes_entries (entryBehaviours_beside each)
  | patternEntries each => exact Behaviour.completes_patternEntries (patternBehaviours_beside each)
  | additionalEntries listed patterns held =>
      exact Behaviour.completes_additionalEntries held listed patterns
  | dependencies each =>
      exact Behaviour.completes_dependencies
        (demands_beside .peers (fun _ _ completes => .whole completes) each)
  | entryNames _ =>
      cases easing with
      | entryNames eases =>
          exact Behaviour.completes_ofCheck fun isPartial =>
            Behaviour.eases_entryNames (eases isPartial)
  | allOf each => exact Behaviour.completes_allOf (behaviours_beside each)
  | anyOf each =>
      cases each with
      | nil => exact Behaviour.Completes.refl _
      | cons _ _ => cases unchosen
  | oneOf each =>
      cases each with
      | nil => exact Behaviour.Completes.refl _
      | cons _ _ => cases undecided
  | negation held => cases undecided
  | conditional held first second => cases undecided
  | apply held => exact Behaviour.completes_under held _

end Rule

/-- Whether a guard lets other kinds pass if another does, and guards the same kinds. -/
structure Guard.Softens (guard guard' : Guard) : Prop where
  applicable : guard.applicable = guard'.applicable
  milder : guard.strict = false → guard'.strict = false

namespace Bound

variable {name name' : String} {terminal terminal' : Bool} {restriction restriction' : Option Guard}
  {rule rule' : Rule}

theorem eases_step {before after : Bool} (guards : Option.Rel Guard.Softens restriction restriction')
    (eases : Behaviour.Eases before after rule.behaviour rule'.behaviour) :
    Behaviour.Eases before after (Bound.mk name terminal restriction rule).step.behaviour
      (Bound.mk name' terminal' restriction' rule').step.behaviour := by
  cases guards with
  | none => exact eases
  | @some guard guard' softens =>
      obtain ⟨applicable, strict⟩ := guard
      obtain ⟨_, strict'⟩ := guard'
      obtain ⟨rfl, milder⟩ := softens
      exact Behaviour.eases_guarded eases applicable milder

theorem completes_step (guards : Option.Rel Guard.Softens restriction restriction')
    (completes : rule.behaviour.Completes rule'.behaviour) :
    (Bound.mk name terminal restriction rule).step.behaviour.Completes
      (Bound.mk name' terminal' restriction' rule').step.behaviour := by
  cases guards with
  | none => exact completes
  | @some guard guard' softens =>
      obtain ⟨applicable, strict⟩ := guard
      obtain ⟨_, strict'⟩ := guard'
      obtain ⟨rfl, milder⟩ := softens
      exact Behaviour.completes_guarded completes applicable milder

end Bound

end Conformance
