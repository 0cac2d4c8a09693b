import Conformance.Proofs.Registry.Coherence
/-!
Owners of names. A registry is lawful if no name is empty or reserved and none is both a definition's and an
alias. An edit of a lawful registry leaves it lawful if and only if it upholds what the edit itself does not
look at: a new definition may take the name of an alias, a new alias may be empty, and names that are carried
over to another convention are not looked at at all (`Registry.Edit.isLawful_apply_iff`).
-/

namespace Conformance

namespace Registry

/-- Whether a name has characters and is not reserved. -/
def IsFree (name : String) : Prop := name ≠ "" ∧ name ∉ reservedNames

instance (name : String) : Decidable (IsFree name) :=
  inferInstanceAs (Decidable (name ≠ "" ∧ name ∉ reservedNames))

/-- The names under which a registry knows an alias. -/
def synonyms (registry : Registry) : List String := Table.names registry.aliases

/-- Whether names are free and none is both a definition's and an alias. -/
structure IsLawful (registry : Registry) : Prop where
  defined : ∀ name ∈ registry.names, IsFree name
  aliased : ∀ name ∈ registry.synonyms, IsFree name
  apart : ∀ name ∈ registry.names, name ∉ registry.synonyms

theorem isLawful_iff (registry : Registry) : registry.IsLawful ↔
    (∀ name ∈ registry.names, IsFree name) ∧ (∀ name ∈ registry.synonyms, IsFree name) ∧
      ∀ name ∈ registry.names, name ∉ registry.synonyms :=
  ⟨fun lawful => ⟨lawful.defined, lawful.aliased, lawful.apart⟩,
    fun ⟨defined, aliased, apart⟩ => ⟨defined, aliased, apart⟩⟩

instance (registry : Registry) : Decidable registry.IsLawful := decidable_of_iff' _ (isLawful_iff registry)

/-- The names that a clone gives to the definitions that are carried over, each behind the name that it would
have without renaming. -/
def carried (registry : Registry) (included : Option (List String)) (renames : List (String × String))
    (inflection : Inflection) : List (String × String) :=
  registry.names.filterMap fun name =>
    (registry.carriedName? included renames inflection name).map (inflection.apply name, ·)

/-- Whether carried names are free, and those that stay behind as aliases too, and no other constraint takes
one of these. -/
def AreApart (carried : List (String × String)) : Prop :=
  ∀ pair ∈ carried, IsFree pair.2 ∧
    (pair.1 ≠ pair.2 → IsFree pair.1 ∧ ∀ other ∈ carried, other.2 ≠ pair.1)

instance (carried : List (String × String)) : Decidable (AreApart carried) :=
  inferInstanceAs (Decidable (∀ pair ∈ carried, IsFree pair.2 ∧
    (pair.1 ≠ pair.2 → IsFree pair.1 ∧ ∀ other ∈ carried, other.2 ≠ pair.1)))

/-- A change of a registry. -/
inductive Edit where
  | register (definition : Definition) (overwrite : Bool)
  | addAlias (synonym target : String)
  | remove (name : String)
  | cloneWith (included : Option (List String)) (renames : List (String × String))
      (inflection : Option Inflection)
  deriving DecidableEq, Repr

namespace Edit

/-- The registry after an edit. One that is refused changes nothing. -/
def apply (registry : Registry) : Edit → Registry
  | .register definition overwrite => (registry.register definition overwrite).toOption.getD registry
  | .addAlias synonym target => (registry.addAlias synonym target).toOption.getD registry
  | .remove name => (registry.remove name).2
  | .cloneWith included renames inflection => registry.cloneWith included renames inflection

/-- The registry after edits, one after the other. -/
def run (registry : Registry) (edits : List Edit) : Registry := edits.foldl apply registry

/-- Whether an edit upholds the rules on names that it does not look at itself: a constraint that is accepted
does not take the name of an alias, an alias that is accepted is not empty, and of the names that are carried
over none is empty or reserved, or left as an alias where another constraint takes it. -/
def Upholds (registry : Registry) : Edit → Prop
  | .register definition overwrite =>
    (registry.register definition overwrite).toOption.isSome = true →
      registry.inflect definition.name ∉ registry.synonyms
  | .addAlias synonym target =>
    (registry.addAlias synonym target).toOption.isSome = true → registry.inflect synonym ≠ ""
  | .remove _ => True
  | .cloneWith included renames inflection =>
    AreApart (registry.carried included renames (inflection.getD registry.inflection))

instance (registry : Registry) : (edit : Edit) → Decidable (edit.Upholds registry)
  | .register definition overwrite =>
    inferInstanceAs (Decidable ((registry.register definition overwrite).toOption.isSome = true →
      registry.inflect definition.name ∉ registry.synonyms))
  | .addAlias synonym target =>
    inferInstanceAs (Decidable ((registry.addAlias synonym target).toOption.isSome = true →
      registry.inflect synonym ≠ ""))
  | .remove _ => inferInstanceAs (Decidable True)
  | .cloneWith included renames inflection =>
    inferInstanceAs (Decidable
      (AreApart (registry.carried included renames (inflection.getD registry.inflection))))

/-- Whether edits uphold the rules, one after the other. -/
def Upheld (registry : Registry) : List Edit → Prop
  | [] => True
  | edit :: edits => edit.Upholds registry ∧ Upheld (edit.apply registry) edits

end Edit

/-- Whether a registry is one that edits start from. -/
inductive IsInitial : Registry → Prop where
  | empty (inflection : Inflection) : IsInitial (empty inflection)
  | base : IsInitial base
  | jsonSchema : IsInitial jsonSchema

/-- Whether aliases differ from each other and from the names that they lead to. -/
structure IsProper (registry : Registry) : Prop where
  distinct : registry.synonyms.Nodup
  apart : ∀ entry ∈ registry.aliases, entry.1 ≠ entry.2

variable {registry registry' : Registry}

section Clone

variable {included : Option (List String)} {renames : List (String × String)} {inflection : Inflection}
  {projected : Registry} {entry : String × Definition} {name : String}

theorem inflection_project :
    (registry.project included renames projected entry).inflection = projected.inflection := by
  rw [project_eq]
  split <;> rfl

theorem mem_names_project :
    name ∈ (registry.project included renames projected entry).names ↔
      name ∈ projected.names ∨
        registry.carriedName? included renames projected.inflection entry.1 = some name := by
  rw [project_eq]
  split
  · rename_i given carries
    rw [carries, Option.some.injEq, eq_comm (a := given)]
    exact Table.mem_names_put _
  · rename_i dropped
    rw [dropped]
    exact (or_iff_left (Option.some_ne_none name).symm).symm

theorem mem_synonyms_project :
    name ∈ (registry.project included renames projected entry).synonyms ↔
      name ∈ projected.synonyms ∨ projected.inflect entry.1 = name ∧
        ∃ given, registry.carriedName? included renames projected.inflection entry.1 = some given ∧
          name ≠ given := by
  rw [project_eq]
  split
  · rename_i given carries
    unfold synonyms
    dsimp only
    split
    · rename_i same
      refine (or_iff_left ?_).symm
      rintro ⟨natural, other, carries', differs⟩
      cases carries.symm.trans carries'
      exact differs (natural.symm.trans same)
    · rename_i differs
      rw [Table.mem_names_put]
      refine or_congr Iff.rfl ⟨?_, fun held => held.1.symm⟩
      rintro rfl
      exact ⟨rfl, given, carries, differs⟩
  · rename_i dropped
    refine (or_iff_left ?_).symm
    rintro ⟨_, given, carries, _⟩
    cases dropped.symm.trans carries

theorem mem_carried {pair : String × String} :
    pair ∈ registry.carried included renames inflection ↔
      ∃ entry ∈ registry.definitions, inflection.apply entry.1 = pair.1 ∧
        registry.carriedName? included renames inflection entry.1 = some pair.2 := by
  unfold carried names Table.names
  rw [List.filterMap_map, List.mem_filterMap]
  refine exists_congr fun entry => and_congr_right fun _ => ?_
  rw [Function.comp_apply, Option.map_eq_some_iff]
  constructor
  · rintro ⟨given, carries, rfl⟩
    exact ⟨rfl, carries⟩
  · rintro ⟨natural, carries⟩
    exact ⟨pair.2, carries, Prod.ext natural rfl⟩

/-- The induction is on the entries that are carried over, into what was carried over before. -/
theorem mem_foldl_project (entries : List (String × Definition)) (projected : Registry) :
    (name ∈ (entries.foldl (registry.project included renames) projected).names ↔
      name ∈ projected.names ∨ ∃ entry ∈ entries,
        registry.carriedName? included renames projected.inflection entry.1 = some name) ∧
    (name ∈ (entries.foldl (registry.project included renames) projected).synonyms ↔
      name ∈ projected.synonyms ∨ ∃ entry ∈ entries, projected.inflect entry.1 = name ∧
        ∃ given, registry.carriedName? included renames projected.inflection entry.1 = some given ∧
          name ≠ given) := by
  induction entries generalizing projected with
  | nil => simp
  | cons entry entries ih =>
      obtain ⟨named, aliased⟩ := ih (registry.project included renames projected entry)
      have inflect (other : String) : (registry.project included renames projected entry).inflect other =
          projected.inflect other := congrArg (Inflection.apply · other) inflection_project
      rw [inflection_project] at named aliased
      simp only [inflect] at aliased
      rw [List.foldl_cons, named, aliased, mem_names_project, mem_synonyms_project, List.exists_mem_cons_iff,
        List.exists_mem_cons_iff, or_assoc, or_assoc]
      exact ⟨Iff.rfl, Iff.rfl⟩

theorem mem_names_cloneWith {inflection : Option Inflection} :
    name ∈ (registry.cloneWith included renames inflection).names ↔
      ∃ pair ∈ registry.carried included renames (inflection.getD registry.inflection), pair.2 = name := by
  refine (mem_foldl_project _ _).1.trans ((or_iff_right List.not_mem_nil).trans ⟨?_, ?_⟩)
  · rintro ⟨entry, listed, carries⟩
    exact ⟨⟨_, name⟩, mem_carried.mpr ⟨entry, listed, rfl, carries⟩, rfl⟩
  · rintro ⟨pair, member, rfl⟩
    obtain ⟨entry, listed, _, carries⟩ := mem_carried.mp member
    exact ⟨entry, listed, carries⟩

theorem mem_synonyms_cloneWith {inflection : Option Inflection} :
    name ∈ (registry.cloneWith included renames inflection).synonyms ↔
      ∃ pair ∈ registry.carried included renames (inflection.getD registry.inflection),
        pair.1 = name ∧ pair.1 ≠ pair.2 := by
  refine (mem_foldl_project _ _).2.trans ((or_iff_right List.not_mem_nil).trans ⟨?_, ?_⟩)
  · rintro ⟨entry, listed, natural, given, carries, differs⟩
    exact ⟨⟨name, given⟩, mem_carried.mpr ⟨entry, listed, natural, carries⟩, rfl, differs⟩
  · rintro ⟨pair, member, rfl, differs⟩
    obtain ⟨entry, listed, natural, carries⟩ := mem_carried.mp member
    exact ⟨entry, listed, natural, _, carries, differs⟩

theorem isLawful_cloneWith_iff {inflection : Option Inflection} :
    (registry.cloneWith included renames inflection).IsLawful ↔
      (Edit.cloneWith included renames inflection).Upholds registry := by
  rw [isLawful_iff]
  simp only [mem_names_cloneWith, mem_synonyms_cloneWith]
  constructor
  · rintro ⟨defined, aliased, apart⟩ pair member
    refine ⟨defined _ ⟨pair, member, rfl⟩, fun differs => ⟨aliased _ ⟨pair, member, rfl, differs⟩, ?_⟩⟩
    intro other listed same
    exact apart _ ⟨other, listed, rfl⟩ ⟨pair, member, same.symm, differs⟩
  · intro upheld
    refine ⟨?_, ?_, ?_⟩
    · rintro _ ⟨pair, member, rfl⟩
      exact (upheld pair member).1
    · rintro _ ⟨pair, member, rfl, differs⟩
      exact ((upheld pair member).2 differs).1
    · rintro _ ⟨other, listed, rfl⟩ ⟨pair, member, same, differs⟩
      exact ((upheld pair member).2 differs).2 other listed same.symm

end Clone

namespace Edit

variable (lawful : registry.IsLawful)

include lawful

theorem isLawful_register_iff (definition : Definition) (overwrite : Bool) :
    ((Edit.register definition overwrite).apply registry).IsLawful ↔
      (Edit.register definition overwrite).Upholds registry := by
  dsimp only [apply, Upholds]
  cases accepted : registry.register definition overwrite with
  | error error => exact iff_of_true lawful fun none => absurd none Bool.false_ne_true
  | ok next =>
      obtain ⟨free, _, rfl⟩ := eq_of_register accepted
      dsimp only [Except.toOption, Option.getD_some, Option.isSome_some]
      rw [forall_prop_of_true rfl, isLawful_iff]
      unfold define names
      simp only [Table.mem_names_put, or_imp, forall_and, forall_eq]
      exact ⟨fun held => held.2.2.2, fun unaliased =>
        ⟨⟨lawful.defined, free⟩, lawful.aliased, lawful.apart, unaliased⟩⟩

theorem isLawful_addAlias_iff (synonym target : String) :
    ((Edit.addAlias synonym target).apply registry).IsLawful ↔
      (Edit.addAlias synonym target).Upholds registry := by
  dsimp only [apply, Upholds]
  cases accepted : registry.addAlias synonym target with
  | error error => exact iff_of_true lawful fun none => absurd none Bool.false_ne_true
  | ok next =>
      obtain ⟨name, _, undefined, unreserved, rfl⟩ := eq_of_addAlias accepted
      dsimp only [Except.toOption, Option.getD_some, Option.isSome_some]
      rw [forall_prop_of_true rfl, isLawful_iff]
      unfold synonyms
      simp only [Table.mem_names_put, not_or, or_imp, forall_and, forall_eq]
      refine ⟨fun held => held.2.1.2.1, fun some => ⟨lawful.defined, ⟨lawful.aliased, some, unreserved⟩,
        lawful.apart, ?_⟩⟩
      exact fun name member same => undefined (same ▸ member)

theorem isLawful_remove (name : String) : (registry.remove name).2.IsLawful := by
  cases resolved : registry.resolve name with
  | none =>
      rw [remove_of_unknown resolved]
      exact lawful
  | some target =>
      rw [eq_of_remove resolved]
      have names {other : String} (member : other ∈ Table.names (Table.remove registry.definitions target)) :
          other ∈ registry.names := by
        rw [Table.names_remove] at member
        exact (List.mem_filter.mp member).1
      have synonyms {other : String} (member : other ∈ Table.names
          (registry.aliases.filter fun entry => !decide (entry.2 = target))) : other ∈ registry.synonyms := by
        obtain ⟨entry, listed, same⟩ := List.mem_map.mp member
        exact List.mem_map.mpr ⟨entry, (List.mem_filter.mp listed).1, same⟩
      exact ⟨fun other member => lawful.defined other (names member),
        fun other member => lawful.aliased other (synonyms member),
        fun other member aliased => lawful.apart other (names member) (synonyms aliased)⟩

/-- An edit of a lawful registry leaves it lawful if and only if it upholds the rules. -/
theorem isLawful_apply_iff (edit : Edit) : (edit.apply registry).IsLawful ↔ edit.Upholds registry := by
  cases edit with
  | register definition overwrite => exact isLawful_register_iff lawful definition overwrite
  | addAlias synonym target => exact isLawful_addAlias_iff lawful synonym target
  | remove name => exact iff_of_true (isLawful_remove lawful name) trivial
  | cloneWith included renames inflection => exact isLawful_cloneWith_iff

/-- The induction is on the edits. -/
theorem isLawful_run_iff (edits : List Edit) :
    (∀ done, done <+: edits → (run registry done).IsLawful) ↔ Upheld registry edits := by
  induction edits generalizing registry with
  | nil =>
      refine iff_of_true (fun done begins => ?_) trivial
      rw [List.prefix_nil.mp begins]
      exact lawful
  | cons edit edits ih =>
      constructor
      · intro held
        have next : (edit.apply registry).IsLawful := held [edit] ⟨edits, rfl⟩
        exact ⟨(isLawful_apply_iff lawful edit).mp next,
          (ih next).mp fun done begins => held (edit :: done) ((List.prefix_cons_inj edit).mpr begins)⟩
      · rintro ⟨upholds, upheld⟩ done begins
        have next := (isLawful_apply_iff lawful edit).mpr upholds
        cases done with
        | nil => exact lawful
        | cons first done =>
            obtain ⟨rfl, rest⟩ := List.cons_prefix_cons.mp begins
            exact (ih next).mpr upheld done rest

end Edit

theorem IsInitial.isLawful (initial : registry.IsInitial) : registry.IsLawful := by
  cases initial with
  | empty inflection => exact ⟨List.forall_mem_nil _, List.forall_mem_nil _, List.forall_mem_nil _⟩
  | base => decide +kernel
  | jsonSchema =>
      rw [jsonSchema_eq]
      decide +kernel

namespace IsProper

theorem empty (inflection : Inflection) : (empty inflection).IsProper :=
  ⟨List.nodup_nil, List.forall_mem_nil _⟩

variable (proper : registry.IsProper)

include proper

theorem putAlias {synonym name : String} (apart : synonym ≠ name) :
    IsProper { registry with aliases := Table.put registry.aliases synonym name } :=
  ⟨Table.nodup_names_put _ _ proper.distinct, Table.forall_mem_put proper.apart apart⟩

theorem addAlias (linked : registry.IsLinked) {synonym target : String}
    (added : registry.addAlias synonym target = .ok registry') : registry'.IsProper := by
  obtain ⟨name, resolved, undefined, _, rfl⟩ := eq_of_addAlias added
  exact proper.putAlias fun same => undefined (same ▸ mem_names_of_resolve linked resolved)

theorem remove (name : String) : (registry.remove name).2.IsProper := by
  cases resolved : registry.resolve name with
  | none =>
      rw [remove_of_unknown resolved]
      exact proper
  | some target =>
      rw [eq_of_remove resolved]
      exact ⟨proper.distinct.sublist (List.Sublist.map _ List.filter_sublist),
        fun entry member => proper.apart entry (List.mem_filter.mp member).1⟩

theorem project (original : Registry) (included : Option (List String)) (renames : List (String × String))
    (entry : String × Definition) : (original.project included renames registry entry).IsProper := by
  rw [project_eq]
  split
  · rename_i given _
    dsimp only
    have put : IsProper { registry with
        definitions := Table.put registry.definitions given { entry.2 with name := given } } :=
      ⟨proper.distinct, proper.apart⟩
    split
    · exact put
    · rename_i differs
      exact put.putAlias differs
  · exact proper

end IsProper

/-- The induction is on the operations. -/
theorem ReachableWith.isProper {allowed : String → Prop} (reached : registry.ReachableWith allowed) :
    registry.IsProper := by
  induction reached with
  | empty inflection => exact .empty inflection
  | base => exact ⟨by decide +kernel, by decide +kernel⟩
  | register _ _ registered proper =>
      obtain ⟨_, _, rfl⟩ := eq_of_register registered
      exact ⟨proper.distinct, proper.apart⟩
  | addAlias reached _ added proper => exact proper.addAlias reached.isLinked added
  | remove _ name proper => exact proper.remove name
  | @cloneWith registry _ included renames _ inflection proper =>
      exact List.foldlRecOn registry.definitions _ (.empty _) fun _ proper entry _ =>
        proper.project registry included renames entry

theorem IsInitial.reachableWith (initial : registry.IsInitial) : registry.ReachableWith fun _ => True := by
  cases initial with
  | empty inflection => exact .empty inflection
  | base => exact .base
  | jsonSchema => exact .cloneWith .base _ (fun _ _ => trivial) _

theorem ReachableWith.apply (reached : registry.ReachableWith fun _ => True) (edit : Edit) :
    (edit.apply registry).ReachableWith fun _ => True := by
  cases edit with
  | register definition overwrite =>
      dsimp only [Edit.apply]
      cases accepted : registry.register definition overwrite with
      | error error => exact reached
      | ok next => exact .register reached trivial accepted
  | addAlias synonym target =>
      dsimp only [Edit.apply]
      cases accepted : registry.addAlias synonym target with
      | error error => exact reached
      | ok next => exact .addAlias reached trivial accepted
  | remove name => exact .remove reached name
  | cloneWith included renames inflection => exact .cloneWith reached included (fun _ _ => trivial) inflection

theorem IsInitial.reachableWith_run (initial : registry.IsInitial) (edits : List Edit) :
    (Edit.run registry edits).ReachableWith fun _ => True :=
  List.foldlRecOn edits Edit.apply initial.reachableWith fun _ reached edit _ => reached.apply edit

/-- A constraint that is accepted, and not to replace another, has a name that was not found, or that of an
alias. -/
theorem resolve_eq_none_iff_of_register {definition : Definition}
    (registered : registry.register definition false = .ok registry') :
    registry.resolve definition.name = none ↔ registry.inflect definition.name ∉ registry.synonyms := by
  obtain ⟨_, untaken, _⟩ := eq_of_register registered
  unfold resolve
  rw [if_neg (untaken rfl ∘ (Table.has_iff_mem_names _ _).mp), ← Option.not_isSome_iff_eq_none]
  exact not_congr (Table.has_iff_mem_names _ _)

theorem resolve_eq_none_iff (registry : Registry) (name : String) :
    registry.resolve name = none ↔
      registry.inflect name ∉ registry.names ∧ registry.inflect name ∉ registry.synonyms := by
  unfold resolve
  dsimp only
  split
  · rename_i defined
    exact iff_of_false (Option.some_ne_none _) fun both => both.1 ((Table.has_iff_mem_names _ _).mp defined)
  · rename_i undefined
    have absent : registry.inflect name ∉ registry.names := undefined ∘ (Table.has_iff_mem_names _ _).mpr
    exact (Table.lookup_eq_none_iff _ _).trans (iff_and_self.mpr fun _ => absent)

/-- An alias stays when a constraint is removed that it does not lead to. -/
theorem mem_synonyms_filter (proper : registry.IsProper) {synonym target : String}
    (aliased : Table.lookup registry.aliases synonym = some target) (removed : String) :
    synonym ∈ Table.names (registry.aliases.filter fun entry => !decide (entry.2 = removed)) ↔
      target ≠ removed := by
  have member := Table.mem_of_lookup aliased
  constructor
  · intro kept same
    obtain ⟨⟨other, leads⟩, listed, rfl⟩ := List.mem_map.mp kept
    obtain ⟨listed, differs⟩ := List.mem_filter.mp listed
    cases aliased.symm.trans (Table.lookup_of_mem proper.distinct listed)
    exact of_decide_eq_false (Bool.not_eq_true' _ ▸ differs) same
  · intro differs
    exact List.mem_map.mpr ⟨_, List.mem_filter.mpr ⟨member, by simpa using differs⟩, rfl⟩

/-- The name of a constraint that is removed is found no more, unless it is an alias of another as well. -/
theorem IsProper.resolve_remove_eq_none_iff (proper : registry.IsProper) {name target : String}
    (resolved : registry.resolve name = some target) :
    (registry.remove name).2.resolve name = none ↔
      ¬ (registry.inflect name ∈ registry.names ∧ registry.inflect name ∈ registry.synonyms) := by
  have same : (registry.remove name).2.inflect name = registry.inflect name := by
    rw [eq_of_remove resolved]
    rfl
  rw [resolve_eq_none_iff, same, eq_of_remove resolved]
  change registry.inflect name ∉ Table.names (Table.remove registry.definitions target) ∧
    registry.inflect name ∉ Table.names (registry.aliases.filter fun entry => !decide (entry.2 = target)) ↔ _
  rw [Table.names_remove]
  unfold resolve at resolved
  dsimp only at resolved
  split at resolved
  · rename_i defined
    obtain rfl := Option.some.inj resolved
    have member : registry.inflect name ∈ registry.names := (Table.has_iff_mem_names _ _).mp defined
    have removed : registry.inflect name ∉
        registry.names.filter fun other => !decide (other = registry.inflect name) :=
      fun kept => by simpa using (List.mem_filter.mp kept).2
    refine (and_iff_right removed).trans (Iff.trans (not_congr ?_) (not_congr (and_iff_right member).symm))
    cases aliased : Table.lookup registry.aliases (registry.inflect name) with
    | none =>
        have missing := (Table.lookup_eq_none_iff _ _).mp aliased
        exact iff_of_false (fun kept => missing ((List.filter_sublist.map _).subset kept)) missing
    | some other =>
        have listed := Table.mem_of_lookup aliased
        exact iff_of_true ((mem_synonyms_filter proper aliased _).mpr (proper.apart _ listed).symm)
          (List.mem_map.mpr ⟨_, listed, rfl⟩)
  · rename_i undefined
    have absent : registry.inflect name ∉ registry.names := undefined ∘ (Table.has_iff_mem_names _ _).mpr
    refine iff_of_true ⟨fun kept => absent (List.mem_filter.mp kept).1, fun kept => ?_⟩
      fun both => absent both.1
    exact (mem_synonyms_filter proper resolved target).mp kept rfl

theorem IsProper.resolve_eq_none_iff_of_remove (proper : registry.IsProper) {name : String}
    {definition : Definition} (removes : registry.remove name = (some definition, registry')) :
    registry'.resolve name = none ↔
      ¬ (registry.inflect name ∈ registry.names ∧ registry.inflect name ∈ registry.synonyms) := by
  obtain rfl : (registry.remove name).2 = registry' := congrArg Prod.snd removes
  cases resolved : registry.resolve name with
  | none => cases (remove_of_unknown resolved).symm.trans removes
  | some target => exact proper.resolve_remove_eq_none_iff resolved

/-- From an empty registry or a built-in one, all registries that edits lead to are lawful if and only if the
edits uphold the rules, one after the other. A constraint that is accepted, and not to replace another, has a
name that was not found if and only if it upholds the rules. The name of a constraint that is removed is found
no more if and only if it was not both a definition's and an alias, which in a lawful registry none is. -/
theorem IsInitial.lawful_iff_upheld (initial : registry.IsInitial) (edits : List Edit) :
    ((∀ done, done <+: edits → (Edit.run registry done).IsLawful) ↔ Edit.Upheld registry edits) ∧
      (∀ definition next, (Edit.run registry edits).register definition false = .ok next →
        ((Edit.run registry edits).resolve definition.name = none ↔
          (Edit.register definition false).Upholds (Edit.run registry edits))) ∧
      (∀ name definition next, (Edit.run registry edits).remove name = (some definition, next) →
        (next.resolve name = none ↔
          ¬ ((Edit.run registry edits).inflect name ∈ (Edit.run registry edits).names ∧
            (Edit.run registry edits).inflect name ∈ (Edit.run registry edits).synonyms))) ∧
      (Edit.Upheld registry edits → ∀ name definition next,
        (Edit.run registry edits).remove name = (some definition, next) → next.resolve name = none) := by
  have lawful := Edit.isLawful_run_iff initial.isLawful edits
  have settled (upheld : Edit.Upheld registry edits) : (Edit.run registry edits).IsLawful :=
    lawful.mpr upheld edits (List.prefix_refl edits)
  have proper := (initial.reachableWith_run edits).isProper
  have removed {name : String} {definition : Definition} {next : Registry}
      (removes : (Edit.run registry edits).remove name = (some definition, next)) :=
    proper.resolve_eq_none_iff_of_remove removes
  refine ⟨lawful, fun definition next accepted => ?_, fun name definition next => removed,
    fun upheld name definition next removes => ?_⟩
  · rw [resolve_eq_none_iff_of_register accepted]
    dsimp only [Edit.Upholds]
    rw [accepted]
    exact (imp_iff_right rfl).symm
  · exact (removed removes).mpr fun both => (settled upheld).apart _ both.1 both.2

/-- Names slip through. A constraint takes the name of an alias: both stand under it, and when the
constraint is removed the name is found through the alias. An alias may be empty, and a clone may take a
reserved name. -/
theorem names_slip_through :
    let width : Edit := .register (.general "width" "a width" .remark) false
    let edits := [width, .addAlias "breadth" "width"]
    let breadth := Definition.general "breadth" "a breadth" .remark
    let taken := Edit.run (empty .underscore) (edits ++ [.register breadth false])
    ((Edit.run (empty .underscore) edits).resolve "breadth" = some "width" ∧
      (Edit.run (empty .underscore) edits).register breadth false = .ok taken ∧
      "breadth" ∈ taken.names ∧ "breadth" ∈ taken.synonyms ∧ (taken.remove "breadth").1 = some breadth ∧
      (taken.remove "breadth").2.resolve "breadth" = some "width") ∧
    (Edit.run (empty .underscore) [width, .addAlias "" "width"]).synonyms = [""] ∧
    (Edit.run (empty .underscore) [width, .cloneWith none [("system", "width")] none]).names = ["system"] ∧
    "system" ∈ reservedNames := by
  decide +kernel

/-- A constraint with an alias, renamed in the other convention. -/
theorem lawful_iff_upheld_renamed :
    let size := Definition.general "size" "a size" .maxSize
    let edits : List Edit := [.register size false, .addAlias "extent" "size",
      .cloneWith none [("maxItems", "size")] (some .lowerCamel)]
    (∀ done, done <+: edits → (Edit.run (empty .underscore) done).IsLawful) ∧
      (Edit.run (empty .underscore) edits).aliases = [("size", "maxItems")] ∧
      ∃ definition next, (Edit.run (empty .underscore) edits).remove "size" = (some definition, next) ∧
        next.resolve "size" = none := by
  intro size edits
  have upheld : Edit.Upheld (empty .underscore) edits :=
    ⟨by decide +kernel, by decide +kernel, by decide +kernel, trivial⟩
  have lawful := (IsInitial.empty .underscore).lawful_iff_upheld edits
  refine ⟨lawful.1.mpr upheld, by decide +kernel, ?_⟩
  have removes : (Edit.run (empty .underscore) edits).remove "size" =
      (some { size with name := "maxItems" }, empty .lowerCamel) := by decide +kernel
  exact ⟨_, _, removes, lawful.2.2.2 upheld _ _ _ removes⟩

end Registry

end Conformance
