import Conformance.Proofs.Compilation.Positions
/-!
The constraints that are bound for a document. Each is bound for the first key that denotes it, under
its own name and no two under one name, and what is to hold of its rule is shown for one constraint at a
time (`Context.yields_constraints_bindAll`).
-/

namespace Conformance

/-- The type of a document, as it is bound. -/
def Bound.ofType (name : String) (kinds : KindSet) : Bound :=
  .mk name true none (.check (.ofKinds kinds))

namespace Context

variable {context : Context} {good : Value → Schema → Prop} {known : String → Schema → Prop}

/-- Whether an entry of a document is the first to denote a constraint other than the type. -/
structure Introduces (context : Context) (entry : String × Value) (name : String)
    (definition : Definition) : Prop where
  first : (context.entries.find? fun other =>
    context.settings.constraints.resolve other.1 == some name) = some entry
  notType : some name ≠ context.typeName?
  defined : context.settings.constraints.get name = some definition

theorem Introduces.mem {entry : String × Value} {name : String} {definition : Definition}
    (introduces : context.Introduces entry name definition) : entry ∈ context.entries :=
  List.mem_of_find?_eq_some introduces.first

theorem Introduces.resolved {entry : String × Value} {name : String} {definition : Definition}
    (introduces : context.Introduces entry name definition) :
    context.settings.constraints.resolve entry.1 = some name := by
  have found := List.find?_some introduces.first
  exact eq_of_beq found

/-- What is bound for a constraint, with what holds of its rule. -/
def BoundFor (context : Context) (holds : String → Definition → Rule → Prop) (bound : Bound) : Prop :=
  ∃ definition rule,
    bound = .mk bound.name false (context.restriction definition.applicableKinds) rule ∧
    holds bound.name definition rule

variable {holds : String → Definition → Rule → Prop}

theorem yields_constraints_bindConstraint {definition : Definition} {name : String} {value : Value}
    (bindsRule : ({ context with constraint := name }.rule definition.meaning value).Yields good known
      fun rule? => ∀ rule, rule? = some rule → holds name definition rule) :
    (context.bindConstraint definition name value).Yields good known fun bounds =>
      bounds = [] ∨ ∃ bound, bounds = [bound] ∧ bound.name = name ∧ context.BoundFor holds bound := by
  unfold bindConstraint
  split
  · split
    · trivial
    · exact .inl rfl
  · refine bindsRule.bind fun rule? held => ?_
    cases rule? with
    | none => exact .inl rfl
    | some rule => exact .inr ⟨_, rfl, rfl, definition, rule, rfl, held rule rfl⟩

/-- The names that were seen are those of the entries before. So an entry whose name was not seen is
the first of its name, and what is bound for the entries behind has other names. -/
theorem yields_constraints_bindEntries
    (each : ∀ entry name definition, context.Introduces entry name definition →
      ({ context with constraint := name }.rule definition.meaning entry.2).Yields good known
        fun rule? => ∀ rule, rule? = some rule → holds name definition rule)
    {before entries : List (String × Value)} {seen : List String}
    (whole : context.entries = before ++ entries)
    (recorded : ∀ entry ∈ before, ∀ name,
      context.settings.constraints.resolve entry.1 = some name → name ∈ seen) :
    (context.bindEntries seen entries).Yields good known fun bounds =>
      (bounds.Pairwise fun first second => first.name ≠ second.name) ∧
      ∀ bound ∈ bounds, bound.name ∉ seen ∧ context.BoundFor holds bound := by
  induction entries generalizing before seen with
  | nil => exact ⟨.nil, fun _ member => absurd member List.not_mem_nil⟩
  | cons entry entries ih =>
      obtain ⟨key, value⟩ := entry
      have shifted : context.entries = (before ++ [(key, value)]) ++ entries := by
        rw [whole, List.append_assoc, List.singleton_append]
      unfold bindEntries
      split
      · rename_i unresolved
        split
        · trivial
        · apply ih shifted
          intro other member name resolved
          rcases List.mem_append.mp member with earlier | here
          · exact recorded other earlier name resolved
          · rw [List.mem_singleton.mp here] at resolved
            cases unresolved.symm.trans resolved
      · rename_i name resolved
        split
        · trivial
        · rename_i unseen
          have grown : ∀ other ∈ before ++ [(key, value)], ∀ otherName,
              context.settings.constraints.resolve other.1 = some otherName →
              otherName ∈ name :: seen := by
            intro other member otherName otherResolved
            rcases List.mem_append.mp member with earlier | here
            · exact List.mem_cons_of_mem _ (recorded other earlier otherName otherResolved)
            · rw [List.mem_singleton.mp here, resolved] at otherResolved
              cases otherResolved
              exact List.mem_cons_self
          have rest := ih shifted grown
          have others : (context.bindEntries (name :: seen) entries).Yields good known fun bounds =>
              (bounds.Pairwise fun first second => first.name ≠ second.name) ∧
              ∀ bound ∈ bounds, bound.name ∉ seen ∧ context.BoundFor holds bound := by
            refine rest.mono fun bounds ⟨apart, held⟩ => ?_
            refine ⟨apart, fun bound member => ⟨?_, (held bound member).2⟩⟩
            exact fun present => (held bound member).1 (List.mem_cons_of_mem _ present)
          split
          · exact others.bind fun bounds post => post
          · rename_i notType
            split
            · rename_i definition defined
              have introduces : context.Introduces (key, value) name definition := by
                refine ⟨?_, notType, defined⟩
                rw [whole, List.find?_append, List.find?_eq_none.mpr]
                · simp [resolved]
                · intro other member same
                  exact unseen (recorded other member name (eq_of_beq same))
              have bindsRule := each (key, value) name definition introduces
              refine (yields_constraints_bindConstraint bindsRule).bind fun first bound => ?_
              refine rest.bind fun bounds ⟨apart, held⟩ => ?_
              rcases bound with rfl | ⟨bound, rfl, rfl, isFor⟩
              · refine ⟨apart, fun bound member => ⟨?_, (held bound member).2⟩⟩
                exact fun present => (held bound member).1 (List.mem_cons_of_mem _ present)
              · refine ⟨List.pairwise_cons.mpr ⟨?_, apart⟩, ?_⟩
                · intro other member same
                  exact (held other member).1 (same ▸ List.mem_cons_self)
                · intro other member
                  rcases List.mem_cons.mp member with rfl | later
                  · exact ⟨unseen, isFor⟩
                  · refine ⟨?_, (held other later).2⟩
                    exact fun present => (held other later).1 (List.mem_cons_of_mem _ present)
            · exact others.bind fun bounds post => post

theorem yields_rule_ofKinds {value : Value} {kinds : KindSet} (read : context.kinds value = .ok kinds) :
    (context.rule .ofKinds value).Yields good known fun rule? =>
      rule? = some (.check (.ofKinds kinds)) := by
  have bound : context.check .ofKinds value = .ok (some (.ofKinds kinds)) := by
    unfold check
    rw [read]
    rfl
  have checked : (Binding.ofExcept (context.check .ofKinds value)).Yields good known fun check =>
      check = some (.ofKinds kinds) := by
    rw [bound]
    rfl
  exact checked.bind fun check same => congrArg (Option.map Rule.check) same

/-- A document's type is bound first, if it has one. -/
theorem yields_constraints_bindType
    (typed : ((context.settings.constraints.resolve "type").bind
      context.settings.constraints.get).map Definition.meaning = some .ofKinds) :
    context.bindType.Yields good known fun bound =>
      bound = (none, []) ∨ ∃ name kinds, bound = (some kinds, [.ofType name kinds]) := by
  obtain ⟨definition, found, isType⟩ := Option.map_eq_some_iff.mp typed
  obtain ⟨name, resolved, defined⟩ := Option.bind_eq_some_iff.mp found
  unfold bindType typeName?
  rw [resolved]
  cases sibling : context.sibling? "type" with
  | none => exact .inl rfl
  | some value =>
      dsimp only
      rw [defined]
      refine (Binding.yields_ofExcept fun kinds read => read).bind fun kinds read => ?_
      dsimp only
      rw [isType]
      have ofKinds : ({ context with constraint := name }.rule .ofKinds value).Yields good known
          fun rule? => rule? = some (Rule.check (.ofKinds kinds)) := yields_rule_ofKinds read
      refine ofKinds.bind fun rule? same => ?_
      rw [same]
      exact .inr ⟨name, kinds, rfl⟩

/-- What holds of the rule of every constraint that a document introduces, given the kinds that its
type admits, holds of the rules that are bound for the document. -/
theorem yields_constraints_bindAll
    (typed : ((context.settings.constraints.resolve "type").bind
      context.settings.constraints.get).map Definition.meaning = some .ofKinds)
    (each : ∀ declared entry name definition,
      { context with declared := declared }.Introduces entry name definition →
      ({ context with declared := declared, constraint := name }.rule definition.meaning
        entry.2).Yields good known fun rule? => ∀ rule, rule? = some rule → holds name definition rule) :
    context.bindAll.Yields good known fun bound => ∃ others : List Bound,
      (bound = (none, others) ∨ ∃ name kinds, bound = (some kinds, .ofType name kinds :: others)) ∧
      (others.Pairwise fun first second => first.name ≠ second.name) ∧
      ∀ other ∈ others, { context with declared := bound.1 }.BoundFor holds other := by
  refine (yields_constraints_bindType typed).bind fun bound isType => ?_
  have unseen : ∀ entry ∈ ([] : List (String × Value)), ∀ name,
      context.settings.constraints.resolve entry.1 = some name → name ∈ ([] : List String) :=
    fun _ member => absurd member List.not_mem_nil
  have entries := @yields_constraints_bindEntries { context with declared := bound.1 } good known holds
    (each bound.1) [] context.entries [] rfl unseen
  refine entries.bind fun others ⟨apart, held⟩ => ?_
  refine ⟨others, ?_, apart, fun other member => (held other member).2⟩
  rcases isType with rfl | ⟨name, kinds, rfl⟩
  · exact .inl rfl
  · exact .inr ⟨name, kinds, rfl⟩

/-- The same of documents that ask for no schema by name. -/
theorem ensures_constraints_bindAll
    (typed : ((context.settings.constraints.resolve "type").bind
      context.settings.constraints.get).map Definition.meaning = some .ofKinds)
    (each : ∀ declared entry name definition,
      { context with declared := declared }.Introduces entry name definition →
      ({ context with declared := declared, constraint := name }.rule definition.meaning
        entry.2).Ensures good fun rule? => ∀ rule, rule? = some rule → holds name definition rule) :
    context.bindAll.Ensures good fun bound => ∃ others : List Bound,
      (bound = (none, others) ∨ ∃ name kinds, bound = (some kinds, .ofType name kinds :: others)) ∧
      (others.Pairwise fun first second => first.name ≠ second.name) ∧
      ∀ other ∈ others, { context with declared := bound.1 }.BoundFor holds other :=
  (yields_constraints_bindAll typed fun declared entry name definition introduces =>
    (each declared entry name definition introduces).yields).ensures

end Context

end Conformance
