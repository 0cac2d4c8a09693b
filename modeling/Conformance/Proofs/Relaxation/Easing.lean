import Conformance.Proofs.Conversion.Makes
/-!
Easing. A behaviour eases another if it lets pass every instance that the other does, where each is told
on its own whether the instance is partial. What is put together of behaviours that ease others eases what
is put together of these in the same way (`eases_…`), but for the behaviours whose refusal may let an
instance pass: these have to decide alike.
-/

namespace Conformance

namespace Behaviour

variable {before after : Bool} {behaviour behaviour' : Behaviour}

/-- Whether every instance that one behaviour lets pass, told `before`, is let pass by another, told
`after`. -/
def Eases (before after : Bool) (behaviour behaviour' : Behaviour) : Prop :=
  ∀ subject, behaviour.accepts before subject = true → behaviour'.accepts after subject = true

/-- Whether two behaviours let the same instances pass. -/
def DecidesAlike (before after : Bool) (behaviour behaviour' : Behaviour) : Prop :=
  ∀ subject, behaviour.accepts before subject = behaviour'.accepts after subject

theorem Eases.refl (isPartial : Bool) (behaviour : Behaviour) :
    Eases isPartial isPartial behaviour behaviour := fun _ accepted => accepted

theorem eases_pass : Eases before after pass pass := fun _ _ => rfl

theorem eases_refuse : Eases before after refuse refuse := fun _ accepted => nomatch accepted

theorem decidesAlike_pass : DecidesAlike before after pass pass := fun _ => rfl

theorem decidesAlike_refuse : DecidesAlike before after refuse refuse := fun _ => rfl

theorem eases_under (eases : Eases before after behaviour behaviour') (segment : Segment) :
    Eases before after (behaviour.under segment) (behaviour'.under segment) := by
  intro subject accepted
  rw [accepts_under] at accepted ⊢
  exact eases subject accepted

/-- A guard may refuse less. -/
theorem eases_guarded (eases : Eases before after behaviour behaviour') (applicable : KindSet)
    {strict strict' : Bool} (milder : strict = false → strict' = false) :
    Eases before after (behaviour.guarded applicable strict)
      (behaviour'.guarded applicable strict') := by
  intro subject accepted
  rw [accepts_guarded] at accepted ⊢
  split
  · rename_i applies
    rw [if_pos applies] at accepted
    exact eases subject accepted
  · rename_i applies
    rw [if_neg applies] at accepted
    exact milder accepted

theorem eases_items {positional positional' : List Behaviour} {rest rest' : Behaviour}
    (each : List.Forall₂ (Eases before after) positional positional')
    (others : Eases before after rest rest') :
    Eases before after (items positional rest) (items positional' rest') := by
  intro subject accepted
  rw [accepts_items] at accepted ⊢
  obtain ⟨items, isArray, many, all⟩ := accepted
  refine ⟨items, isArray, each.length_eq ▸ many, fun position item found => ?_⟩
  exact rel_getD (rel_getElem?_of_parallel each position) others item (all position item found)

theorem eases_contains (eases : Eases before after behaviour behaviour') :
    Eases before after (contains behaviour) (contains behaviour') := by
  intro subject accepted
  rw [accepts_contains] at accepted ⊢
  obtain ⟨items, isArray, item, member, held⟩ := accepted
  exact ⟨items, isArray, item, member, eases item held⟩

theorem eases_entries {listed listed' : List (String × Behaviour)}
    (each : List.Forall₂ (AtKey (Eases before after)) listed listed') :
    Eases before after (entries listed) (entries listed') := by
  intro subject accepted
  rw [accepts_entries] at accepted ⊢
  obtain ⟨members, isObject, all⟩ := accepted
  refine ⟨members, isObject, forall_mem_of_parallel each ?_ all⟩
  rintro ⟨name, choice⟩ ⟨_, choice'⟩ ⟨rfl, eases⟩ held member found
  exact eases member (held member found)

theorem eases_patternEntries {listed listed' : List (Pattern × Behaviour)}
    (each : List.Forall₂ (AtKey (Eases before after)) listed listed') :
    Eases before after (patternEntries listed) (patternEntries listed') := by
  intro subject accepted
  rw [accepts_patternEntries] at accepted ⊢
  obtain ⟨members, isObject, all⟩ := accepted
  refine ⟨members, isObject, forall_mem_of_parallel each ?_ all⟩
  rintro ⟨pattern, choice⟩ ⟨_, choice'⟩ ⟨rfl, eases⟩ held name member found matched
  exact eases member (held name member found matched)

theorem eases_additionalEntries (eases : Eases before after behaviour behaviour')
    (listed : List String) (patterns : List Pattern) :
    Eases before after (additionalEntries listed patterns behaviour)
      (additionalEntries listed patterns behaviour') := by
  intro subject accepted
  rw [accepts_additionalEntries] at accepted ⊢
  obtain ⟨members, isObject, all⟩ := accepted
  refine ⟨members, isObject, fun name member found unlisted unmatched => ?_⟩
  exact eases member (all name member found unlisted unmatched)

theorem eases_entryNames (eases : Eases before after behaviour behaviour') :
    Eases before after (entryNames behaviour) (entryNames behaviour') := by
  intro subject accepted
  rw [accepts_entryNames] at accepted ⊢
  obtain ⟨members, isObject, all⟩ := accepted
  exact ⟨members, isObject, fun name member => eases _ (all name member)⟩

/-- Whether two demands ask for the same peers, or for behaviours of which the second eases the
first. -/
inductive Demand.Eases (before after : Bool) : Demand → Demand → Prop
  | peers (names : List String) : Demand.Eases before after (.peers names) (.peers names)
  | whole {behaviour behaviour' : Behaviour} (eases : behaviour.Eases before after behaviour') :
      Demand.Eases before after (.whole behaviour) (.whole behaviour')

theorem eases_peers (later : before = true → after = true) (names : List String) (key : String)
    (members : List (String × Value)) :
    Eases before after ((Demand.peers names).behaviour key members)
      ((Demand.peers names).behaviour key members) := by
  intro subject accepted
  unfold Demand.behaviour at accepted ⊢
  rw [accepts_ofCheck] at accepted ⊢
  cases before with
  | true => simp [later rfl]
  | false =>
      cases absent : (Check.missing members names).isEmpty with
      | true => simp [absent]
      | false => simp [absent] at accepted

theorem eases_dependencies (later : before = true → after = true)
    {demands demands' : List (String × Demand)}
    (each : List.Forall₂ (AtKey (Demand.Eases before after)) demands demands') :
    Eases before after (dependencies demands) (dependencies demands') := by
  intro subject accepted
  rw [accepts_dependencies] at accepted ⊢
  rcases accepted with none | ⟨members, isObject, all⟩
  · subst none
    cases each
    exact .inl rfl
  · refine .inr ⟨members, isObject, forall_mem_of_parallel each ?_ all⟩
    rintro ⟨key, demand⟩ ⟨_, demand'⟩ ⟨rfl, eases⟩ held present
    cases eases with
    | peers names => exact eases_peers later names key members subject (held present)
    | whole eases => exact eases subject (held present)

theorem eases_allOf {behaviours behaviours' : List Behaviour}
    (each : List.Forall₂ (Eases before after) behaviours behaviours') :
    Eases before after (allOf behaviours) (allOf behaviours') := by
  intro subject accepted
  rw [accepts_allOf] at accepted ⊢
  exact forall_mem_of_parallel each (fun _ _ eases held => eases subject held) accepted

theorem eases_anyOf {behaviours behaviours' : List Behaviour}
    (each : List.Forall₂ (Eases before after) behaviours behaviours') :
    Eases before after (anyOf behaviours) (anyOf behaviours') := by
  intro subject accepted
  rw [accepts_anyOf] at accepted ⊢
  obtain ⟨behaviour, member, held⟩ := accepted
  obtain ⟨behaviour', member', eases⟩ := exists_mem_of_parallel each member
  exact ⟨behaviour', member', eases subject held⟩

/-- One more branch that passes may be one too many, so the branches have to decide alike. -/
theorem eases_oneOf {behaviours behaviours' : List Behaviour}
    (each : List.Forall₂ (DecidesAlike before after) behaviours behaviours') :
    Eases before after (oneOf behaviours) (oneOf behaviours') := by
  intro subject accepted
  rw [accepts_oneOf] at accepted ⊢
  obtain ⟨position, bound, only⟩ := accepted
  refine ⟨position, each.length_eq ▸ bound, fun other behaviour' found' => ?_⟩
  have rel := rel_flip (rel_getElem?_of_parallel each other)
  obtain ⟨behaviour, found, alike⟩ := exists_of_rel rel found'
  rw [← alike subject]
  exact only other behaviour found

theorem eases_negation (alike : DecidesAlike before after behaviour behaviour') :
    Eases before after (negation behaviour) (negation behaviour') := by
  intro subject accepted
  rw [accepts_negation] at accepted ⊢
  rwa [← alike subject]

theorem eases_conditional {condition condition' : Behaviour}
    {positive positive' negative negative' : Option Behaviour}
    (alike : DecidesAlike before after condition condition')
    (first : Option.Rel (Eases before after) positive positive')
    (second : Option.Rel (Eases before after) negative negative') :
    Eases before after (conditional condition positive negative)
      (conditional condition' positive' negative') := by
  intro subject accepted
  rw [accepts_conditional, alike subject] at accepted
  rw [accepts_conditional]
  have branch {choice choice' : Option Behaviour}
      (rel : Option.Rel (Eases before after) choice choice')
      (all : ∀ behaviour, choice = some behaviour → behaviour.accepts before subject = true) :
      ∀ behaviour, choice' = some behaviour → behaviour.accepts after subject = true := by
    intro behaviour' found'
    obtain ⟨behaviour, found, eases⟩ := exists_of_rel (rel_flip rel) found'
    exact eases subject (all behaviour found)
  exact ⟨fun passed => branch first (accepted.1 passed),
    fun refused => branch second (accepted.2 refused)⟩

/-- The entries that a partial instance lacks are all that a check lets pass on top. -/
theorem eases_ofRule (later : before = true → after = true) (check : Check) :
    Eases before after (ofRule check) (ofRule check) := by
  intro subject accepted
  rw [accepts_ofRule] at accepted ⊢
  cases check with
  | required names =>
      cases before with
      | true => rw [later rfl]; rfl
      | false =>
          cases after with
          | true => rfl
          | false => exact accepted
  | _ => exact accepted

end Behaviour

/-- A schema eases another if its constraints do, one by one. -/
theorem Schema.eases {before after : Bool} {schema schema' : Schema}
    (each : List.Forall₂ (fun bound bound' =>
      Behaviour.Eases before after bound.step.behaviour bound'.step.behaviour)
      schema.constraints schema'.constraints) :
    Behaviour.Eases before after schema.behaviour schema'.behaviour := by
  intro subject accepted
  rw [Schema.accepts_iff] at accepted ⊢
  exact forall_mem_of_parallel each (fun _ _ eases held => eases subject held) accepted

end Conformance
