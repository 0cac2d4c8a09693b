import Conformance.Proofs.Relaxation.Easing
/-!
Completion. A behaviour completes another if conversion makes the same of every instance that the other
makes anything of. What is put together of behaviours that complete others completes what is put together
of these in the same way (`completes_…`), where instances are not chosen between by what is refused: a
choice may be made earlier by a behaviour that refuses less.
-/

namespace Conformance

namespace Behaviour

variable {behaviour behaviour' : Behaviour}

/-- Whether conversion with one behaviour makes of an instance whatever conversion with another makes of
it. -/
def Completes (behaviour behaviour' : Behaviour) : Prop :=
  ∀ isPartial subject value, behaviour.Makes isPartial subject value →
    behaviour'.Makes isPartial subject value

/-- Whether a behaviour eases another, whether instances are partial or not. -/
def EasesEither (behaviour behaviour' : Behaviour) : Prop :=
  ∀ isPartial, Eases isPartial isPartial behaviour behaviour'

theorem Completes.refl (behaviour : Behaviour) : behaviour.Completes behaviour :=
  fun _ _ _ makes => makes

theorem EasesEither.refl (behaviour : Behaviour) : behaviour.EasesEither behaviour :=
  fun isPartial => Eases.refl isPartial behaviour

theorem completes_under (completes : behaviour.Completes behaviour') (segment : Segment) :
    (behaviour.under segment).Completes (behaviour'.under segment) := by
  intro isPartial subject value makes
  rw [makes_under] at makes ⊢
  exact completes isPartial subject value makes

theorem completes_guarded (completes : behaviour.Completes behaviour') (applicable : KindSet)
    {strict strict' : Bool} (milder : strict = false → strict' = false) :
    (behaviour.guarded applicable strict).Completes (behaviour'.guarded applicable strict') := by
  intro isPartial subject value makes
  rw [makes_guarded] at makes ⊢
  split
  · rename_i applies
    rw [if_pos applies] at makes
    exact completes isPartial subject value makes
  · rename_i applies
    rw [if_neg applies] at makes
    exact ⟨milder makes.1, makes.2⟩

/-- What only looks at instances makes the instance of each that it lets pass. -/
theorem completes_ofCheck {check check' : Bool → Value → Option Failure}
    (eases : (ofCheck check).EasesEither (ofCheck check')) :
    (ofCheck check).Completes (ofCheck check') := by
  intro isPartial subject value makes
  rw [makes_ofCheck] at makes ⊢
  exact ⟨eases isPartial subject makes.1, makes.2⟩

theorem completes_items {positional positional' : List Behaviour} {rest rest' : Behaviour}
    (each : List.Forall₂ Completes positional positional') (others : rest.Completes rest') :
    (items positional rest).Completes (items positional' rest') := by
  intro isPartial subject value makes
  rw [makes_items] at makes ⊢
  obtain ⟨items, results, isArray, isArray', many, length, all⟩ := makes
  refine ⟨items, results, isArray, isArray', each.length_eq ▸ many, length, ?_⟩
  intro position item result found found'
  have completes := rel_getD (rel_getElem?_of_parallel each position) others
  exact completes isPartial item result (all position item result found found')

theorem completes_onEntries {select select' : List String → List (String × Behaviour)}
    (each : ∀ names, List.Forall₂ (AtKey Completes) (select names) (select' names)) :
    (onEntries select).Completes (onEntries select') := by
  intro isPartial subject value makes
  rw [makes_onEntries] at makes ⊢
  obtain ⟨members, results, isObject, isObject', threads⟩ := makes
  refine ⟨members, results, isObject, isObject', threads.imp ((each _).imp ?_)⟩
  rintro ⟨name, choice⟩ ⟨_, choice'⟩ ⟨rfl, completes⟩ before after makes
  unfold MakesEntry at makes ⊢
  dsimp only at makes ⊢
  split
  · rename_i absent
    rwa [absent] at makes
  · rename_i member found
    rw [found] at makes
    obtain ⟨made, makes, same⟩ := makes
    exact ⟨made, completes isPartial member made makes, same⟩

theorem completes_entries {listed listed' : List (String × Behaviour)}
    (each : List.Forall₂ (AtKey Completes) listed listed') :
    (entries listed).Completes (entries listed') := by
  refine completes_onEntries fun names => forall₂_filter each fun choice choice' both => ?_
  rw [both.1]

theorem completes_patternEntries {listed listed' : List (Pattern × Behaviour)}
    (each : List.Forall₂ (AtKey Completes) listed listed') :
    (patternEntries listed).Completes (patternEntries listed') := by
  have same : ∀ names : List String, List.Forall₂ Eq names names :=
    fun _ => List.forall₂_same.mpr fun _ _ => rfl
  refine completes_onEntries fun names => List.rel_flatMap (same names) ?_
  rintro name _ rfl
  refine List.rel_map (fun choice choice' both => ⟨rfl, both.2⟩) (forall₂_filter each ?_)
  intro choice choice' both
  rw [both.1]

theorem completes_additionalEntries (completes : behaviour.Completes behaviour')
    (listed : List String) (patterns : List Pattern) :
    (additionalEntries listed patterns behaviour).Completes
      (additionalEntries listed patterns behaviour') := by
  refine completes_onEntries fun names => ?_
  refine List.forall₂_map_left_iff.mpr (List.forall₂_map_right_iff.mpr ?_)
  exact List.forall₂_same.mpr fun _ _ => ⟨rfl, completes⟩

/-- Whether two demands ask for the same peers, or for behaviours of which the second completes the
first. -/
inductive Demand.Completes : Demand → Demand → Prop
  | peers (names : List String) : Demand.Completes (.peers names) (.peers names)
  | whole {behaviour behaviour' : Behaviour} (completes : behaviour.Completes behaviour') :
      Demand.Completes (.whole behaviour) (.whole behaviour')

theorem completes_dependencies {demands demands' : List (String × Demand)}
    (each : List.Forall₂ (AtKey Demand.Completes) demands demands') :
    (dependencies demands).Completes (dependencies demands') := by
  intro isPartial subject value makes
  rw [makes_dependencies] at makes ⊢
  refine makes.imp (each.imp ?_)
  rintro ⟨key, demand⟩ ⟨_, demand'⟩ ⟨rfl, completes⟩ before after ⟨members, isObject, makes⟩
  refine ⟨members, isObject, ?_⟩
  dsimp only at makes ⊢
  split
  · rename_i present
    rw [if_pos present] at makes
    cases completes with
    | peers names => exact makes
    | whole completes => exact completes isPartial before after makes
  · rename_i absent
    rwa [if_neg absent] at makes

theorem completes_allOf {behaviours behaviours' : List Behaviour}
    (each : List.Forall₂ Completes behaviours behaviours') :
    (allOf behaviours).Completes (allOf behaviours') := by
  intro isPartial subject value makes
  rw [makes_allOf] at makes ⊢
  exact makes.imp (each.imp fun _ _ completes => completes isPartial)

end Behaviour

/-- A schema completes another if its constraints do, one by one. -/
theorem Schema.completes {schema schema' : Schema}
    (each : List.Forall₂ (fun bound bound' =>
      Behaviour.Completes bound.step.behaviour bound'.step.behaviour)
      schema.constraints schema'.constraints) :
    Behaviour.Completes schema.behaviour schema'.behaviour := by
  intro isPartial subject value makes
  rw [Schema.makes_iff] at makes ⊢
  exact makes.imp (each.imp fun _ _ completes => completes isPartial)

end Conformance
