import Conformance.Proofs.Cache.Forest
/-!
When the cache cannot be noticed. A build of a document gives the very schema that the document
compiles to, unless it finds a schema of another document that counts as equal. Equality of documents
ignores the order of their keys, which is the order of the constraints; so a document under the name
of a reordered one gets the constraints in the order of that one (`Environment.build_reordered`).
-/

namespace Conformance

namespace Environment

variable {environment after : Environment} {walk : Walk} {document : Value} {name : Option String}
  {strict : Option Bool} {schema : Schema}

/-- The strictness of a build. -/
def strictness (environment : Environment) (strict : Option Bool) : Bool :=
  strict.getD environment.settings.config.strict

/-- What a build of a document gives was cached and current, or is compiled. -/
theorem build_document_ok
    (built : environment.build walk (.document document) name strict = (.ok schema, after)) :
    (environment.get (name.getD (document.digest environment.name)) = some schema ∧
      environment.isCurrent schema document (environment.strictness strict) name.isSome = true) ∨
    ∃ revision cache, (environment.site.compile
      ⟨document, name, environment.strictness strict, revision⟩).outcome environment.cache =
        (.ok schema, cache) := by
  have compiles : ∀ {source : Source}, environment.compile walk source = (.ok schema, after) →
      ∃ cache, (environment.site.compile source).outcome environment.cache =
        (.ok schema, cache) := by
    intro source compiled
    unfold Environment.compile at compiled
    split at compiled
    · rename_i result cache outcome
      cases compiled
      exact ⟨cache, outcome⟩
    · cases compiled
  unfold Environment.build at built
  split at built
  · cases built
  · dsimp only at built
    split at built
    · rename_i cached found
      split at built
      · rename_i current
        cases built
        exact .inl ⟨found, current⟩
      · exact .inr ⟨_, compiles built⟩
    · exact .inr ⟨_, compiles built⟩

/-- What a build gives has the name and the strictness that were asked for. -/
theorem source_of_build (reached : Reachable environment)
    (built : environment.build walk (.document document) name strict = (.ok schema, after)) :
    schema.source = ⟨schema.document, name, environment.strictness strict, schema.revision⟩ := by
  rcases build_document_ok built with ⟨found, current⟩ | ⟨revision, cache, compiled⟩
  · have belongs := reached.sound.belong _ schema found
    simp only [isCurrent, Bool.and_eq_true, beq_iff_eq] at current
    obtain ⟨⟨⟨_, sameStrict⟩, _⟩, sameNamed⟩ := current
    unfold Schema.source Schema.givenName
    rw [sameStrict, sameNamed]
    cases name with
    | none => rfl
    | some given =>
        rw [belongs.name]
        rfl
  · have source := Site.source_of_compileWithin compiled
    have sameDocument : schema.document = document := congrArg Source.document source
    have sameRevision : schema.revision = revision := congrArg Source.revision source
    rw [source, sameDocument, sameRevision]

/-- A build gives what its document compiles to exactly if this is the document of the schema that
it gives, key for key, and that schema is settled. The latter holds throughout a history of forests,
as long as the references of the schema are cached. -/
theorem build_iff (reached : Reachable environment)
    (built : environment.build walk (.document document) name strict = (.ok schema, after)) :
    ((environment.site.compile
        ⟨document, name, environment.strictness strict, schema.revision⟩).outcome
          environment.cache = (.ok schema, environment.cache) ↔
      schema.document = document ∧ environment.site.Settled environment.cache schema) ∧
    (ForestReachable environment →
      (∀ reference ∈ schema.references, (environment.get reference).isSome) →
      environment.site.Settled environment.cache schema) := by
  have source := source_of_build reached built
  constructor
  · constructor
    · intro compiled
      have same : schema.document = document :=
        congrArg Source.document (Site.source_of_compileWithin compiled)
      rw [← same, ← source] at compiled
      exact ⟨same, compiled⟩
    · rintro ⟨same, settled⟩
      unfold Site.Settled at settled
      rwa [source, same] at settled
  · intro forest references
    rcases build_document_ok built with ⟨found, _⟩ | ⟨revision, cache, compiled⟩
    · apply forest.coherent _ schema found (reached.sound.fresh _ schema found)
      intro reference refers
      exact Option.isSome_iff_exists.mp (references reference refers)
    · have same := Site.compileWithin_of_allFresh compiled reached.sound.fresh
      subst same
      exact Site.settled_of_compileWithin (Nat.le_refl _) compiled

/-- A constant in front of a bound that it exceeds. -/
def limited : Environment :=
  (native 0).perform .listed
    (.build (.document (.object [("const", .ofNat 9), ("maximum", .ofNat 5)])) (some "n") none)

theorem forestReachable_limited : ForestReachable limited :=
  .perform _ _ (.initial 0 "native" _ _ _) (isForest_of_isFlat (by decide +kernel))

/-- The same constraints in the other order. -/
def reordered : Value := .object [("maximum", .ofNat 5), ("const", .ofNat 9)]

/-- Under another name, the reordered document gets what it compiles to. -/
theorem build_iff_limited :
    ∃ schema after,
      limited.build .listed (.document reordered) (some "m") none = (.ok schema, after) ∧
      (limited.site.compile ⟨reordered, some "m", limited.strictness none, schema.revision⟩).outcome
        limited.cache = (.ok schema, limited.cache) := by
  have reached := forestReachable_limited
  obtain ⟨schema, after, built, seen⟩ := Compiling.exists_of_observed
    (show (limited.build .listed (.document reordered) (some "m") none).1.toOption.map
      (fun schema => (schema.references, (limited.get "m").isNone)) = some ([], true) by
        decide +kernel)
  obtain ⟨unreferring, absent⟩ := Prod.mk.inj seen
  refine ⟨schema, after, built, (build_iff reached.reachable built).1.mpr ⟨?_, ?_⟩⟩
  · rcases build_document_ok built with ⟨found, _⟩ | ⟨revision, cache, compiled⟩
    · rw [show limited.get "m" = some schema from found] at absent
      cases absent
    · exact congrArg Source.document (Site.source_of_compileWithin compiled)
  · apply (build_iff reached.reachable built).2 reached
    rw [unreferring]
    exact fun _ member => absurd member List.not_mem_nil

/-- The whole number that a conversion gives. -/
def converted? : Except Failure Value → Option Int64
  | .ok (.number (.int value)) => some value
  | _ => none

theorem eq_of_converted? {result : Except Failure Value} {value : Int64}
    (converted : converted? result = some value) : result = .ok (.ofInt64 value) := by
  unfold converted? at converted
  split at converted
  · cases converted
    rfl
  · cases converted

/-- Under the name of a schema with the same constraints in another order, a document gets that
schema: three is converted to nine first and bounded then, not the other way round. -/
theorem build_reordered :
    ForestReachable limited ∧ ∃ schema after fresh,
      limited.build .listed (.document reordered) (some "n") none = (.ok schema, after) ∧
      (limited.site.compile
        ⟨reordered, some "n", limited.strictness none, schema.revision⟩).outcome limited.cache =
          (.ok fresh, limited.cache) ∧
      schema.convert (.ofInt64 3) false = .ok (.ofInt64 5) ∧
      fresh.convert (.ofInt64 3) false = .ok (.ofInt64 9) := by
  obtain ⟨schema, after, built, seen⟩ := Compiling.exists_of_observed
    (show (limited.build .listed (.document reordered) (some "n") none).1.toOption.map
      (fun schema => (schema.revision, converted? (schema.convert (.ofInt64 3) false))) =
        some (0, some 5) by decide +kernel)
  obtain ⟨revision, five⟩ := Prod.mk.inj seen
  obtain ⟨fresh, cache, compiled, nine⟩ := Compiling.exists_of_observed
    (show ((limited.site.compile ⟨reordered, some "n", limited.strictness none, 0⟩).outcome
      limited.cache).1.toOption.map
        (fun schema => converted? (schema.convert (.ofInt64 3) false)) = some (some 9) by
          decide +kernel)
  refine ⟨forestReachable_limited, schema, after, fresh, built, ?_, eq_of_converted? five,
    eq_of_converted? nine⟩
  rw [revision, compiled,
    Site.compileWithin_of_allFresh compiled forestReachable_limited.reachable.sound.fresh]

end Environment

end Conformance
