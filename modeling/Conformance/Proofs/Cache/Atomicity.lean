import Conformance.Proofs.Cache.Freshness
/-!
Operations that fail. A compilation may renew cached schemas before it comes to an error, and what was
renewed stays so. Between operations there is nothing left to renew, so an operation that reports an
error leaves the environment as it was (`Environment.eq_of_error`).
-/

namespace Conformance

theorem Compiling.exists_of_failed {ε α β : Type} {result : Except ε α × β}
    (failed : result.1.toOption.isNone = true) : ∃ error rest, result = (.error error, rest) := by
  rcases result with ⟨error | value, rest⟩
  · exact ⟨error, rest, rfl⟩
  · cases failed

namespace Environment

variable {environment after : Environment} {walk : Walk}

theorem Sound.eq_of_compile_error {source : Source} {error : BuildError} (sound : environment.Sound)
    (failed : environment.compile walk source = (.error error, after)) : after = environment := by
  unfold Environment.compile at failed
  cases compiled : (environment.site.compile source).outcome environment.cache with
  | mk result cache =>
      have kept : cache = environment.cache := Site.compileWithin_of_allFresh compiled sound.fresh
      rw [compiled, kept] at failed
      cases result with
      | ok schema => cases failed
      | error error =>
          cases failed
          rfl

theorem Sound.eq_of_build_error {material : Material} {name : Option String} {strict : Option Bool}
    {error : BuildError} (sound : environment.Sound)
    (failed : environment.build walk material name strict = (.error error, after)) :
    after = environment := by
  rcases build_cases environment walk material name strict with same | ⟨source, same, _⟩
  · rwa [failed] at same
  · rw [failed] at same
    exact sound.eq_of_compile_error same.symm

theorem Sound.eq_of_revise_error {schema : Schema} {document : Value} {error : CompileError}
    (sound : environment.Sound)
    (failed : environment.revise walk schema document = (.error error, after)) :
    after = environment := by
  unfold Environment.revise at failed
  dsimp only at failed
  split at failed
  · cases failed
  · rename_i refused cache compiled
    have kept : cache = environment.cache := Site.compileWithin_of_allFresh compiled sound.fresh
    rw [kept] at failed
    cases failed
    rfl

/-- A change of settings is refused before anything is done. -/
theorem eq_of_change_error {change : Change} {error : RegistryError}
    (failed : environment.change walk change = (.error error, after)) : after = environment := by
  unfold Environment.change at failed
  split at failed
  · cases failed
    rfl
  · cases failed

/-- In every state, a build, a revision or a change of settings that reports an error leaves the
environment exactly as it was: its settings, its revision, and every cached schema, those included
that the refused document refers to. -/
theorem eq_of_error (reached : Reachable environment) (walk : Walk) :
    (∀ material name strict error after,
      environment.build walk material name strict = (.error error, after) → after = environment) ∧
    (∀ schema document error after,
      environment.revise walk schema document = (.error error, after) → after = environment) ∧
    (∀ change error after,
      environment.change walk change = (.error error, after) → after = environment) := by
  have sound := reached.sound
  refine ⟨?_, ?_, ?_⟩
  · intro material name strict error after failed
    exact sound.eq_of_build_error failed
  · intro schema document error after failed
    exact sound.eq_of_revise_error failed
  · intro change error after failed
    exact eq_of_change_error failed

/-- A document that refers to a cached schema before it comes to a value that is no bound. -/
def faulty : Value := .object [("items", .string "count"), ("maximum", .bool true)]

/-- After a change of settings, a faulty document is refused as a new schema and as the revision of a
cached one, and a constraint under a name that is taken is refused as well. -/
theorem eq_of_error_relaxed :
    (∃ error, relaxed.build .listed (.document faulty) none none = (.error error, relaxed)) ∧
    (∃ schema error, relaxed.get "counts" = some schema ∧
      relaxed.revise .listed schema faulty = (.error error, relaxed)) ∧
    ∃ error, relaxed.change .listed (.constraint (.general "type" "" .remark) false) =
      (.error error, relaxed) := by
  obtain ⟨built, revised, changed⟩ := eq_of_error reachable_relaxed .listed
  refine ⟨?_, ?_, ?_⟩
  · obtain ⟨error, after, failed⟩ := Compiling.exists_of_failed
      (show (relaxed.build .listed (.document faulty) none none).1.toOption.isNone = true by
        decide +kernel)
    exact ⟨error, failed.trans (congrArg _ (built _ _ _ error after failed))⟩
  · have refused : ((relaxed.get "counts").map fun schema =>
        (relaxed.revise .listed schema faulty).1.toOption.isNone) = some true := by decide +kernel
    obtain ⟨schema, found, isNone⟩ := Option.map_eq_some_iff.mp refused
    obtain ⟨error, after, failed⟩ := Compiling.exists_of_failed isNone
    exact ⟨schema, error, found, failed.trans (congrArg _ (revised _ _ error after failed))⟩
  · obtain ⟨error, after, failed⟩ := Compiling.exists_of_failed
      (show (relaxed.change .listed
        (.constraint (.general "type" "" .remark) false)).1.toOption.isNone = true by
          decide +kernel)
    exact ⟨error, failed.trans (congrArg _ (changed _ error after failed))⟩

end Environment

end Conformance
