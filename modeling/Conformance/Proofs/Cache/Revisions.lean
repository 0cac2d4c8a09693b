import Conformance.Proofs.Cache.Lineage
/-!
Revision numbers. What a document makes in the place of a cached schema has the next number after that of
the cached schema. What is made by way of a schema that is handed in is numbered after that one, which
may have been replaced since; so the numbers under a name grow as long as no operation goes by a
schema that was overtaken (`Environment.revisions_increase`).
-/

namespace Conformance

/-- Whether an operation does not go by a schema that one of a revision has overtaken. -/
def Operation.Exceeds (revision : Nat) : Operation → Prop
  | .build (.schema handle) _ _ => revision < handle.revision
  | .revise handle _ => revision ≤ handle.revision
  | _ => True

namespace Environment

variable {environment first last : Environment} {walk : Walk} {operation : Operation} {key : String}
  {old new schema : Schema}

theorem lt_revisionOver_iff (given : environment.given walk operation = some schema) :
    old.revision < operation.revisionOver (some old) ↔ operation.Exceeds old.revision := by
  cases operation with
  | build material name strict =>
      cases material with
      | document document => exact iff_of_true (Nat.lt_succ_self old.revision) trivial
      | schema handle => exact .rfl
  | revise handle document => exact Nat.lt_succ_iff
  | remove name => cases given
  | recompile => cases given
  | change change => cases given

/-- What stands under a name after an operation has the source of what stood there before, or is what the
operation gives. -/
theorem Sound.source_eq_or_given (sound : environment.Sound)
    (found : environment.get key = some old)
    (placed : (environment.perform walk operation).get key = some new) :
    new.source = old.source ∨ environment.given walk operation = some new ∧
      new.revision = operation.revisionOver (some old) := by
  rcases sound.descends_or_stores walk operation with descends | ⟨schema, given, stores, numbered⟩
  · obtain ⟨before, foundBefore, same⟩ := descends key new placed
    cases found.symm.trans foundBefore
    exact .inl same
  · by_cases here : key = schema.name
    · subst here
      cases stores.placed.symm.trans placed
      rw [found] at numbered
      exact .inr ⟨given, numbered⟩
    · obtain ⟨before, foundBefore, same⟩ := stores.descends key new placed
      rw [Table.lookup_put_of_ne _ _ here] at foundBefore
      cases found.symm.trans foundBefore
      exact .inl same

/-- One operation: a schema of another document has a greater number, exactly if the operation does not
go by an overtaken schema. -/
theorem Sound.revision_lt_iff (sound : environment.Sound) (found : environment.get key = some old)
    (placed : (environment.perform walk operation).get key = some new)
    (changed : new.document ≠ old.document) :
    old.revision < new.revision ↔ operation.Exceeds old.revision := by
  rcases sound.source_eq_or_given found placed with same | ⟨given, numbered⟩
  · exact absurd (congrArg Source.document same) changed
  · rw [numbered]
    exact lt_revisionOver_iff given

/-- Whether an operation replaces the schema of a name by way of a schema that it has overtaken. -/
def FallsBack (environment : Environment) (walk : Walk) (operation : Operation) (key : String) :
    Prop :=
  ∃ old new, environment.get key = some old ∧
    (environment.perform walk operation).get key = some new ∧
    new.source ≠ old.source ∧ ¬ operation.Exceeds old.revision

/-- A run from one environment to another in which a name stays cached and no operation falls back. -/
inductive Ascends (key : String) (first : Environment) : Environment → Prop where
  | refl : Ascends key first first
  | perform {between : Environment} (walk : Walk) (operation : Operation)
      (earlier : Ascends key first between) (cached : Site.IsCached between.cache key)
      (current : ¬ between.FallsBack walk operation key) :
      Ascends key first (between.perform walk operation)

theorem Ascends.reachable (run : Ascends key first last) (reached : Reachable first) :
    Reachable last := by
  induction run with
  | refl => exact reached
  | perform walk operation earlier cached current ih => exact .perform walk operation ih

/-- A run: the numbers never fall, and with every other document they grow. -/
theorem Ascends.revision_lt (run : Ascends key first last) (reached : Reachable first)
    (found : first.get key = some old) (placed : last.get key = some new) :
    old.revision < new.revision ∨ new.revision = old.revision ∧ new.document = old.document := by
  induction run generalizing new with
  | refl =>
      cases found.symm.trans placed
      exact .inr ⟨rfl, rfl⟩
  | @perform between walk operation earlier cached current ih =>
      obtain ⟨middle, foundMiddle⟩ := cached
      have soFar := ih foundMiddle
      by_cases same : new.source = middle.source
      · have sameRevision : new.revision = middle.revision := congrArg Source.revision same
        have sameDocument : new.document = middle.document := congrArg Source.document same
        rwa [sameRevision, sameDocument]
      · have sound := (earlier.reachable reached).sound
        obtain ⟨given, numbered⟩ := (sound.source_eq_or_given foundMiddle placed).resolve_left same
        have exceeds : operation.Exceeds middle.revision := Classical.byContradiction fun falls =>
          current ⟨middle, new, foundMiddle, placed, same, falls⟩
        have grown := (lt_revisionOver_iff given).mpr exceeds
        omega

/-- An operation that replaces a schema by one of another document gives it a greater number exactly if it
does not go by a schema that was overtaken: a build of a document never does, a revision does not if
it revises a schema at least as recent as the cached one, and a build of a compiled schema if that is
more recent. In a run in which no operation falls back, the numbers under a name never fall, and they
grow with every other document. -/
theorem revisions_increase (reached : Reachable environment) :
    (∀ walk operation key old new, environment.get key = some old →
      (environment.perform walk operation).get key = some new → new.document ≠ old.document →
      (old.revision < new.revision ↔ operation.Exceeds old.revision)) ∧
    ∀ key last old new, Ascends key environment last → environment.get key = some old →
      last.get key = some new →
      old.revision < new.revision ∨ new.revision = old.revision ∧ new.document = old.document :=
  ⟨fun _ _ _ _ _ found placed changed => reached.sound.revision_lt_iff found placed changed,
    fun _ _ _ _ run found placed => run.revision_lt reached found placed⟩

/-- A document with an upper bound. -/
def upTo (bound : Nat) : Value := .object [("maximum", .ofNat bound)]

/-- An environment after such a document is built under a fixed name. -/
def bounded (environment : Environment) (bound : Nat) : Environment :=
  environment.perform .listed (.build (.document (upTo bound)) (some "n") none)

theorem reachable_bounded (bound : Nat) : Reachable ((native 0).bounded bound) :=
  .perform _ _ (.initial 0 "native" _ _ _)

theorem document_ne_of_beq {first second : Schema}
    (seen : (first.document == second.document, second.document == second.document) =
      (false, true)) : first.document ≠ second.document := by
  intro same
  rw [same] at seen
  cases (congrArg Prod.fst seen).symm.trans (congrArg Prod.snd seen)

/-- A revision of the cached schema and then another document: the number grows both times. -/
theorem revisions_increase_bounded :
    ∃ first second third, ((native 0).bounded 1).get "n" = some first ∧
      (((native 0).bounded 1).perform .listed (.revise first (upTo 2))).get "n" = some second ∧
      first.revision < second.revision ∧
      ((((native 0).bounded 1).perform .listed (.revise first (upTo 2))).bounded 3).get "n" =
        some third ∧ first.revision < third.revision := by
  have states : ((((native 0).bounded 1).get "n").map fun first =>
      let revised := ((native 0).bounded 1).perform .listed (.revise first (upTo 2))
      (revised.get "n").map fun second => ((revised.bounded 3).get "n").map fun third =>
        ((second.document == first.document, first.document == first.document),
          (third.document == first.document, first.document == first.document))) =
      some (some (some ((false, true), (false, true)))) := by decide +kernel
  obtain ⟨first, found, states⟩ := Option.map_eq_some_iff.mp states
  obtain ⟨second, foundSecond, states⟩ := Option.map_eq_some_iff.mp states
  obtain ⟨third, foundThird, states⟩ := Option.map_eq_some_iff.mp states
  obtain ⟨step, run⟩ := revisions_increase (reachable_bounded 1)
  have grown := (step .listed (.revise first (upTo 2)) "n" first second found foundSecond
    (document_ne_of_beq (congrArg Prod.fst states))).mpr (Nat.le_refl _)
  have revised : ¬ ((native 0).bounded 1).FallsBack .listed (.revise first (upTo 2)) "n" := by
    rintro ⟨old, _, foundOld, _, _, falls⟩
    cases found.symm.trans foundOld
    exact falls (Nat.le_refl _)
  have ascends : Ascends "n" ((native 0).bounded 1)
      ((((native 0).bounded 1).perform .listed (.revise first (upTo 2))).bounded 3) :=
    .perform _ _ (.perform _ _ .refl ⟨first, found⟩ revised) ⟨second, foundSecond⟩
      fun ⟨_, _, _, _, _, falls⟩ => falls trivial
  refine ⟨first, second, third, found, foundSecond, grown, foundThird, ?_⟩
  exact (run "n" _ first third ascends found foundThird).resolve_right fun same =>
    document_ne_of_beq (congrArg Prod.snd states) same.2

/-- A schema that was replaced twice by documents is revised, and its second revision takes the place of
the third. -/
theorem revision_falls :
    ∃ environment, Reachable environment ∧
      ∃ first old new, ((native 0).bounded 1).get "n" = some first ∧
        environment.get "n" = some old ∧
        (environment.perform .listed (.revise first (upTo 4))).get "n" = some new ∧
        new.document ≠ old.document ∧ new.revision < old.revision := by
  have states : ((((native 0).bounded 1).get "n").map fun first =>
      let narrowed := (((native 0).bounded 1).bounded 2).bounded 3
      (narrowed.get "n").map fun old =>
        ((narrowed.perform .listed (.revise first (upTo 4))).get "n").map fun new =>
          ((new.document == old.document, old.document == old.document),
            (new.revision, old.revision))) =
      some (some (some ((false, true), (1, 2)))) := by decide +kernel
  obtain ⟨first, found, states⟩ := Option.map_eq_some_iff.mp states
  obtain ⟨old, foundOld, states⟩ := Option.map_eq_some_iff.mp states
  obtain ⟨new, placed, states⟩ := Option.map_eq_some_iff.mp states
  have revisions := congrArg Prod.snd states
  have newRevision : new.revision = 1 := congrArg Prod.fst revisions
  have oldRevision : old.revision = 2 := congrArg Prod.snd revisions
  refine ⟨_, .perform _ _ (.perform _ _ (reachable_bounded 1)), first, old, new, found, foundOld,
    placed, document_ne_of_beq (congrArg Prod.fst states), ?_⟩
  omega

end Environment

end Conformance
