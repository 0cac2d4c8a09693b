import Conformance.Proofs.Compilation.Positions
import Conformance.Proofs.Results
/-!
Values read in two contexts. Where two contexts have the same formats and strictness and agree on which
bounds are exclusive, a constraint's value stands for the same check in both
(`Context.ReadsAlike.toOption_check`). Errors name the constraint at hand and may differ.
-/

namespace Conformance

namespace Context

variable {context context' : Context} {value value' : Value}

theorem toOption_number (context context' : Context) (value : Value) :
    (context.number value).toOption = (context'.number value).toOption := by
  unfold number
  split
  · rfl
  · split <;> rfl
  · rfl

theorem toOption_count (context context' : Context) (value : Value) :
    (context.count value).toOption = (context'.count value).toOption := by
  unfold count
  split
  · split <;> rfl
  · rfl

theorem toOption_namesOfItems (context context' : Context) (items : List Value) :
    (context.namesOfItems items).toOption = (context'.namesOfItems items).toOption := by
  induction items with
  | nil => rfl
  | cons item items ih =>
      cases item with
      | string name =>
          rw [namesOfItems, namesOfItems, toOption_map, toOption_map, ih]
      | _ => rfl

theorem toOption_names (context context' : Context) (value : Value) :
    (context.names value).toOption = (context'.names value).toOption := by
  unfold names
  split
  · exact toOption_namesOfItems context context' _
  · rfl

theorem toOption_entryPattern (context context' : Context) (source : String) :
    (context.entryPattern source).toOption = (context'.entryPattern source).toOption := by
  unfold entryPattern
  cases Pattern.ofSource source <;> rfl

theorem toOption_entryPatterns_eq (context : Context) (sources : List String) :
    (context.entryPatterns sources).toOption =
      sources.mapM fun source => (context.entryPattern source).toOption := by
  induction sources with
  | nil => rfl
  | cons source sources ih =>
      unfold entryPatterns
      rw [mapM_cons_eq, ← ih]
      cases context.entryPattern source with
      | error error => rfl
      | ok pattern => exact toOption_map _ _

theorem toOption_entryPatterns (context context' : Context) (sources : List String) :
    (context.entryPatterns sources).toOption = (context'.entryPatterns sources).toOption := by
  rw [toOption_entryPatterns_eq, toOption_entryPatterns_eq,
    funext (toOption_entryPattern context context')]

theorem toOption_kindsOfItems_of_types (types : context.settings.types = context'.settings.types)
    (kinds : KindSet) (items : List Value) :
    (context.kindsOfItems kinds items).toOption = (context'.kindsOfItems kinds items).toOption := by
  induction items generalizing kinds with
  | nil => rfl
  | cons item items ih =>
      cases item with
      | string name =>
          unfold kindsOfItems kindsOfName
          rw [types]
          cases Table.lookup context'.settings.types name with
          | none => rfl
          | some more => exact ih _
      | _ => rfl

theorem toOption_kinds_of_types (types : context.settings.types = context'.settings.types)
    (value : Value) : (context.kinds value).toOption = (context'.kinds value).toOption := by
  unfold kinds
  split
  · unfold kindsOfName
    rw [types]
  · exact toOption_kindsOfItems_of_types types _ _
  · rfl

/-- What the reading of checks depends on. -/
structure ReadsAlike (context context' : Context) : Prop where
  strict : context.strict = context'.strict
  formats : context.settings.formats = context'.settings.formats
  ignored : ∀ name,
    context.settings.config.ignoresFormat name = context'.settings.config.ignoresFormat name
  exclusiveMaximum :
    context.isExclusive "exclusive_maximum" = context'.isExclusive "exclusive_maximum"
  exclusiveMinimum :
    context.isExclusive "exclusive_minimum" = context'.isExclusive "exclusive_minimum"

/-- The same values stand for the same check, and so do values that are read as the same kinds, where two
contexts agree on which bounds are exclusive. What a format stands for depends on more. -/
theorem toOption_check {meaning : Meaning} (notProbe : meaning ≠ .probe)
    (maximum : context.isExclusive "exclusive_maximum" = context'.isExclusive "exclusive_maximum")
    (minimum : context.isExclusive "exclusive_minimum" = context'.isExclusive "exclusive_minimum")
    (format : meaning = .format →
      (context.check meaning value).toOption = (context'.check meaning value').toOption)
    (kinds : meaning = .ofKinds → (context.kinds value).toOption = (context'.kinds value').toOption)
    (data : meaning.layout = .data → value = value') :
    (context.check meaning value).toOption = (context'.check meaning value').toOption := by
  cases meaning with
  | probe => exact absurd rfl notProbe
  | format => exact format rfl
  | ofKinds =>
      dsimp only [check]
      rw [toOption_map, toOption_map, kinds rfl]
  | multipleOf =>
      cases data rfl
      dsimp only [check]
      rcases rel_toOption (rel_of_eq (toOption_number context context' value)) with
        ⟨error, error', failed, failed'⟩ | ⟨divisor, _, read, read', rfl⟩
      · rw [failed, failed']
        rfl
      · rw [read, read']
        dsimp only
        split <;> rfl
  | maximum =>
      cases data rfl
      dsimp only [check]
      rw [toOption_map, toOption_map, toOption_number context context', maximum]
  | minimum =>
      cases data rfl
      dsimp only [check]
      rw [toOption_map, toOption_map, toOption_number context context', minimum]
  | exclusiveMaximum | exclusiveMinimum =>
      cases data rfl
      dsimp only [check]
      split
      · rfl
      · rw [toOption_map, toOption_map, toOption_number context context']
  | maxLength | minLength | maxSize | minSize =>
      cases data rfl
      dsimp only [check]
      rw [toOption_map, toOption_map, toOption_count context context']
  | required =>
      cases data rfl
      dsimp only [check]
      rw [toOption_map, toOption_map, toOption_names context context']
  | pattern =>
      cases data rfl
      dsimp only [check]
      split
      · split <;> rfl
      · rfl
  | among | uniqueItems =>
      cases data rfl
      dsimp only [check]
      split <;> rfl
  | constant | even =>
      cases data rfl
      rfl
  | _ => rfl

theorem ReadsAlike.toOption_check (alike : context.ReadsAlike context') {meaning : Meaning}
    (notProbe : meaning ≠ .probe)
    (kinds : meaning = .ofKinds → (context.kinds value).toOption = (context'.kinds value').toOption)
    (data : meaning.layout = .data → value = value') :
    (context.check meaning value).toOption = (context'.check meaning value').toOption := by
  refine Context.toOption_check notProbe alike.exclusiveMaximum alike.exclusiveMinimum
    (fun isFormat => ?_) kinds data
  subst isFormat
  cases data rfl
  dsimp only [check]
  rw [alike.formats, alike.strict]
  split
  · rw [alike.ignored]
  · rfl

end Context

end Conformance
