import Conformance.Environment
import Conformance.Proofs.Compilation.Run
/-!
Walks over a cache. A refresh, and a walk over what is out of date, renews one cached schema after the
other. What is kept by every renewal is kept by the walk.
-/

namespace Conformance

namespace Site

variable {site : Site} (holds : Cache → Prop) {cache : Cache}

/-- What the renewals of suitable entries keep, their renewal one after the other keeps. -/
theorem renewEach_keeps (suits : String → Schema → Prop)
    (renews : ∀ {key schema cache}, suits key schema → holds cache →
      holds (site.renew key schema cache).2)
    {visited added : List String} (listed : List (String × Schema))
    (suit : ∀ entry ∈ listed, suits entry.1 entry.2) (held : holds cache) :
    holds (site.renewEach cache visited added listed).1 := by
  induction listed generalizing cache visited added with
  | nil => exact held
  | cons entry rest ih =>
      have others : ∀ entry ∈ rest, suits entry.1 entry.2 :=
        fun entry member => suit entry (List.mem_cons_of_mem _ member)
      unfold Site.renewEach
      split
      · exact ih others held
      · exact ih others (renews (suit entry List.mem_cons_self) held)

/-- A refresh keeps what the renewals of suitable entries keep, if all dependents are suitable. -/
theorem refreshWithin_keeps (suits : String → Schema → Prop)
    (renews : ∀ {key schema cache}, suits key schema → holds cache →
      holds (site.renew key schema cache).2)
    {walk : Walk}
    (suit : ∀ {cache name}, holds cache → ∀ entry ∈ dependents walk cache name,
      suits entry.1 entry.2)
    {bound : Nat} {pending visited : List String} (held : holds cache) :
    holds (site.refreshWithin walk bound cache pending visited) := by
  induction bound generalizing cache pending visited with
  | zero => simpa [Site.refreshWithin] using held
  | succ bound ih =>
      cases pending with
      | nil => simpa [Site.refreshWithin] using held
      | cons name pending => exact ih (renewEach_keeps holds suits renews _ (suit held) held)

/-- A walk over what is out of date keeps what the renewal of every such schema keeps. -/
theorem renewStale_keeps
    (renews : ∀ {key schema cache}, Table.lookup cache key = some schema → ¬ site.IsFresh schema →
      holds cache → holds (site.renew key schema cache).2)
    {keys : List String} {count : Nat} (held : holds cache) :
    holds (site.renewStale cache count keys).2 := by
  induction keys generalizing cache count with
  | nil => exact held
  | cons key keys ih =>
      unfold Site.renewStale
      cases found : Table.lookup cache key with
      | none => exact ih held
      | some schema =>
          dsimp only
          split
          · exact ih held
          · rename_i stale
            have renewed := renews found stale held
            split
            all_goals
              rename_i after done
              rw [done] at renewed
              exact ih renewed

end Site

end Conformance
