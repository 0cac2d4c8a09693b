import Conformance.Environment
import Conformance.Proofs.Conversion.Faithful
import Conformance.Proofs.Number.Comparison
/-!
Arrays without repeated items. Equality of values is symmetric, as long as no object repeats a key, though it is
neither reflexive nor transitive where there are doubles. The loop that drops repeated items keeps at every step
items that are apart, and each item that it has dropped equals one that it kept before (`KeepsFirsts.keep`); so
does the whole loop, whose result is left alone by another one (`Check.uniqueItems_deduplicates`).
-/

namespace Conformance

namespace Value

variable {left right : Value}

theorem equal_symm (keyed : left.isKeyed = true) (keyed' : right.isKeyed = true)
    (equal : (left == right) = true) : (right == left) = true := by
  induction left using parts_induction generalizing right with
  | step value ih =>
      by_cases number : ∃ number, value = .number number
      · obtain ⟨number, rfl⟩ := number
        cases right with
        | number number' => exact Number.equal_comm.trans equal
        | _ => cases equal
      · have matching := (equal_iff_matches keyed keyed' (not_exists.mp number)).mp equal
        have noNumber : ∀ number, right ≠ .number number := by
          rintro number' rfl
          cases value with
          | number own => exact number ⟨own, rfl⟩
          | _ => cases matching
        rw [equal_iff_matches keyed' keyed noNumber]
        have swapped := matching.imp fun first member second member' same =>
          ih first member (isKeyed_part keyed member) (isKeyed_part keyed' member') same
        exact swapped.flip

theorem equal_comm (keyed : left.isKeyed = true) (keyed' : right.isKeyed = true) :
    (left == right) = (right == left) := by
  rw [Bool.eq_iff_iff]
  exact ⟨equal_symm keyed keyed', equal_symm keyed' keyed⟩

theorem isKeyed_item {items : List Value} (keyed : (array items).isKeyed = true) {item : Value}
    (member : item ∈ items) : item.isKeyed = true :=
  isKeyed_part keyed (mem_parts.mpr (.inl member))

end Value

namespace Check

/-- Whether no two items at different positions are equal. -/
def AllApart (items : List Value) : Prop :=
  ∀ position other (bound : position < items.length) (bound' : other < items.length), position ≠ other →
    (items[position] == items[other]) = false

/-- Whether what is kept of some items are those at positions that grow, and any other item equals one that is
kept at a position before it. -/
structure KeepsFirsts (items kept : List Value) (positions : List Nat) : Prop where
  growing : positions.Pairwise (· < ·)
  same : positions.map (items[·]?) = kept.map some
  dropped : ∀ position item, items[position]? = some item → position ∉ positions →
    ∃ earlier ∈ positions, earlier < position ∧
      ∃ first, items[earlier]? = some first ∧ (first == item) = true

theorem getElem?_snoc {items : List Value} {item other : Value} {position : Nat}
    (found : (items ++ [item])[position]? = some other) :
    items[position]? = some other ∨ position = items.length ∧ other = item := by
  rcases Nat.lt_or_ge position items.length with before | behind
  · rw [List.getElem?_append_left before] at found
    exact .inl found
  · rw [List.getElem?_append_right behind, List.getElem?_singleton] at found
    split at found
    · cases found
      exact .inr ⟨by omega, rfl⟩
    · cases found

section Loop

variable {items kept : List Value} {positions : List Nat} {item : Value} {position : Nat}

theorem pairwise_keep (apart : kept.Pairwise fun first second => (first == second) = false) :
    (keep kept item).Pairwise fun first second => (first == second) = false := by
  by_cases repeated : kept.any (· == item) = true
  · rwa [keep_of_repeated repeated]
  · rw [keep_of_new repeated]
    refine List.pairwise_append.mpr ⟨apart, List.pairwise_singleton _ _, ?_⟩
    intro first member second single
    rw [List.mem_singleton.mp single, Bool.eq_false_iff]
    exact fun equal => repeated (List.any_eq_true.mpr ⟨first, member, equal⟩)

theorem pairwise_foldl_keep (apart : kept.Pairwise fun first second => (first == second) = false) :
    (items.foldl keep kept).Pairwise fun first second => (first == second) = false := by
  induction items generalizing kept with
  | nil => exact apart
  | cons item items ih => exact ih (pairwise_keep apart)

namespace KeepsFirsts

theorem nil : KeepsFirsts [] [] [] := ⟨.nil, rfl, fun _ _ found => nomatch found⟩

theorem exists_of_mem (keeps : KeepsFirsts items kept positions) (member : position ∈ positions) :
    ∃ item ∈ kept, items[position]? = some item := by
  have listed : items[position]? ∈ kept.map some := by
    rw [← keeps.same]
    exact List.mem_map_of_mem member
  obtain ⟨item, inside, found⟩ := List.mem_map.mp listed
  exact ⟨item, inside, found.symm⟩

theorem exists_of_mem_kept (keeps : KeepsFirsts items kept positions) (member : item ∈ kept) :
    ∃ position ∈ positions, items[position]? = some item := by
  have listed : some item ∈ positions.map (items[·]?) := by
    rw [keeps.same]
    exact List.mem_map_of_mem member
  exact List.mem_map.mp listed

theorem lt_length (keeps : KeepsFirsts items kept positions) (member : position ∈ positions) :
    position < items.length := by
  obtain ⟨item, _, found⟩ := keeps.exists_of_mem member
  exact (List.getElem?_eq_some_iff.mp found).1

/-- What is kept stays where it is as another item comes behind. -/
theorem getElem?_append (keeps : KeepsFirsts items kept positions) (member : position ∈ positions) :
    (items ++ [item])[position]? = items[position]? :=
  List.getElem?_append_left (keeps.lt_length member)

/-- One step of the loop: an item that equals one that is kept is dropped, any other is kept behind them. -/
theorem keep (keeps : KeepsFirsts items kept positions) (item : Value) :
    ∃ positions', KeepsFirsts (items ++ [item]) (Check.keep kept item) positions' := by
  have before : positions.map ((items ++ [item])[·]?) = kept.map some :=
    (List.map_congr_left fun position member => keeps.getElem?_append member).trans keeps.same
  have droppedBefore : ∀ position other, items[position]? = some other → position ∉ positions →
      ∃ earlier ∈ positions, earlier < position ∧
        ∃ first, (items ++ [item])[earlier]? = some first ∧ (first == other) = true := by
    intro position other found absent
    obtain ⟨earlier, member, below, first, found', equal⟩ := keeps.dropped position other found absent
    exact ⟨earlier, member, below, first, (keeps.getElem?_append member).trans found', equal⟩
  -- Only what is kept is compared with, as equality is not transitive: the witness of a dropped item is a kept one.
  by_cases repeated : kept.any (· == item) = true
  · refine ⟨positions, keeps.growing, ?_, fun position other found absent => ?_⟩
    · rw [keep_of_repeated repeated]
      exact before
    · rcases getElem?_snoc found with found | ⟨rfl, rfl⟩
      · exact droppedBefore position other found absent
      · obtain ⟨first, member, equal⟩ := List.any_eq_true.mp repeated
        obtain ⟨earlier, member', found'⟩ := keeps.exists_of_mem_kept member
        exact ⟨earlier, member', keeps.lt_length member', first,
          (keeps.getElem?_append member').trans found', equal⟩
  · refine ⟨positions ++ [items.length], ?_, ?_, fun position other found absent => ?_⟩
    · refine List.pairwise_append.mpr ⟨keeps.growing, List.pairwise_singleton _ _, ?_⟩
      intro position member last single
      rw [List.mem_singleton.mp single]
      exact keeps.lt_length member
    · rw [keep_of_new repeated, List.map_append, List.map_append, before, List.map_singleton,
        List.map_singleton, List.getElem?_concat_length]
    · obtain ⟨absentBefore, notLast⟩ := not_or.mp fun member => absent (List.mem_append.mpr member)
      rcases getElem?_snoc found with found | ⟨rfl, rfl⟩
      · obtain ⟨earlier, member, below⟩ := droppedBefore position other found absentBefore
        exact ⟨earlier, List.mem_append_left _ member, below⟩
      · exact absurd (List.mem_singleton_self _) notLast

/-- The whole loop, which goes on with what has been kept so far. -/
theorem foldl_keep (keeps : KeepsFirsts items kept positions) (others : List Value) :
    ∃ positions', KeepsFirsts (items ++ others) (others.foldl Check.keep kept) positions' := by
  induction others generalizing items kept positions with
  | nil => exact ⟨positions, by rwa [List.append_nil]⟩
  | cons item others ih =>
      obtain ⟨positions', next⟩ := keeps.keep item
      have whole := ih next
      rwa [List.append_assoc, List.singleton_append] at whole

end KeepsFirsts

theorem sublist_foldl_keep : (items.foldl keep kept).Sublist (kept ++ items) := by
  induction items generalizing kept with
  | nil => exact List.sublist_append_left kept []
  | cons item items ih =>
      rw [List.foldl_cons]
      by_cases repeated : kept.any (· == item) = true
      · rw [keep_of_repeated repeated]
        exact ih.trans ((List.sublist_cons_self item items).append_left kept)
      · rw [keep_of_new repeated, List.append_cons kept item items]
        exact ih

end Loop

section Distinct

variable {isPartial : Bool} {items : List Value}

theorem sublist_distinct : (distinct items).Sublist items :=
  @sublist_foldl_keep items []

theorem pairwise_distinct : (distinct items).Pairwise fun first second => (first == second) = false :=
  pairwise_foldl_keep .nil

theorem uniqueItems_distinct : uniqueItems.violation? isPartial (.array (distinct items)) = none :=
  (uniqueItems_eq_none _).mpr pairwise_distinct

theorem convert_uniqueItems :
    uniqueItems.convert isPartial (.array items) = .ok (.array (distinct items)) := by
  by_cases passes : uniqueItems.violation? isPartial (.array items) = none
  · have length := (length_distinct_iff items).mpr ((uniqueItems_eq_none items).mp passes)
    rw [sublist_distinct.eq_of_length length]
    exact (convert_eq_ok rfl).mpr (.inl ⟨passes, rfl⟩)
  · exact (convert_eq_ok rfl).mpr (.inr ⟨Option.isSome_iff_ne_none.mpr passes, rfl⟩)

/-- Items are apart in both directions if they are in one. -/
theorem allApart_iff (keyed : (Value.array items).isKeyed = true) :
    AllApart items ↔ items.Pairwise fun first second => (first == second) = false := by
  rw [List.pairwise_iff_getElem]
  constructor
  · intro apart position other bound bound' before
    exact apart position other bound bound' (Nat.ne_of_lt before)
  · intro pairwise position other bound bound' different
    rcases Nat.lt_or_gt_of_ne different with before | behind
    · exact pairwise position other bound bound' before
    · have keyedItem := Value.isKeyed_item keyed (List.getElem_mem bound)
      have keyedOther := Value.isKeyed_item keyed (List.getElem_mem bound')
      rw [Value.equal_comm keyedItem keyedOther]
      exact pairwise other position bound' bound behind

end Distinct

/-- A constraint against repeated items drops those that equal an item that it kept before, and nothing else. Its
result has no two equal items, is let pass and is converted to itself. It lets pass the arrays that have no two
equal items. -/
theorem uniqueItems_deduplicates (context : Context) :
    ∃ check, context.check .uniqueItems (.bool true) = .ok (some check) ∧
      ∀ isPartial items, (Value.array items).isKeyed = true →
        (∃ kept positions, check.convert isPartial (.array items) = .ok (.array kept) ∧
          kept.Sublist items ∧ KeepsFirsts items kept positions ∧ AllApart kept ∧
          check.convert isPartial (.array kept) = .ok (.array kept) ∧
          check.violation? isPartial (.array kept) = none) ∧
        (check.violation? isPartial (.array items) = none ↔ AllApart items) := by
  refine ⟨uniqueItems, rfl, fun isPartial items keyed => ?_⟩
  have sublist : (distinct items).Sublist items := sublist_distinct
  have keyedKept : (Value.array (distinct items)).isKeyed = true := by
    refine (Value.isKeyed_iff _).mpr ⟨List.nodup_nil, fun item member => ?_, nofun⟩
    exact Value.isKeyed_item keyed (sublist.subset member)
  constructor
  · obtain ⟨positions, keeps⟩ := KeepsFirsts.nil.foldl_keep items
    refine ⟨distinct items, positions, convert_uniqueItems, sublist, keeps,
      (allApart_iff keyedKept).mpr pairwise_distinct, ?_, uniqueItems_distinct⟩
    exact (convert_eq_ok rfl).mpr (.inl ⟨uniqueItems_distinct, rfl⟩)
  · exact (uniqueItems_eq_none items).trans (allApart_iff keyed).symm

/-- Doubles that are no numbers, and integers beside a double that two of them are equal to. -/
def mixture : List Value :=
  [.number (.float (Double.nan false)), .number (.int 9007199254740993),
    .number (.float (Double.ofInt 9007199254740992)), .number (.float (Double.nan false)),
    .number (.int 9007199254740992), .number (.int 9007199254740993)]

/-- What is no number is kept each time, and so is the second integer, as the double that it equals is dropped. -/
theorem uniqueItems_deduplicates_mixture :
    (Value.array mixture).isKeyed = true ∧
      ∃ (check : Check) (kept : List Value) (positions : List Nat),
        check.convert false (.array mixture) = .ok (.array kept) ∧
        KeepsFirsts mixture kept positions ∧ kept.length = 4 ∧
        check.convert false (.array kept) = .ok (.array kept) := by
  have keyed : (Value.array mixture).isKeyed = true := by decide +kernel
  obtain ⟨check, read, each⟩ := uniqueItems_deduplicates
    ⟨(Environment.native 0).settings, [("unique_items", .bool true)], "unique_items", true, none⟩
  obtain ⟨⟨kept, positions, converted, _, keeps, _, again, _⟩, _⟩ := each false mixture keyed
  refine ⟨keyed, check, kept, positions, converted, keeps, ?_, again⟩
  cases read
  have same : kept = distinct mixture :=
    Value.array.inj (Except.ok.inj (converted.symm.trans convert_uniqueItems))
  rw [same]
  decide +kernel

end Check

end Conformance
