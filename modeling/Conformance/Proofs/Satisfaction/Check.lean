import Conformance.Proofs.Satisfaction.Acceptance
import Conformance.Proofs.Satisfaction.Relation
/-!
Checks against the relations of their constraints. The checks of numbers, strings and sizes are three
families, each with one lemma; a lemma for the reading of a constraint's value stands beside it. A
check that is bound lets pass what its constraint asks for (`Context.Interprets`).
-/

namespace Conformance

namespace Check

variable {isPartial : Bool} {subject : Value}

theorem onNumber_eq_none (holds : Number → Bool) (cause : Cause) :
    onNumber subject holds cause = none ↔
      ∃ number, subject = .number number ∧ holds number = true := by
  cases subject with
  | number number => simp [onNumber]
  | _ => simp [onNumber]

theorem onNumber_number_eq_none {number : Number} {holds : Number → Bool} {cause : Cause} :
    onNumber (.number number) holds cause = none ↔ holds number = true := by
  simp [onNumber]

theorem onString_eq_none (holds : String → Bool) (cause : String → Cause) :
    onString subject holds cause = none ↔
      ∃ text, subject = .string text ∧ holds text = true := by
  cases subject with
  | string text => simp [onString]
  | _ => simp [onString]

theorem onSize_eq_none (holds : Nat → Bool) (cause : String → Cause) :
    onSize subject holds cause = none ↔
      ∃ size noun, size? subject = some (size, noun) ∧ holds size = true := by
  unfold onSize
  cases found : size? subject with
  | none => simp
  | some result =>
      obtain ⟨size, noun⟩ := result
      simp

/-- Keeps an item unless it equals one that is kept already. -/
def keep (kept : List Value) (item : Value) : List Value :=
  if kept.any (· == item) then kept else kept ++ [item]

theorem keep_of_repeated {kept : List Value} {item : Value}
    (repeated : kept.any (· == item) = true) : keep kept item = kept := if_pos repeated

theorem keep_of_new {kept : List Value} {item : Value}
    (new : ¬ kept.any (· == item) = true) : keep kept item = kept ++ [item] := if_neg new

theorem length_foldl_keep_le (items kept : List Value) :
    (items.foldl keep kept).length ≤ kept.length + items.length := by
  induction items generalizing kept with
  | nil => simp
  | cons item rest ih =>
      have bound := ih (keep kept item)
      rw [List.foldl_cons, List.length_cons]
      by_cases repeated : kept.any (· == item) = true
      · rw [keep_of_repeated repeated] at bound ⊢
        omega
      · rw [keep_of_new repeated] at bound ⊢
        rw [List.length_append, List.length_singleton] at bound
        omega

theorem length_foldl_keep_eq (items kept : List Value) :
    (items.foldl keep kept).length = kept.length + items.length ↔
      (∀ first ∈ kept, ∀ second ∈ items, (first == second) = false) ∧
      items.Pairwise fun first second => (first == second) = false := by
  induction items generalizing kept with
  | nil => simp
  | cons item rest ih =>
      rw [List.foldl_cons, List.length_cons]
      by_cases repeated : kept.any (· == item) = true
      · have bound := length_foldl_keep_le rest kept
        rw [keep_of_repeated repeated]
        obtain ⟨first, member, equal⟩ := List.any_eq_true.mp repeated
        constructor
        · intro same
          omega
        · rintro ⟨apart, _⟩
          rw [apart first member item List.mem_cons_self] at equal
          cases equal
      · have new : ∀ first ∈ kept, (first == item) = false := by
          intro first member
          rw [Bool.eq_false_iff]
          exact fun equal => repeated (List.any_eq_true.mpr ⟨first, member, equal⟩)
        have longer := ih (kept ++ [item])
        rw [List.length_append, List.length_singleton, Nat.add_assoc, Nat.add_comm 1] at longer
        rw [keep_of_new repeated, longer, List.pairwise_cons]
        constructor
        · rintro ⟨apart, pairwise⟩
          refine ⟨?_, ?_, pairwise⟩
          · intro first member second included
            rcases List.mem_cons.mp included with rfl | later
            · exact new first member
            · exact apart first (List.mem_append_left _ member) second later
          · intro second included
            exact apart item (List.mem_append_right _ List.mem_cons_self) second included
        · rintro ⟨apart, fromItem, pairwise⟩
          refine ⟨?_, pairwise⟩
          intro first member second included
          rcases List.mem_append.mp member with old | single
          · exact apart first old second (List.mem_cons_of_mem _ included)
          · rw [List.mem_singleton.mp single]
            exact fromItem second included

/-- Dropping the items that equal an earlier one drops nothing exactly if no item equals an earlier
one. -/
theorem length_distinct_iff (items : List Value) :
    (distinct items).length = items.length ↔
      items.Pairwise fun first second => (first == second) = false := by
  have whole := length_foldl_keep_eq items []
  rw [List.length_nil, Nat.zero_add] at whole
  exact whole.trans (and_iff_right fun _ member => absurd member List.not_mem_nil)

theorem missing_isEmpty (members : List (String × Value)) (names : List String) :
    (missing members names).isEmpty = true ↔ ∀ name ∈ names, Table.has members name = true := by
  simp [missing, List.isEmpty_iff, List.filter_eq_nil_iff]

theorem isWholeFloat_iff (kinds : KindSet) : isWholeFloat kinds subject = true ↔
    ∃ double, subject = .number (.float double) ∧ Kind.integer ∈ kinds ∧
      (Number.float double).integer?.isSome := by
  unfold isWholeFloat
  split
  · rename_i double
    simp only [Bool.and_eq_true]
    constructor
    · rintro ⟨admitted, whole⟩
      exact ⟨double, rfl, admitted, whole⟩
    · rintro ⟨_, same, admitted, whole⟩
      cases same
      exact ⟨admitted, whole⟩
  · rename_i notFloat
    simp only [Bool.false_eq_true, false_iff]
    rintro ⟨double, rfl, _⟩
    exact notFloat double rfl

theorem ofKinds_eq_none (kinds : KindSet) :
    (ofKinds kinds).violation? isPartial subject = none ↔ IsOfKinds kinds subject := by
  unfold violation? IsOfKinds
  rw [← isWholeFloat_iff]
  by_cases admitted : kinds.contains subject.kind = true
  · simp [admitted, show subject.kind ∈ kinds from admitted]
  · simp [admitted, show ¬ subject.kind ∈ kinds from admitted]

end Check

theorem Compares.of_amount {value subject : Value} {holds : (bound number : Number) → Bool}
    {amount : Number} (read : value.amount? = some amount) :
    Compares value subject holds ↔ ∃ number, subject = .number number ∧ holds amount number = true := by
  simp [Compares, read]

theorem Measures.of_limit {value subject : Value} {holds : (limit length : Nat) → Prop} {limit : Nat}
    (read : value.limit? = some limit) :
    Measures value subject holds ↔ ∃ text, subject = .string text ∧ holds limit text.length := by
  simp [Measures, read]

theorem Counts.of_limit {value subject : Value} {holds : (limit size : Nat) → Prop} {limit : Nat}
    (read : value.limit? = some limit) :
    Counts value subject holds ↔
      ∃ size noun, Check.size? subject = some (size, noun) ∧ holds limit size := by
  simp [Counts, read]

namespace Context

variable {context : Context} {value : Value}

/-- How a context reads the documents inside its own. -/
def reading (context : Context) (isPartial : Bool) : Reading :=
  ⟨context.settings, context.strict, isPartial⟩

/-- Whether a rule is what a constraint asks for, and none is bound where it asks for nothing. -/
def Interprets (context : Context) (meaning : Meaning) (value : Value) : Option Rule → Prop
  | none => ∀ isPartial, ¬ (context.reading isPartial).Binds context.entries value meaning
  | some rule => ∀ isPartial, (context.reading isPartial).Binds context.entries value meaning ∧
      ∀ subject, rule.behaviour.accepts isPartial subject = true ↔
        (context.reading isPartial).Upholds context.entries meaning value subject

theorem amount_of_number {amount : Number} (read : context.number value = .ok amount) :
    value.amount? = some amount := by
  unfold number at read
  split at read
  · cases read
    rfl
  · rename_i text
    unfold Value.amount?
    dsimp only
    split at read
    · rename_i spelled
      cases read
      rw [spelled]
      rfl
    · cases read
  · cases read

theorem limit_of_count {limit : Nat} (read : context.count value = .ok limit) :
    value.limit? = some limit := by
  unfold count at read
  split at read
  · rename_i amount
    split at read
    · rename_i natural
      cases read
      exact natural
    · cases read
  · cases read

theorem kinds_of_name {name : String} {kinds : KindSet}
    (read : context.kindsOfName name = .ok kinds) (isPartial : Bool) :
    (context.reading isPartial).kindsOfName (.string name) = kinds := by
  unfold kindsOfName at read
  split at read
  · rename_i found
    cases read
    change (Table.lookup context.settings.types name).getD .none = kinds
    rw [found]
    rfl
  · cases read

theorem kinds_of_items {names : List Value} {first kinds : KindSet}
    (read : context.kindsOfItems first names = .ok kinds) (isPartial : Bool) :
    names.foldl (fun kinds name => kinds.union ((context.reading isPartial).kindsOfName name)) first =
      kinds := by
  induction names generalizing first with
  | nil =>
      cases read
      rfl
  | cons name names ih =>
      unfold kindsOfItems at read
      split at read
      · contradiction
      · rename_i same
        cases same
        split at read
        · rename_i more found
          rw [List.foldl_cons, kinds_of_name found]
          exact ih read
        · cases read
      · cases read

theorem kinds_of_kinds {kinds : KindSet} (read : context.kinds value = .ok kinds)
    (isPartial : Bool) : (context.reading isPartial).kinds value = kinds := by
  unfold Context.kinds at read
  split at read
  · exact kinds_of_name read isPartial
  · exact kinds_of_items read isPartial
  · cases read

theorem mem_of_namesOfItems {items : List Value} {names : List String}
    (read : context.namesOfItems items = .ok names) (name : String) :
    name ∈ names ↔ .string name ∈ items := by
  induction items generalizing names with
  | nil =>
      cases read
      simp
  | cons item items ih =>
      unfold namesOfItems at read
      split at read
      · contradiction
      · rename_i same
        cases same
        cases rest : context.namesOfItems items with
        | error error =>
            rw [rest] at read
            cases read
        | ok others =>
            rw [rest] at read
            cases read
            simp [ih rest]
      · cases read

theorem exists_of_map_ok {α β : Type} {result : Except CompileError α} {f : α → β} {mapped : β}
    (ok : result.map f = .ok mapped) : ∃ value, result = .ok value ∧ f value = mapped := by
  cases result with
  | error error => cases ok
  | ok value =>
      cases ok
      exact ⟨value, rfl, rfl⟩

/-- A check interprets a constraint that always binds if it refuses what the constraint forbids. -/
theorem interprets_of_violation {meaning : Meaning} {check : Check}
    (binds : ∀ isPartial, (context.reading isPartial).Binds context.entries value meaning)
    (agree : ∀ isPartial subject, check.violation? isPartial subject = none ↔
      (context.reading isPartial).Upholds context.entries meaning value subject) :
    context.Interprets meaning value (some (.check check)) := by
  intro isPartial
  refine ⟨binds isPartial, fun subject => ?_⟩
  rw [← agree isPartial subject, Behaviour.accepts_iff]
  exact Option.map_eq_none_iff

/-- The family of the checks that compare numbers with an amount. -/
theorem interprets_amount {meaning : Meaning} {check : Check} {bound : Number}
    {holds : (bound number : Number) → Bool} {cause : Cause}
    (read : context.number value = .ok bound)
    (binds : ∀ isPartial, (context.reading isPartial).Binds context.entries value meaning)
    (checks : ∀ isPartial subject, check.violation? isPartial subject =
      Check.onNumber subject (holds bound) cause)
    (upholds : ∀ isPartial subject,
      (context.reading isPartial).Upholds context.entries meaning value subject =
        Compares value subject holds) :
    context.Interprets meaning value (some (.check check)) := by
  apply interprets_of_violation binds
  intro isPartial subject
  rw [checks, upholds, Compares.of_amount (amount_of_number read)]
  exact Check.onNumber_eq_none _ _

theorem interprets_multipleOf {result : Option Check}
    (read : context.check .multipleOf value = .ok result) :
    context.Interprets .multipleOf value (result.map .check) := by
  unfold Context.check at read
  dsimp only at read
  split at read
  · cases read
  · rename_i divisor number
    split at read
    · cases read
      exact interprets_amount number (fun _ => trivial) (fun _ _ => rfl)
        fun _ _ => by rw [Reading.Upholds]
    · cases read

theorem interprets_maximum {result : Option Check}
    (read : context.check .maximum value = .ok result) :
    context.Interprets .maximum value (result.map .check) := by
  obtain ⟨bound, number, rfl⟩ := exists_of_map_ok read
  have upholds : ∀ isPartial subject,
      (context.reading isPartial).Upholds context.entries .maximum value subject =
        Compares value subject fun bound number =>
          if context.isExclusive "exclusive_maximum" then number.isBelow bound
          else number.isAtMost bound := by
    intro isPartial subject
    rw [Reading.Upholds]
    rfl
  by_cases exclusive : context.isExclusive "exclusive_maximum" = true
  · simp only [if_pos exclusive] at upholds ⊢
    exact interprets_amount number (fun _ => trivial) (fun _ _ => rfl) upholds
  · simp only [if_neg exclusive] at upholds ⊢
    exact interprets_amount number (fun _ => trivial) (fun _ _ => rfl) upholds

theorem interprets_minimum {result : Option Check}
    (read : context.check .minimum value = .ok result) :
    context.Interprets .minimum value (result.map .check) := by
  obtain ⟨bound, number, rfl⟩ := exists_of_map_ok read
  have upholds : ∀ isPartial subject,
      (context.reading isPartial).Upholds context.entries .minimum value subject =
        Compares value subject fun bound number =>
          if context.isExclusive "exclusive_minimum" then bound.isBelow number
          else bound.isAtMost number := by
    intro isPartial subject
    rw [Reading.Upholds]
    rfl
  by_cases exclusive : context.isExclusive "exclusive_minimum" = true
  · simp only [if_pos exclusive] at upholds ⊢
    exact interprets_amount number (fun _ => trivial) (fun _ _ => rfl) upholds
  · simp only [if_neg exclusive] at upholds ⊢
    exact interprets_amount number (fun _ => trivial) (fun _ _ => rfl) upholds

theorem interprets_exclusiveMaximum {result : Option Check}
    (read : context.check .exclusiveMaximum value = .ok result) :
    context.Interprets .exclusiveMaximum value (result.map .check) := by
  unfold Context.check at read
  dsimp only at read
  split at read
  · rename_i flag
    cases read
    exact fun _ binds => binds flag rfl
  · rename_i notBool
    obtain ⟨bound, number, rfl⟩ := exists_of_map_ok read
    exact interprets_amount number (fun _ => notBool) (fun _ _ => rfl)
      fun _ _ => by rw [Reading.Upholds]

theorem interprets_exclusiveMinimum {result : Option Check}
    (read : context.check .exclusiveMinimum value = .ok result) :
    context.Interprets .exclusiveMinimum value (result.map .check) := by
  unfold Context.check at read
  dsimp only at read
  split at read
  · rename_i flag
    cases read
    exact fun _ binds => binds flag rfl
  · rename_i notBool
    obtain ⟨bound, number, rfl⟩ := exists_of_map_ok read
    exact interprets_amount number (fun _ => notBool) (fun _ _ => rfl)
      fun _ _ => by rw [Reading.Upholds]

/-- The family of the checks that compare the length of a text with a limit. -/
theorem interprets_length {meaning : Meaning} {check : Check} {limit : Nat}
    {holds : (limit length : Nat) → Prop} [∀ limit length, Decidable (holds limit length)]
    {cause : String → Cause} (read : context.count value = .ok limit)
    (binds : ∀ isPartial, (context.reading isPartial).Binds context.entries value meaning)
    (checks : ∀ isPartial subject, check.violation? isPartial subject =
      Check.onString subject (fun text => holds limit text.length) cause)
    (upholds : ∀ isPartial subject,
      (context.reading isPartial).Upholds context.entries meaning value subject =
        Measures value subject holds) :
    context.Interprets meaning value (some (.check check)) := by
  apply interprets_of_violation binds
  intro isPartial subject
  rw [checks, upholds, Measures.of_limit (limit_of_count read), Check.onString_eq_none]
  simp only [decide_eq_true_eq]

/-- The family of the checks that compare the size of a collection with a limit. -/
theorem interprets_size {meaning : Meaning} {check : Check} {limit : Nat}
    {holds : (limit size : Nat) → Prop} [∀ limit size, Decidable (holds limit size)]
    {cause : String → Cause} (read : context.count value = .ok limit)
    (binds : ∀ isPartial, (context.reading isPartial).Binds context.entries value meaning)
    (checks : ∀ isPartial subject, check.violation? isPartial subject =
      Check.onSize subject (fun size => holds limit size) cause)
    (upholds : ∀ isPartial subject,
      (context.reading isPartial).Upholds context.entries meaning value subject =
        Counts value subject holds) :
    context.Interprets meaning value (some (.check check)) := by
  apply interprets_of_violation binds
  intro isPartial subject
  rw [checks, upholds, Counts.of_limit (limit_of_count read), Check.onSize_eq_none]
  simp only [decide_eq_true_eq]

theorem interprets_maxLength {result : Option Check}
    (read : context.check .maxLength value = .ok result) :
    context.Interprets .maxLength value (result.map .check) := by
  obtain ⟨limit, count, rfl⟩ := exists_of_map_ok read
  exact interprets_length count (fun _ => trivial) (fun _ _ => rfl)
    fun _ _ => by rw [Reading.Upholds]

theorem interprets_minLength {result : Option Check}
    (read : context.check .minLength value = .ok result) :
    context.Interprets .minLength value (result.map .check) := by
  obtain ⟨limit, count, rfl⟩ := exists_of_map_ok read
  exact interprets_length count (fun _ => trivial) (fun _ _ => rfl)
    fun _ _ => by rw [Reading.Upholds]

theorem interprets_maxSize {result : Option Check}
    (read : context.check .maxSize value = .ok result) :
    context.Interprets .maxSize value (result.map .check) := by
  obtain ⟨limit, count, rfl⟩ := exists_of_map_ok read
  exact interprets_size count (fun _ => trivial) (fun _ _ => rfl)
    fun _ _ => by rw [Reading.Upholds]

theorem interprets_minSize {result : Option Check}
    (read : context.check .minSize value = .ok result) :
    context.Interprets .minSize value (result.map .check) := by
  obtain ⟨limit, count, rfl⟩ := exists_of_map_ok read
  exact interprets_size count (fun _ => trivial) (fun _ _ => rfl)
    fun _ _ => by rw [Reading.Upholds]

theorem interprets_ofKinds {result : Option Check}
    (read : context.check .ofKinds value = .ok result) :
    context.Interprets .ofKinds value (result.map .check) := by
  obtain ⟨kinds, known, rfl⟩ := exists_of_map_ok read
  refine interprets_of_violation (fun _ => trivial) ?_
  intro isPartial subject
  rw [Reading.Upholds, kinds_of_kinds known]
  exact Check.ofKinds_eq_none kinds

theorem interprets_among {result : Option Check}
    (read : context.check .among value = .ok result) :
    context.Interprets .among value (result.map .check) := by
  unfold Context.check at read
  dsimp only at read
  split at read
  · rename_i choices
    cases read
    refine interprets_of_violation (fun _ => trivial) ?_
    intro isPartial subject
    rw [Reading.Upholds]
    simp [Check.violation?, Value.items]
  · cases read

theorem interprets_constant {result : Option Check}
    (read : context.check .constant value = .ok result) :
    context.Interprets .constant value (result.map .check) := by
  cases read
  refine interprets_of_violation (fun _ => trivial) ?_
  intro isPartial subject
  rw [Reading.Upholds]
  simp [Check.violation?]

theorem interprets_pattern {result : Option Check}
    (read : context.check .pattern value = .ok result) :
    context.Interprets .pattern value (result.map .check) := by
  unfold Context.check at read
  dsimp only at read
  split at read
  · rename_i source
    split at read
    · rename_i shape parsed
      cases read
      refine interprets_of_violation (fun _ => trivial) ?_
      intro isPartial subject
      rw [Reading.Upholds]
      refine (Check.onString_eq_none shape.isMatch _).trans ?_
      simp [parsed]
    · cases read
  · cases read

/-- A format that is ignored or unknown asks for nothing. -/
theorem interprets_format {result : Option Check}
    (read : context.check .format value = .ok result) :
    context.Interprets .format value (result.map .check) := by
  unfold Context.check at read
  dsimp only at read
  split at read
  · rename_i name
    split at read
    · rename_i ignored
      cases read
      rintro isPartial ⟨_, same, heeded, _⟩
      cases same
      rw [show context.settings.config.ignoresFormat name = false from heeded] at ignored
      cases ignored
    · rename_i heeded
      split at read
      · rename_i grammar found
        cases read
        refine interprets_of_violation ?_ ?_
        · intro isPartial
          have known : (context.settings.formats.lookup name).isSome := by rw [found]; rfl
          exact ⟨name, rfl, (Bool.not_eq_true _).mp heeded, known⟩
        · intro isPartial subject
          rw [Reading.Upholds]
          refine (Check.onString_eq_none grammar.accepts _).trans ?_
          simp [reading, found]
      · rename_i unknown
        split at read
        · cases read
        · cases read
          rintro isPartial ⟨_, same, _, known⟩
          cases same
          obtain ⟨grammar, found⟩ := Option.isSome_iff_exists.mp known
          rw [show context.settings.formats.lookup name = some grammar from found] at unknown
          cases unknown
  · cases read

theorem interprets_uniqueItems {result : Option Check}
    (read : context.check .uniqueItems value = .ok result) :
    context.Interprets .uniqueItems value (result.map .check) := by
  unfold Context.check at read
  dsimp only at read
  split at read
  · cases read
    refine interprets_of_violation (fun _ => rfl) ?_
    intro isPartial subject
    rw [Reading.Upholds]
    unfold Check.violation?
    cases subject with
    | array items => simp [← Check.length_distinct_iff]
    | _ => simp
  · cases read
    intro isPartial binds
    cases binds
  · cases read

/-- The required names are sorted, which keeps them. -/
theorem interprets_required {result : Option Check}
    (read : context.check .required value = .ok result) :
    context.Interprets .required value (result.map .check) := by
  obtain ⟨names, listed, rfl⟩ := exists_of_map_ok read
  refine interprets_of_violation (fun _ => trivial) ?_
  intro isPartial subject
  have member : ∀ name, name ∈ names ↔ .string name ∈ value.items := by
    unfold Context.names at listed
    split at listed
    · exact mem_of_namesOfItems listed
    · cases listed
  rw [Reading.Upholds]
  unfold Check.violation?
  cases isPartial with
  | true => simp [reading]
  | false =>
      cases subject with
      | object members =>
          have absent := Check.missing_isEmpty members (names.mergeSort (· ≤ ·))
          simp only [List.mem_mergeSort, member] at absent
          simp [reading, ← absent]
      | _ => simp [reading]

theorem interprets_even {result : Option Check}
    (read : context.check .even value = .ok result) :
    context.Interprets .even value (result.map .check) := by
  unfold Context.check at read
  dsimp only at read
  split at read
  · cases read
    refine interprets_of_violation (fun _ => rfl) ?_
    intro isPartial subject
    rw [Reading.Upholds]
    unfold Check.violation?
    cases subject with
    | number number => simp
    | _ => simp
  · rename_i notSet
    cases read
    intro isPartial binds
    exact notSet binds

theorem interprets_probe {result : Option Check}
    (read : context.check .probe value = .ok result) :
    context.Interprets .probe value (result.map .check) := by
  unfold Context.check at read
  dsimp only at read
  split at read
  · cases read
    refine interprets_of_violation (fun _ => trivial) ?_
    intro isPartial subject
    rw [Reading.Upholds]
    simp [Check.violation?]
  · cases read

end Context

end Conformance
