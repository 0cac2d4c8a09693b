import Conformance.Digest
import Conformance.Proofs.Value.Parts
import Mathlib.Algebra.Group.Nat.Defs
import Mathlib.Data.List.Forall2
/-!
What the octets of a document tell. Every part of an encoding either has a fixed length or carries its
length in front, so that whatever is written behind a document, the document is read off the octets, but
for the way in which its numbers are held (`Value.encoding_append_eq_iff`). Two documents that differ in
anything else are never hashed as the same octets.
-/

namespace Conformance

/-- Whether two strings of octets, each with something behind, are the same exactly if some statement is
true and what is behind is the same. -/
def Tells (first second : List UInt8) (same : Prop) : Prop :=
  ∀ rest rest', first ++ rest = second ++ rest' ↔ same ∧ rest = rest'

namespace Tells

variable {first second third fourth : List UInt8} {same same' : Prop}

theorem congr (tells : Tells first second same) (equivalent : same ↔ same') :
    Tells first second same' := fun rest rest' => by rw [tells rest rest', equivalent]

theorem iff (tells : Tells first second same) : first = second ↔ same := by
  have alone := tells [] []
  rwa [List.append_nil, List.append_nil, and_iff_left rfl] at alone

theorem append (tells : Tells first second same) (further : same → Tells third fourth same') :
    Tells (first ++ third) (second ++ fourth) (same ∧ same') := by
  intro rest rest'
  rw [List.append_assoc, List.append_assoc, tells, and_assoc]
  exact and_congr_right fun held => further held rest rest'

theorem cons (letter : UInt8) (tells : Tells first second same) :
    Tells (letter :: first) (letter :: second) same := by
  intro rest rest'
  rw [List.cons_append, List.cons_append, List.cons_inj_right]
  exact tells rest rest'

end Tells

section

variable {first second : List UInt8} {same : Prop}

theorem tells_of_length (length : first.length = second.length) :
    Tells first second (first = second) := by
  intro rest rest'
  constructor
  · exact fun whole => List.append_inj whole length
  · rintro ⟨rfl, rfl⟩
    rfl

theorem tells_apart {letter letter' : UInt8} (differ : letter ≠ letter') (unlike : ¬ same) :
    Tells (letter :: first) (letter' :: second) same := by
  intro rest rest'
  constructor
  · intro whole
    exact absurd (List.cons.inj whole).1 differ
  · exact fun both => absurd both.1 unlike

/-- Numbers that agree above an octet and in it agree from that octet on. -/
theorem shiftRight_eq_of_octet {number other : Nat} (shift : Nat)
    (above : number >>> (shift + 8) = other >>> (shift + 8))
    (octet : UInt8.ofNat (number >>> shift) = UInt8.ofNat (other >>> shift)) :
    number >>> shift = other >>> shift := by
  have low := congrArg UInt8.toNat octet
  rw [UInt8.toNat_ofNat', UInt8.toNat_ofNat'] at low
  rw [Nat.shiftRight_add, Nat.shiftRight_add, Nat.shiftRight_eq_div_pow (number >>> shift),
    Nat.shiftRight_eq_div_pow (other >>> shift)] at above
  omega

theorem octetsOf_inj {number other : Nat} (small : number < 2 ^ 64) (small' : other < 2 ^ 64) :
    Sha256.octetsOf number = Sha256.octetsOf other ↔ number = other := by
  constructor
  · intro equal
    simp only [Sha256.octetsOf, List.map_cons, List.map_nil, List.cons.injEq, and_true] at equal
    obtain ⟨first, second, third, fourth, fifth, sixth, seventh, last⟩ := equal
    have none : number >>> 64 = other >>> 64 := by
      rw [Nat.shiftRight_eq_zero number 64 small, Nat.shiftRight_eq_zero other 64 small']
    have from56 := shiftRight_eq_of_octet 56 none first
    have from48 := shiftRight_eq_of_octet 48 from56 second
    have from40 := shiftRight_eq_of_octet 40 from48 third
    have from32 := shiftRight_eq_of_octet 32 from40 fourth
    have from24 := shiftRight_eq_of_octet 24 from32 fifth
    have from16 := shiftRight_eq_of_octet 16 from24 sixth
    have from8 := shiftRight_eq_of_octet 8 from16 seventh
    exact shiftRight_eq_of_octet 0 from8 last
  · exact congrArg _

theorem tells_octetsOf {number other : Nat} (small : number < 2 ^ 64) (small' : other < 2 ^ 64) :
    Tells (Sha256.octetsOf number) (Sha256.octetsOf other) (number = other) := by
  have length : (Sha256.octetsOf number).length = (Sha256.octetsOf other).length := rfl
  exact (tells_of_length length).congr (octetsOf_inj small small')

/-- Octets with their length in front. -/
theorem tells_measured (short : first.length < 2 ^ 64) (short' : second.length < 2 ^ 64) :
    Tells (Sha256.octetsOf first.length ++ first) (Sha256.octetsOf second.length ++ second)
      (first = second) := by
  refine ((tells_octetsOf short short').append tells_of_length).congr ?_
  exact and_iff_right_of_imp (congrArg List.length)

end

theorem Double.word_inj {double other : Double} : double.word = other.word ↔ double = other := by
  constructor
  · intro equal
    obtain ⟨negative, exponent, fraction⟩ := double
    obtain ⟨negative', exponent', fraction'⟩ := other
    have high := exponent.isLt
    have high' := exponent'.isLt
    have low := fraction.isLt
    have low' := fraction'.isLt
    unfold word at equal
    simp only [Nat.pow_eq] at equal
    have signs : negative = negative' := by
      cases negative <;> cases negative' <;>
        simp only [if_true, Bool.false_eq_true, if_false] at equal ⊢ <;> omega
    rw [signs] at equal
    have exponents : exponent.toNat = exponent'.toNat := by omega
    have fractions : fraction.toNat = fraction'.toNat := by omega
    rw [signs, BitVec.eq_of_toNat_eq exponents, BitVec.eq_of_toNat_eq fractions]
  · exact congrArg _

theorem Double.word_lt (double : Double) : double.word < 2 ^ 64 := by
  have high := double.exponent.isLt
  have low := double.fraction.isLt
  unfold word
  dsimp only [Nat.pow_eq]
  split <;> omega

namespace Number

variable {amount amount' : Number}

/-- Whether two numbers are the same integer, or neither is one and they are the same double, bit for
bit. -/
def Alike (amount amount' : Number) : Prop :=
  amount.integer? = amount'.integer? ∧ (amount.integer? = none → amount.toDouble = amount'.toDouble)

instance : Decidable (amount.Alike amount') := inferInstanceAs (Decidable (_ ∧ _))

theorem word_lt (amount : Number) : amount.word < 2 ^ 64 := by
  unfold word
  split
  · exact BitVec.isLt _
  · exact Double.word_lt _

end Number

namespace Value

mutual

/-- Whether two values are the same but for the way in which numbers are held: the same constructors,
texts and octets, the items in the same order, and the same keys in the same order. -/
inductive Alike : Value → Value → Prop
  | null : Alike .null .null
  | bool (value : Bool) : Alike (.bool value) (.bool value)
  | number {amount amount' : Number} (same : amount.Alike amount') :
      Alike (.number amount) (.number amount')
  | string (text : String) : Alike (.string text) (.string text)
  | bytes (octets : ByteArray) : Alike (.bytes octets) (.bytes octets)
  | array {items items' : List Value} (each : List.Forall₂ Alike items items') :
      Alike (.array items) (.array items')
  | object {entries entries' : List (String × Value)}
      (each : List.Forall₂ EntryAlike entries entries') : Alike (.object entries) (.object entries')

/-- Entries under one key whose values are alike. -/
inductive EntryAlike : String × Value → String × Value → Prop
  | mk (key : String) {value value' : Value} (same : Alike value value') :
      EntryAlike (key, value) (key, value')

end

/-- Whether the lengths of the parts of one value fit into the eight octets that they are written in. -/
def isShort : Value → Bool
  | .string text => decide ((octetsOfText text).length < 2 ^ 64)
  | .bytes octets => decide (octets.data.toList.length < 2 ^ 64)
  | .array items => decide (items.length < 2 ^ 64)
  | .object entries =>
    decide (entries.length < 2 ^ 64) &&
      entries.all fun entry => decide ((octetsOfText entry.1).length < 2 ^ 64)
  | _ => true

/-- Whether all lengths in a value, at any depth, fit into the octets that they are written in. -/
def IsMeasurable (value : Value) : Prop := value.everywhere isShort = true

instance (value : Value) : Decidable value.IsMeasurable :=
  inferInstanceAs (Decidable (_ = _))

section

variable {value other : Value} {items items' : List Value} {entries entries' : List (String × Value)}

theorem IsMeasurable.array (measurable : (Value.array items).IsMeasurable) :
    items.length < 2 ^ 64 ∧ ∀ item ∈ items, item.IsMeasurable := by
  obtain ⟨here, inside, _⟩ := (everywhere_iff _ _).mp measurable
  exact ⟨of_decide_eq_true here, inside⟩

theorem IsMeasurable.object (measurable : (Value.object entries).IsMeasurable) :
    entries.length < 2 ^ 64 ∧ (∀ entry ∈ entries, (octetsOfText entry.1).length < 2 ^ 64) ∧
      ∀ entry ∈ entries, entry.2.IsMeasurable := by
  obtain ⟨here, _, inside⟩ := (everywhere_iff _ _).mp measurable
  obtain ⟨count, keys⟩ := Bool.and_eq_true_iff.mp here
  exact ⟨of_decide_eq_true count,
    fun entry member => of_decide_eq_true (List.all_eq_true.mp keys entry member), inside⟩

theorem alike_array : Alike (.array items) (.array items') ↔ List.Forall₂ Alike items items' :=
  ⟨fun alike => by cases alike with | array each => exact each, .array⟩

theorem alike_object :
    Alike (.object entries) (.object entries') ↔ List.Forall₂ EntryAlike entries entries' :=
  ⟨fun alike => by cases alike with | object each => exact each, .object⟩

theorem entryAlike_iff {key key' : String} :
    EntryAlike (key, value) (key', other) ↔ key = key' ∧ Alike value other := by
  constructor
  · intro alike
    cases alike with
    | mk key same => exact ⟨rfl, same⟩
  · rintro ⟨rfl, same⟩
    exact .mk key same

theorem tells_measuredText {text text' : String} (short : (octetsOfText text).length < 2 ^ 64)
    (short' : (octetsOfText text').length < 2 ^ 64) :
    Tells (measuredText text) (measuredText text') (text = text') := by
  refine (tells_measured short short').congr ?_
  unfold octetsOfText
  rw [Array.toList_inj, ← ByteArray.ext_iff]
  exact String.toByteArray_inj

theorem tells_number (amount amount' : Number) :
    Tells (numberLetter amount :: Sha256.octetsOf amount.word)
      (numberLetter amount' :: Sha256.octetsOf amount'.word) (amount.Alike amount') := by
  have words := tells_octetsOf amount.word_lt amount'.word_lt
  unfold numberLetter Number.Alike
  unfold Number.word at words ⊢
  cases whole : amount.integer? with
  | some value =>
      cases whole' : amount'.integer? with
      | some value' =>
          simp only [whole, whole'] at words ⊢
          refine (words.cons _).congr ?_
          rw [BitVec.toNat_inj, Int64.toBitVec_inj]
          simp
      | none =>
          dsimp only
          exact tells_apart (by decide) (by simp)
  | none =>
      cases whole' : amount'.integer? with
      | some value' =>
          dsimp only
          exact tells_apart (by decide) (by simp)
      | none =>
          simp only [whole, whole'] at words ⊢
          refine (words.cons _).congr ?_
          simp [Double.word_inj]

theorem numberLetter_ne {letter : UInt8} (amount : Number) (notInteger : letter ≠ 'i'.toUInt8)
    (notDouble : letter ≠ 'f'.toUInt8) : letter ≠ numberLetter amount := by
  unfold numberLetter
  split
  · exact notInteger
  · exact notDouble

/-- Values of different sorts begin with different letters. -/
theorem tells_of_sorts {value other : Value} (sorts : value.ctorIdx ≠ other.ctorIdx) :
    Tells value.encoding other.encoding (value.Alike other) := by
  cases value with
  | number amount =>
      cases other with
      | number amount' => exact absurd rfl sorts
      | _ => exact tells_apart (numberLetter_ne amount (by decide) (by decide)).symm nofun
  | _ =>
      cases other with
      | number amount => exact tells_apart (numberLetter_ne amount (by decide) (by decide)) nofun
      | _ => first | exact absurd rfl sorts | exact tells_apart (by decide) nofun

/-- The items of arrays of one length are told apart if each is. -/
theorem tells_encodingOfItems (length : items.length = items'.length)
    (each : ∀ item ∈ items, ∀ item' ∈ items', Tells item.encoding item'.encoding (item.Alike item')) :
    Tells (encodingOfItems items) (encodingOfItems items') (List.Forall₂ Alike items items') := by
  induction items generalizing items' with
  | nil =>
      cases items' with
      | nil => exact (tells_of_length rfl).congr (by simp)
      | cons item' items' => cases length
  | cons item items ih =>
      cases items' with
      | nil => cases length
      | cons item' items' =>
          have head := each item List.mem_cons_self item' List.mem_cons_self
          have tail := ih (Nat.succ.inj length) fun item member item' member' =>
            each item (List.mem_cons_of_mem _ member) item' (List.mem_cons_of_mem _ member')
          exact (head.append fun _ => tail).congr List.forall₂_cons.symm

/-- The entries of objects of one size are told apart if their keys and values are. -/
theorem tells_encodingOfEntries (length : entries.length = entries'.length)
    (short : ∀ entry ∈ entries, (octetsOfText entry.1).length < 2 ^ 64)
    (short' : ∀ entry ∈ entries', (octetsOfText entry.1).length < 2 ^ 64)
    (each : ∀ entry ∈ entries, ∀ entry' ∈ entries',
      Tells entry.2.encoding entry'.2.encoding (entry.2.Alike entry'.2)) :
    Tells (encodingOfEntries entries) (encodingOfEntries entries')
      (List.Forall₂ EntryAlike entries entries') := by
  induction entries generalizing entries' with
  | nil =>
      cases entries' with
      | nil => exact (tells_of_length rfl).congr (by simp)
      | cons entry' entries' => cases length
  | cons entry entries ih =>
      cases entries' with
      | nil => cases length
      | cons entry' entries' =>
          have key := tells_measuredText (short entry List.mem_cons_self)
            (short' entry' List.mem_cons_self)
          have value := each entry List.mem_cons_self entry' List.mem_cons_self
          have tail := ih (Nat.succ.inj length)
            (fun entry member => short entry (List.mem_cons_of_mem _ member))
            (fun entry member => short' entry (List.mem_cons_of_mem _ member))
            fun entry member entry' member' =>
              each entry (List.mem_cons_of_mem _ member) entry' (List.mem_cons_of_mem _ member')
          refine (key.append fun _ => value.append fun _ => tail).congr ?_
          rw [List.forall₂_cons, entryAlike_iff, and_assoc]

/-- The octets of measurable values tell them apart. -/
theorem tells_encoding (measurable : value.IsMeasurable) (measurable' : other.IsMeasurable) :
    Tells value.encoding other.encoding (value.Alike other) := by
  induction value using nested_induction generalizing other with
  | step value itemsTold fieldsTold =>
      cases value with
      | null =>
          cases other with
          | null => exact (tells_of_length rfl).congr (iff_of_true rfl .null)
          | _ => exact tells_of_sorts nofun
      | bool value =>
          cases other with
          | bool value' =>
              have length : (bool value).encoding.length = (bool value').encoding.length := rfl
              refine (tells_of_length length).congr ⟨fun same => ?_, fun alike => ?_⟩
              · cases value <;> cases value' <;> first | exact .bool _ | cases same
              · cases alike
                rfl
          | _ => exact tells_of_sorts nofun
      | number amount =>
          cases other with
          | number amount' =>
              refine (tells_number amount amount').congr ⟨.number, fun alike => ?_⟩
              cases alike with
              | number same => exact same
          | _ => exact tells_of_sorts nofun
      | string text =>
          cases other with
          | string text' =>
              have short := of_decide_eq_true ((everywhere_iff _ _).mp measurable).1
              have short' := of_decide_eq_true ((everywhere_iff _ _).mp measurable').1
              refine ((tells_measuredText short short').cons _).congr ⟨?_, fun alike => ?_⟩
              · rintro rfl
                exact .string text
              · cases alike
                rfl
          | _ => exact tells_of_sorts nofun
      | bytes octets =>
          cases other with
          | bytes octets' =>
              have short := of_decide_eq_true ((everywhere_iff _ _).mp measurable).1
              have short' := of_decide_eq_true ((everywhere_iff _ _).mp measurable').1
              refine ((tells_measured short short').cons _).congr ⟨fun same => ?_, fun alike => ?_⟩
              · rw [ByteArray.ext (Array.toList_inj.mp same)]
                exact .bytes octets'
              · cases alike
                rfl
          | _ => exact tells_of_sorts nofun
      | array items =>
          cases other with
          | array items' =>
              obtain ⟨count, inside⟩ := measurable.array
              obtain ⟨count', inside'⟩ := measurable'.array
              -- Items are compared once the counts in front of them agree.
              have contents := fun length => tells_encodingOfItems length
                fun item member item' member' =>
                  itemsTold item member (inside item member) (inside' item' member')
              refine (((tells_octetsOf count count').append contents).cons _).congr ?_
              rw [alike_array]
              exact and_iff_right_of_imp List.Forall₂.length_eq
          | _ => exact tells_of_sorts nofun
      | object entries =>
          cases other with
          | object entries' =>
              obtain ⟨count, short, inside⟩ := measurable.object
              obtain ⟨count', short', inside'⟩ := measurable'.object
              have contents := fun length => tells_encodingOfEntries length short short'
                fun entry member entry' member' =>
                  fieldsTold entry member (inside entry member) (inside' entry' member')
              refine (((tells_octetsOf count count').append contents).cons _).congr ?_
              rw [alike_object]
              exact and_iff_right_of_imp List.Forall₂.length_eq
          | _ => exact tells_of_sorts nofun

/-- A document is read off its octets, whatever is behind them, up to the way in which numbers are held.
In one environment, two documents are hashed as the same octets exactly if they are alike in that sense. -/
theorem encoding_append_eq_iff (measurable : value.IsMeasurable) (measurable' : other.IsMeasurable) :
    (∀ rest rest', value.encoding ++ rest = other.encoding ++ rest' ↔
      value.Alike other ∧ rest = rest') ∧
    ∀ environment, digestInput environment value = digestInput environment other ↔
      value.Alike other := by
  have tells := tells_encoding measurable measurable'
  refine ⟨tells, fun environment => ?_⟩
  unfold digestInput
  rw [List.append_cancel_left_eq, List.cons_inj_right]
  exact tells.iff

end

/-- A bound and a title. -/
def titledBound (bound : Number) : Value :=
  .object [("maximum", .number bound), ("title", .string "bound")]

/-- A title and a bound. -/
def boundTitled (bound : Number) : Value :=
  .object [("title", .string "bound"), ("maximum", .number bound)]

/-- The integer five and the double five are hashed as the same octets; another order of the keys is told
apart. -/
theorem encoding_append_eq_iff_titledBound :
    (titledBound (.int 5)).IsMeasurable ∧ (titledBound (.float (Double.ofInt 5))).IsMeasurable ∧
      (boundTitled (.int 5)).IsMeasurable ∧
      digestInput "env" (titledBound (.int 5)) =
        digestInput "env" (titledBound (.float (Double.ofInt 5))) ∧
      ∀ rest rest', (titledBound (.int 5)).encoding ++ rest ≠
        (boundTitled (.int 5)).encoding ++ rest' := by
  have measurable : (titledBound (.int 5)).IsMeasurable := by decide +kernel
  have measurableDouble : (titledBound (.float (Double.ofInt 5))).IsMeasurable := by decide +kernel
  have measurableOther : (boundTitled (.int 5)).IsMeasurable := by decide +kernel
  have five : (Number.int 5).Alike (.float (Double.ofInt 5)) := by decide +kernel
  refine ⟨measurable, measurableDouble, measurableOther, ?_, fun rest rest' equal => ?_⟩
  · exact ((encoding_append_eq_iff measurable measurableDouble).2 "env").mpr
      (.object (.cons (.mk _ (.number five)) (.cons (.mk _ (.string _)) .nil)))
  · have alike := (((encoding_append_eq_iff measurable measurableOther).1 rest rest').mp equal).1
    cases List.forall₂_cons.mp (alike_object.mp alike) with
    | intro same _ => exact absurd (entryAlike_iff.mp same).1 (by decide)

end Value

end Conformance
