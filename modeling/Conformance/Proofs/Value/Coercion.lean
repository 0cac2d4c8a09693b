import Conformance.Proofs.Conversion.Fixpoint
import Conformance.Proofs.Json.Lexing
/-!
Coercions of values into kinds. A value can be brought into one of some kinds if it is of one of them or one of
them has a conversion for it, so that more kinds never turn a success into a failure; what it is brought into
is of a wanted kind. The conversions that lose nothing are undone by those that lead back: an integer is read
from the text that is written for it, a string from its octets and octets from the numbers that they are
(`Value.coerce_laws`).
-/

namespace Conformance

namespace Text

variable {text : String}

theorem dropWhile_isBlank {chars : List Char} (visible : ∀ char ∈ chars, isBlank char = false) :
    chars.dropWhile isBlank = chars := by
  cases chars with
  | nil => rfl
  | cons first others =>
      exact List.dropWhile_cons_of_neg (ne_true_of_eq_false (visible first List.mem_cons_self))

/-- A text without blanks has none at its ends. -/
theorem trim_eq_self (visible : ∀ char ∈ text.toList, isBlank char = false) : trim text = text := by
  have reversed : ∀ char ∈ text.toList.reverse, isBlank char = false :=
    fun char member => visible char (List.mem_reverse.mp member)
  unfold trim trimChars
  rw [dropWhile_isBlank visible, dropWhile_isBlank reversed, List.reverse_reverse, String.ofList_toList]

theorem isBlank_of_isDigit {char : Char} (digit : char.isDigit = true) : isBlank char = false := by
  obtain ⟨lower, upper⟩ : 48 ≤ char.toNat ∧ char.toNat ≤ 57 := by
    rw [Char.isDigit, Bool.and_eq_true, decide_eq_true_eq, decide_eq_true_eq] at digit
    exact digit
  unfold isBlank
  dsimp only
  exact decide_eq_false (by omega)

end Text

namespace Number

variable {whole : Int64}

theorem isBlank_of_mem_text {char : Char} (member : char ∈ (int whole).text.toList) :
    Text.isBlank char = false := by
  have digits : ∀ size, char ∈ Nat.toDigits 10 size → Text.isBlank char = false := by
    intro size among
    exact Text.isBlank_of_isDigit (Nat.isDigit_of_mem_toDigits (by decide) (by decide) among)
  change char ∈ Json.writeNumber (.int whole) at member
  rcases Json.writeNumber_int whole with ⟨size, _, written⟩ | ⟨size, _, written⟩
  · rw [written] at member
    exact digits size member
  · rw [written] at member
    rcases List.mem_cons.mp member with rfl | among
    · decide
    · exact digits (size + 1) among

/-- Reads the digits behind a sign. -/
def readDigits? (negative : Bool) (digits : List Char) : Option Int64 :=
  if digits.isEmpty || !digits.all Char.isDigit then none
  else
    let whole : Int := if negative then -(digitsValue digits : Int) else digitsValue digits
    if Int64.minValue.toInt ≤ whole ∧ whole ≤ Int64.maxValue.toInt then some (Int64.ofInt whole)
    else none

theorem readInteger?_minus {text : String} {digits : List Char} (chars : text.toList = '-' :: digits) :
    readInteger? text = readDigits? true digits := by
  unfold readInteger?
  rw [chars]
  rfl

theorem readInteger?_digit {text : String} {first : Char} {others : List Char}
    (chars : text.toList = first :: others) (isDigit : first.isDigit = true) :
    readInteger? text = readDigits? false (first :: others) := by
  unfold readInteger?
  rw [chars]
  split
  rename_i negative digits matched
  split at matched
  · rename_i minus
    cases minus
    exact absurd isDigit (by decide)
  · rename_i plus
    cases plus
    exact absurd isDigit (by decide)
  · cases matched
    rfl

theorem readDigits?_toDigits {negative : Bool} {size : Nat}
    (signed : (if negative then -(size : Int) else size) = whole.toInt) :
    readDigits? negative (Nat.toDigits 10 size) = some whole := by
  have each : (Nat.toDigits 10 size).all Char.isDigit = true :=
    List.all_eq_true.mpr fun _ => Nat.isDigit_of_mem_toDigits (by decide) (by decide)
  have legible : ¬ ((Nat.toDigits 10 size).isEmpty || !(Nat.toDigits 10 size).all Char.isDigit) = true := by
    rw [each, Bool.not_true, Bool.or_false, List.isEmpty_iff]
    exact Nat.toDigits_ne_nil
  unfold readDigits?
  rw [if_neg legible, Json.digitsValue_toDigits]
  dsimp only
  rw [signed, if_pos ⟨whole.minValue_le_toInt, whole.toInt_le⟩, Int64.ofInt_toInt]

/-- What is written for an integer is read back. -/
theorem readInteger?_text (whole : Int64) : readInteger? (int whole).text = some whole := by
  rcases Json.writeNumber_int whole with ⟨size, same, written⟩ | ⟨size, same, written⟩
  · obtain ⟨first, others, digits, isDigit⟩ := Json.exists_cons_toDigits size
    refine (readInteger?_digit (written.trans digits) isDigit).trans ?_
    rw [← digits]
    exact readDigits?_toDigits same.symm
  · exact (readInteger?_minus written).trans (readDigits?_toDigits same.symm)

end Number

namespace Coercion

theorem octet?_ofNat (octet : UInt8) : octet? (.ofNat octet.toNat) = some octet := by
  have bound := octet.toNat_lt
  have least : Int64.minValue.toInt = -2 ^ 63 := rfl
  have greatest : Int64.maxValue.toInt = 2 ^ 63 - 1 := rfl
  have written : Number.ofWhole octet.toNat = .int (Int64.ofInt octet.toNat) := if_pos (by omega)
  have fits : (Int64.ofInt octet.toNat).toInt = octet.toNat :=
    Int64.toInt_ofInt_of_le (by omega) (by omega)
  have natural : (Number.ofWhole octet.toNat).natural? = some octet.toNat := by
    rw [written]
    change (if 0 ≤ (Int64.ofInt octet.toNat).toInt then
      some (Int64.ofInt octet.toNat).toInt.toNat else none) = _
    rw [fits, if_pos (Int.natCast_nonneg _), Int.toNat_natCast]
  unfold octet? Value.ofNat
  dsimp only
  rw [natural]
  dsimp only
  rw [if_pos (by omega), UInt8.ofNat_toNat]

theorem mapM_octet? (octets : List UInt8) :
    (octets.map fun octet => Value.ofNat octet.toNat).mapM octet? = some octets := by
  induction octets with
  | nil => rfl
  | cons octet octets ih =>
      rw [List.map_cons, List.mapM_cons, octet?_ofNat, ih]
      rfl

theorem integer?_text (whole : Int64) :
    to? .integer (.string (Number.int whole).text) = some (.ofInt64 whole) := by
  change (Number.readInteger? (Text.trim (Number.int whole).text)).map Value.ofInt64 = _
  rw [Text.trim_eq_self fun char => Number.isBlank_of_mem_text, Number.readInteger?_text]
  rfl

theorem string?_toUTF8 (text : String) : to? .string (.bytes text.toUTF8) = some (.string text) := by
  have decoded : String.fromUTF8? text.toUTF8 = some text := by
    simp only [String.fromUTF8?, String.toUTF8_eq_toByteArray, dif_pos text.isValidUTF8]
    rfl
  change (String.fromUTF8? text.toUTF8).map Value.string = _
  rw [decoded]
  rfl

theorem bytes?_octets (octets : ByteArray) :
    to? .bytes (.array (octets.data.toList.map fun octet => .ofNat octet.toNat)) = some (.bytes octets) := by
  change ((octets.data.toList.map fun octet => Value.ofNat octet.toNat).mapM octet?).map
    (fun octets => Value.bytes ⟨octets.toArray⟩) = _
  rw [mapM_octet?]
  rfl

theorem mem_order (kind : Kind) : kind ∈ order := by
  cases kind <;> decide

end Coercion

namespace Value

variable {value coerced : Value} {kinds more : KindSet} {kind : Kind}

theorem coerce_of_mem (admitted : value.kind ∈ kinds) : value.coerce kinds = .ok value := if_pos admitted

/-- Some wanted kind has to be the value's own or to have a conversion for it. -/
theorem exists_coerce_iff : (∃ coerced, value.coerce kinds = .ok coerced) ↔
    value.kind ∈ kinds ∨ ∃ kind ∈ kinds, ∃ coerced, Coercion.to? kind value = some coerced := by
  constructor
  · rintro ⟨coerced, made⟩
    unfold coerce at made
    split at made
    · rename_i admitted
      exact .inl admitted
    · split at made
      · rename_i found
        obtain ⟨kind, listed, converted⟩ := List.exists_of_findSome?_eq_some found
        exact .inr ⟨kind, (List.mem_filter.mp listed).2, _, converted⟩
      · cases made
  · rintro (admitted | ⟨kind, wanted, converted⟩)
    · exact ⟨value, coerce_of_mem admitted⟩
    · have listed : kind ∈ Coercion.order.filter kinds.contains :=
        List.mem_filter.mpr ⟨Coercion.mem_order kind, wanted⟩
      unfold coerce
      split
      · exact ⟨value, rfl⟩
      · split
        · exact ⟨_, rfl⟩
        · rename_i absent
          obtain ⟨coerced, found⟩ := converted
          cases found.symm.trans (List.findSome?_eq_none_iff.mp absent kind listed)

/-- More wanted kinds never make a coercion fail. -/
theorem exists_coerce_union (made : value.coerce kinds = .ok coerced) :
    ∃ other, value.coerce (kinds.union more) = .ok other := by
  have grown : ∀ {kind}, kind ∈ kinds → kind ∈ kinds.union more := by
    intro kind wanted
    change (kinds.union more).contains kind = true
    rw [KindSet.contains_union, Bool.or_eq_true]
    exact .inl wanted
  rcases exists_coerce_iff.mp ⟨coerced, made⟩ with admitted | ⟨kind, wanted, converted⟩
  · exact exists_coerce_iff.mpr (.inl (grown admitted))
  · exact exists_coerce_iff.mpr (.inr ⟨kind, grown wanted, converted⟩)

/-- Where one kind is wanted, its conversion is the one that is tried. -/
theorem coerce_singleton (foreign : value.kind ≠ kind) (converted : Coercion.to? kind value = some coerced) :
    value.coerce (.singleton kind) = .ok coerced := by
  have unwanted : ¬ (KindSet.singleton kind).contains value.kind = true := by
    rw [KindSet.contains_singleton, decide_eq_true_eq]
    exact foreign.symm
  have tried : Coercion.order.filter (KindSet.singleton kind).contains = [kind] := by
    cases kind <;> rfl
  unfold coerce
  rw [if_neg unwanted, tried, List.findSome?_singleton, converted]

/-- What a value is brought into is of a wanted kind, and is the value itself if that is of one; more kinds
keep a value convertible; and the conversions between integers and strings, strings and octets, and octets and
arrays undo one another. -/
theorem coerce_laws :
    (∀ (value coerced : Value) (kinds : KindSet), value.coerce kinds = .ok coerced →
      coerced.kind ∈ kinds ∧ (value.kind ∈ kinds → coerced = value)) ∧
    (∀ (value coerced : Value) (kinds more : KindSet), value.coerce kinds = .ok coerced →
      ∃ other, value.coerce (kinds.union more) = .ok other) ∧
    (∀ whole : Int64, ∃ text, (ofInt64 whole).coerce (.singleton .string) = .ok (.string text) ∧
      (string text).coerce (.singleton .integer) = .ok (.ofInt64 whole)) ∧
    (∀ text : String, ∃ octets, (string text).coerce (.singleton .bytes) = .ok (.bytes octets) ∧
      (bytes octets).coerce (.singleton .string) = .ok (.string text)) ∧
    ∀ octets : ByteArray, ∃ items, (bytes octets).coerce (.singleton .array) = .ok (.array items) ∧
      (array items).coerce (.singleton .bytes) = .ok (.bytes octets) := by
  refine ⟨?lands, fun _ _ _ _ => exists_coerce_union, ?integers, ?strings, ?octets⟩
  case lands =>
    intro value coerced kinds made
    refine ⟨kind_of_coerce made, fun admitted => ?_⟩
    exact (Except.ok.inj ((coerce_of_mem admitted).symm.trans made)).symm
  case integers =>
    intro whole
    exact ⟨(Number.int whole).text, coerce_singleton nofun rfl,
      coerce_singleton nofun (Coercion.integer?_text whole)⟩
  case strings =>
    intro text
    exact ⟨text.toUTF8, coerce_singleton nofun rfl,
      coerce_singleton nofun (Coercion.string?_toUTF8 text)⟩
  case octets =>
    intro octets
    exact ⟨octets.data.toList.map fun octet => .ofNat octet.toNat, coerce_singleton nofun rfl,
      coerce_singleton nofun (Coercion.bytes?_octets octets)⟩

/-- An integer is read between blanks, also where an object would do, and is kept where it is read already. -/
theorem coerce_laws_seven :
    (string " 7 ").coerce (.singleton .integer) = .ok (ofInt64 7) ∧
    (ofInt64 7).kind ∈ KindSet.singleton .integer ∧
    (∃ other, (string " 7 ").coerce ((KindSet.singleton .integer).union .object) = .ok other) ∧
    ∀ coerced, (ofInt64 7).coerce (.singleton .integer) = .ok coerced → coerced = ofInt64 7 := by
  have made : (string " 7 ").coerce (.singleton .integer) = .ok (ofInt64 7) := by rfl
  obtain ⟨lands, grows, _⟩ := coerce_laws
  exact ⟨made, (lands _ _ _ made).1, grows _ _ _ _ made, fun _ kept => (lands _ _ _ kept).2 (by decide)⟩

end Value

end Conformance
