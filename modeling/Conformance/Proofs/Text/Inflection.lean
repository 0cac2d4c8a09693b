import Conformance.Text.Inflection
import Mathlib.Data.List.DropRight
/-!
Images of names. A convention takes ASCII names to ASCII names, and leaves the image of such a name as it is
(`Inflection.apply_apply`). The characters of an image with underscores stand for themselves. An image
without marks is one word, of which only the first character could change.
-/

namespace Conformance.Text

/-- Whether a name has ASCII characters only. -/
def IsAscii (name : String) : Prop := ∀ char ∈ name.toList, char.toNat < 128

instance (name : String) : Decidable (IsAscii name) :=
  List.decidableBAll (fun char : Char => char.toNat < 128) name.toList

/-- What holds of the characters of the first 128 points holds of all ASCII characters. -/
theorem of_ascii (holds : Char → Prop) (each : ∀ point < 128, holds (Char.ofNat point)) {char : Char}
    (ascii : char.toNat < 128) : holds char := by
  have held := each char.toNat ascii
  rwa [Char.ofNat_toNat] at held

theorem lower_of_ascii {char : Char} (ascii : char.toNat < 128) : lower char = [char.toLower] :=
  if_pos ascii

theorem upper_of_ascii {char : Char} (ascii : char.toNat < 128) : upper char = [char.toUpper] :=
  if_pos ascii

section Underscore

/-- Whether a character stands for itself in a name with underscores. -/
def IsSettled (char : Char) : Prop := char.toNat < 128 ∧ char ≠ '-' ∧ isUppercase char = false

instance (char : Char) : Decidable (IsSettled char) :=
  inferInstanceAs (Decidable (char.toNat < 128 ∧ char ≠ '-' ∧ isUppercase char = false))

theorem isSettled_toLower {char : Char} (ascii : char.toNat < 128) (noHyphen : char ≠ '-') :
    IsSettled char.toLower := by
  have each : ∀ point < 128, Char.ofNat point ≠ '-' → IsSettled (Char.ofNat point).toLower := by
    decide +kernel
  exact of_ascii (fun char => char ≠ '-' → IsSettled char.toLower) each ascii noHyphen

theorem toLower_of_isSettled {char : Char} (settled : IsSettled char) : char.toLower = char := by
  have each : ∀ point < 128,
      IsSettled (Char.ofNat point) → (Char.ofNat point).toLower = Char.ofNat point := by decide +kernel
  exact of_ascii (fun char => IsSettled char → char.toLower = char) each settled.1 settled

theorem isSettled_underscoreFrom {chars : List Char} (ascii : ∀ char ∈ chars, char.toNat < 128)
    (previous : Option Char) : ∀ char ∈ underscoreFrom previous chars, IsSettled char := by
  have mark : IsSettled '_' := by decide +kernel
  induction chars generalizing previous with
  | nil => exact List.forall_mem_nil _
  | cons char rest ih =>
      obtain ⟨first, others⟩ := List.forall_mem_cons.mp ascii
      unfold underscoreFrom
      split
      · exact List.forall_mem_cons.mpr ⟨mark, ih others _⟩
      · rename_i noHyphen
        have marks : ∀ other ∈ (if isUppercase char && previous.any (beginsWord · rest.head?) then ['_']
            else []), IsSettled other := by
          split
          · exact List.forall_mem_singleton.mpr mark
          · exact List.forall_mem_nil _
        rw [lower_of_ascii first]
        refine List.forall_mem_append.mpr ⟨List.forall_mem_append.mpr ⟨marks, ?_⟩, ih others _⟩
        exact List.forall_mem_singleton.mpr (isSettled_toLower first noHyphen)

theorem underscoreFrom_of_isSettled {chars : List Char} (settled : ∀ char ∈ chars, IsSettled char)
    (previous : Option Char) : underscoreFrom previous chars = chars := by
  induction chars generalizing previous with
  | nil => rfl
  | cons char rest ih =>
      obtain ⟨first, others⟩ := List.forall_mem_cons.mp settled
      unfold underscoreFrom
      rw [if_neg first.2.1, first.2.2, ih others, lower_of_ascii first.1, toLower_of_isSettled first]
      rfl

variable {name : String}

theorem isSettled_underscore (ascii : IsAscii name) :
    ∀ char ∈ (underscore name).toList, IsSettled char := by
  unfold underscore
  rw [String.toList_ofList]
  intro char member
  exact isSettled_underscoreFrom ascii none char ((List.dropWhile_sublist _).subset member)

theorem underscore_underscore (ascii : IsAscii name) : underscore (underscore name) = underscore name := by
  have settled := isSettled_underscore ascii
  unfold underscore at settled ⊢
  rw [underscoreFrom_of_isSettled settled, String.toList_ofList, List.dropWhile_idempotent]

end Underscore

section LowerCamel

/-- Whether a list is a word: it has characters, which are ASCII and divide nothing. -/
def IsWord (word : List Char) : Prop :=
  word ≠ [] ∧ ∀ char ∈ word, char.toNat < 128 ∧ dividesWords char = false

theorem isWord_reverse {read : List Char} (held : ∀ char ∈ read, char.toNat < 128 ∧ dividesWords char = false)
    {word : List Char} (member : word ∈ if read.isEmpty then [] else [read.reverse]) : IsWord word := by
  split at member
  · cases member
  · rename_i some
    rw [List.mem_singleton.mp member]
    refine ⟨fun none => some ?_, fun char member => held char (List.mem_reverse.mp member)⟩
    rw [List.reverse_eq_nil_iff.mp none]
    rfl

theorem isWord_of_mem_wordsFrom {chars : List Char} (ascii : ∀ char ∈ chars, char.toNat < 128)
    {read : List Char} (held : ∀ char ∈ read, char.toNat < 128 ∧ dividesWords char = false) :
    ∀ word ∈ wordsFrom read chars, IsWord word := by
  induction chars generalizing read with
  | nil => exact fun word => isWord_reverse held
  | cons char rest ih =>
      obtain ⟨first, others⟩ := List.forall_mem_cons.mp ascii
      unfold wordsFrom
      split
      · exact List.forall_mem_append.mpr ⟨fun word => isWord_reverse held, ih others (List.forall_mem_nil _)⟩
      · rename_i joins
        exact ih others (List.forall_mem_cons.mpr ⟨⟨first, eq_false_of_ne_true joins⟩, held⟩)

/-- Characters that divide nothing are read as characters of one word. -/
theorem wordsFrom_append {chars : List Char} (undivided : ∀ char ∈ chars, dividesWords char = false)
    (read rest : List Char) : wordsFrom read (chars ++ rest) = wordsFrom (chars.reverse ++ read) rest := by
  induction chars generalizing read with
  | nil => rfl
  | cons char others ih =>
      obtain ⟨first, behind⟩ := List.forall_mem_cons.mp undivided
      have step : wordsFrom read (char :: (others ++ rest)) = wordsFrom (char :: read) (others ++ rest) :=
        if_neg (ne_true_of_eq_false first)
      rw [List.cons_append, step, ih behind, List.reverse_cons, List.append_assoc]
      rfl

theorem isEmpty_reverse_of_isWord {word : List Char} (isWord : IsWord word) :
    word.reverse.isEmpty = false := by
  rw [List.isEmpty_reverse]
  exact List.isEmpty_eq_false_iff.mpr isWord.1

theorem words_of_isWord {word : List Char} (isWord : IsWord word) : words word = [word] := by
  have read := wordsFrom_append (fun char member => (isWord.2 char member).2) [] []
  rw [List.append_nil, List.append_nil, wordsFrom, isEmpty_reverse_of_isWord isWord,
    List.reverse_reverse] at read
  exact read

/-- Another case form of a character that divides nothing divides nothing either. -/
theorem joins_cased {char : Char} (held : char.toNat < 128 ∧ dividesWords char = false) :
    (char.toLower.toNat < 128 ∧ dividesWords char.toLower = false) ∧
      char.toUpper.toNat < 128 ∧ dividesWords char.toUpper = false := by
  have each : ∀ point < 128, dividesWords (Char.ofNat point) = false →
      ((Char.ofNat point).toLower.toNat < 128 ∧ dividesWords (Char.ofNat point).toLower = false) ∧
        (Char.ofNat point).toUpper.toNat < 128 ∧ dividesWords (Char.ofNat point).toUpper = false := by
    decide +kernel
  exact of_ascii (fun char => dividesWords char = false →
    (char.toLower.toNat < 128 ∧ dividesWords char.toLower = false) ∧
      char.toUpper.toNat < 128 ∧ dividesWords char.toUpper = false) each held.1 held.2

theorem isWord_withFirst {form : Char → List Char} {cased : Char → Char}
    (forms : ∀ char : Char, char.toNat < 128 → form char = [cased char])
    (joins : ∀ char : Char, char.toNat < 128 ∧ dividesWords char = false →
      (cased char).toNat < 128 ∧ dividesWords (cased char) = false)
    {word : List Char} (isWord : IsWord word) : IsWord (withFirst form word) := by
  obtain ⟨some, held⟩ := isWord
  cases word with
  | nil => exact absurd rfl some
  | cons char rest =>
      obtain ⟨first, others⟩ := List.forall_mem_cons.mp held
      rw [withFirst, forms char first.1]
      exact ⟨List.cons_ne_nil _ _, List.forall_mem_cons.mpr ⟨joins char first, others⟩⟩

theorem isWord_withFirst_lower {word : List Char} (isWord : IsWord word) :
    IsWord (withFirst lower word) :=
  isWord_withFirst (fun _ => lower_of_ascii) (fun _ held => (joins_cased held).1) isWord

theorem withFirst_lower_append {word : List Char} (isWord : IsWord word) (rest : List Char) :
    withFirst lower (withFirst lower word ++ rest) = withFirst lower word ++ rest := by
  obtain ⟨some, held⟩ := isWord
  cases word with
  | nil => exact absurd rfl some
  | cons char others =>
      have ascii := (List.forall_mem_cons.mp held).1
      have again : char.toLower.toLower = char.toLower := by
        have each : ∀ point < 128, (Char.ofNat point).toLower.toLower = (Char.ofNat point).toLower := by
          decide +kernel
        exact of_ascii (fun char => char.toLower.toLower = char.toLower) each ascii.1
      have lowered := lower_of_ascii (joins_cased ascii).1.1
      rw [again] at lowered
      rw [withFirst, lower_of_ascii ascii.1]
      change lower char.toLower ++ (others ++ rest) = _
      rw [lowered]
      rfl

variable {name : String}

theorem isWord_lowerCamel {first : List Char} {rest : List (List Char)}
    (each : ∀ word ∈ first :: rest, IsWord word) :
    IsWord (withFirst lower first ++ rest.flatMap (withFirst upper)) := by
  obtain ⟨front, others⟩ := List.forall_mem_cons.mp each
  obtain ⟨some, held⟩ := isWord_withFirst_lower front
  refine ⟨fun none => some (List.append_eq_nil_iff.mp none).1, List.forall_mem_append.mpr ⟨held, ?_⟩⟩
  intro char member
  obtain ⟨word, listed, inside⟩ := List.mem_flatMap.mp member
  exact (isWord_withFirst (fun _ => upper_of_ascii) (fun _ held => (joins_cased held).2)
    (others word listed)).2 char inside

theorem isWord_of_mem_words (ascii : IsAscii name) : ∀ word ∈ words name.toList, IsWord word :=
  isWord_of_mem_wordsFrom ascii (List.forall_mem_nil _)

theorem isAscii_lowerCamel (ascii : IsAscii name) : IsAscii (lowerCamel name) := by
  have each := isWord_of_mem_words ascii
  unfold lowerCamel
  split
  · exact List.forall_mem_nil _
  · rename_i first rest found
    rw [found] at each
    intro char member
    rw [String.toList_ofList] at member
    exact ((isWord_lowerCamel each).2 char member).1

theorem lowerCamel_lowerCamel (ascii : IsAscii name) : lowerCamel (lowerCamel name) = lowerCamel name := by
  have each := isWord_of_mem_words ascii
  unfold lowerCamel
  cases found : words name.toList with
  | nil => rfl
  | cons first rest =>
      rw [found] at each
      dsimp only
      rw [String.toList_ofList, words_of_isWord (isWord_lowerCamel each)]
      dsimp only
      rw [withFirst_lower_append (each first List.mem_cons_self), List.flatMap_nil, List.append_nil]

end LowerCamel

end Conformance.Text

namespace Conformance.Inflection

variable {name : String}

theorem isAscii_apply (inflection : Inflection) (ascii : Text.IsAscii name) :
    Text.IsAscii (inflection.apply name) := by
  cases inflection with
  | underscore => exact fun char member => (Text.isSettled_underscore ascii char member).1
  | lowerCamel => exact Text.isAscii_lowerCamel ascii

/-- A convention leaves the image of an ASCII name as it is. -/
theorem apply_apply (inflection : Inflection) (ascii : Text.IsAscii name) :
    inflection.apply (inflection.apply name) = inflection.apply name := by
  cases inflection with
  | underscore => exact Text.underscore_underscore ascii
  | lowerCamel => exact Text.lowerCamel_lowerCamel ascii

end Conformance.Inflection
