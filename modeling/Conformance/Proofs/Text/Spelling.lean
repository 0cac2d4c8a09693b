import Conformance.Format
import Conformance.Proofs.Text.Inflection
/-!
Spellings of names. A name of several words may be spelled with a mark between the words or with capitals. If
every word is a small letter with more small letters or digits behind it, a capital always stands out from what
is in front of it, and so each convention takes all spellings of a name to the one that it has itself. Of any
other ASCII name it makes one that it leaves as it is (`Text.normal_forms`).
-/

namespace Conformance.Text

/-- The usual spellings of a name of several words. -/
inductive Spelling where
  /-- Underscores between the words. -/
  | snake
  /-- Hyphens between the words. -/
  | kebab
  /-- No marks, but a capital for each word other than the first. -/
  | lowerCamel
  /-- No marks, but a capital for each word. -/
  | upperCamel
  deriving DecidableEq, Repr

/-- A word with a capital. -/
def capitalized : List Char → List Char
  | [] => []
  | char :: rest => char.toUpper :: rest

/-- The characters of a name of some words in a spelling. -/
def Spelling.chars (parts : List (List Char)) : Spelling → List Char
  | .snake => ['_'].intercalate parts
  | .kebab => ['-'].intercalate parts
  | .lowerCamel => parts.headD [] ++ parts.tail.flatMap capitalized
  | .upperCamel => parts.flatMap capitalized

/-- A name of some words in a spelling. -/
def Spelling.write (spelling : Spelling) (parts : List (List Char)) : String :=
  String.ofList (spelling.chars parts)

/-- What stands for the first word of a name in a spelling. -/
def Spelling.first : Spelling → List Char → List Char
  | .upperCamel => capitalized
  | _ => id

/-- What stands for a word behind others in a spelling. -/
def Spelling.behind : Spelling → List Char → List Char
  | .snake => List.cons '_'
  | .kebab => List.cons '-'
  | .lowerCamel | .upperCamel => capitalized

theorem intercalate_cons_eq (mark : Char) (part : List Char) (parts : List (List Char)) :
    [mark].intercalate (part :: parts) = part ++ parts.flatMap (List.cons mark) := by
  induction parts generalizing part with
  | nil => rw [List.intercalate_singleton, List.flatMap_nil, List.append_nil]
  | cons next parts ih =>
      rw [List.intercalate_cons_cons, ih, List.append_assoc]
      rfl

theorem Spelling.chars_cons (spelling : Spelling) (part : List Char) (parts : List (List Char)) :
    spelling.chars (part :: parts) = spelling.first part ++ parts.flatMap spelling.behind := by
  cases spelling with
  | snake => exact intercalate_cons_eq '_' part parts
  | kebab => exact intercalate_cons_eq '-' part parts
  | lowerCamel => rfl
  | upperCamel => rfl

/-- Whether a character is a small letter or a digit. -/
def IsSmall (char : Char) : Prop := char.isLower = true ∨ char.isDigit = true

instance (char : Char) : Decidable (IsSmall char) :=
  inferInstanceAs (Decidable (char.isLower = true ∨ char.isDigit = true))

/-- Whether a word is a small letter with more small letters or digits behind it. -/
def IsPart : List Char → Prop
  | char :: next :: rest => char.isLower = true ∧ ∀ other ∈ next :: rest, IsSmall other
  | _ => False

instance : DecidablePred IsPart
  | _ :: next :: rest =>
    -- the instance that looks at the letters of the word: a search may also find one that goes through all characters
    @instDecidableAnd _ _ _ (List.decidableBAll IsSmall (next :: rest))
  | [] => .isFalse id
  | [_] => .isFalse id

section Characters

variable {char : Char}

theorem isAscii_of_isSmall (small : IsSmall char) : char.toNat < 128 := by
  unfold IsSmall Char.isLower Char.isDigit at small
  simp only [Bool.and_eq_true, decide_eq_true_eq, UInt32.le_iff_toNat_le, ge_iff_le] at small
  change char.val.toNat < 128
  rcases small with ⟨_, atMost⟩ | ⟨_, atMost⟩
  · exact Nat.lt_of_le_of_lt atMost (by decide)
  · exact Nat.lt_of_le_of_lt atMost (by decide)

/-- Small letters and digits stand for themselves and divide nothing. -/
theorem isSettled_of_isSmall (small : IsSmall char) : IsSettled char ∧ dividesWords char = false := by
  have each : ∀ point < 128, IsSmall (Char.ofNat point) →
      IsSettled (Char.ofNat point) ∧ dividesWords (Char.ofNat point) = false := by decide +kernel
  exact of_ascii (fun char => IsSmall char → IsSettled char ∧ dividesWords char = false) each
    (isAscii_of_isSmall small) small

/-- A small letter and its capital are forms of each other. -/
theorem toUpper_of_isLower (letter : char.isLower = true) :
    isUppercase char.toUpper = true ∧ char.toUpper.toLower = char := by
  have each : ∀ point < 128, (Char.ofNat point).isLower = true →
      isUppercase (Char.ofNat point).toUpper = true ∧
        (Char.ofNat point).toUpper.toLower = Char.ofNat point := by decide +kernel
  exact of_ascii (fun char => char.isLower = true →
    isUppercase char.toUpper = true ∧ char.toUpper.toLower = char) each
    (isAscii_of_isSmall (.inl letter)) letter

/-- A word begins behind a small letter or a digit, whatever follows. -/
theorem beginsWord_of_isSmall (small : IsSmall char) (next : Option Char) :
    beginsWord char next = true := by
  unfold beginsWord isLowercase
  rw [if_pos (isAscii_of_isSmall small)]
  rcases small with letter | digit
  · rw [letter, Bool.true_or, Bool.true_or]
  · rw [digit, Bool.or_true, Bool.true_or]

end Characters

namespace IsPart

variable {part : List Char}

/-- A part is a small letter with something behind it, which is small as well. -/
theorem exists_cons (isPart : IsPart part) : ∃ char rest, part = char :: rest ∧ char.isLower = true ∧
    (∀ other ∈ rest, IsSmall other) ∧ rest ≠ [] := by
  match part, isPart with
  | char :: next :: rest, ⟨letter, small⟩ =>
      exact ⟨char, next :: rest, rfl, letter, small, List.cons_ne_nil _ _⟩

theorem isSmall (isPart : IsPart part) : ∀ char ∈ part, IsSmall char := by
  obtain ⟨char, rest, rfl, letter, small, _⟩ := isPart.exists_cons
  exact List.forall_mem_cons.mpr ⟨.inl letter, small⟩

theorem isWord (isPart : IsPart part) : IsWord part := by
  have small := isPart.isSmall
  obtain ⟨char, rest, rfl, _⟩ := isPart.exists_cons
  exact ⟨List.cons_ne_nil _ _, fun other member =>
    ⟨isAscii_of_isSmall (small other member), (isSettled_of_isSmall (small other member)).2⟩⟩

end IsPart

section Underscore

/-- Small characters stand for themselves, and what follows is read behind the last of them. -/
theorem underscoreFrom_append {chars : List Char} (small : ∀ char ∈ chars, IsSmall char)
    (some : chars ≠ []) (previous : Option Char) :
    ∃ last, IsSmall last ∧ ∀ more,
      underscoreFrom previous (chars ++ more) = chars ++ underscoreFrom (.some last) more := by
  induction chars generalizing previous with
  | nil => exact absurd rfl some
  | cons char rest ih =>
      obtain ⟨first, others⟩ := List.forall_mem_cons.mp small
      have settled := (isSettled_of_isSmall first).1
      have step (more : List Char) : underscoreFrom previous (char :: more) =
          char :: underscoreFrom (.some char) more := by
        rw [underscoreFrom, if_neg settled.2.1, settled.2.2, lower_of_ascii settled.1,
          toLower_of_isSettled settled]
        rfl
      cases rest with
      | nil => exact ⟨char, first, step⟩
      | cons next rest =>
          obtain ⟨last, isSmall, read⟩ := ih others (List.cons_ne_nil _ _) (.some char)
          refine ⟨last, isSmall, fun more => ?_⟩
          rw [List.cons_append, step, read]
          rfl

/-- The mark is left out in front of a name only: a capital behind a small letter or a digit begins a word. -/
theorem underscoreFrom_capitalized {part : List Char} (isPart : IsPart part) :
    ∃ last, IsSmall last ∧ ∀ more,
      underscoreFrom none (capitalized part ++ more) = part ++ underscoreFrom (.some last) more ∧
      ∀ previous, IsSmall previous → underscoreFrom (.some previous) (capitalized part ++ more) =
        '_' :: part ++ underscoreFrom (.some last) more := by
  obtain ⟨char, rest, rfl, letter, small, some⟩ := isPart.exists_cons
  obtain ⟨last, isSmall, read⟩ := underscoreFrom_append small some (.some char.toUpper)
  obtain ⟨isCapital, lowered⟩ := toUpper_of_isLower letter
  obtain ⟨ascii, joins⟩ := (joins_cased (isPart.isWord.2 char List.mem_cons_self)).2
  have noHyphen : char.toUpper ≠ '-' := by
    intro same
    rw [same] at joins
    cases joins
  refine ⟨last, isSmall, fun more => ⟨?_, fun previous before => ?_⟩⟩
  · change underscoreFrom none (char.toUpper :: (rest ++ more)) = _
    rw [underscoreFrom, if_neg noHyphen, lower_of_ascii ascii, lowered, read]
    simp
  · change underscoreFrom (.some previous) (char.toUpper :: (rest ++ more)) = _
    rw [underscoreFrom, if_neg noHyphen, lower_of_ascii ascii, lowered, read, isCapital,
      Option.any_some, beginsWord_of_isSmall before]
    rfl

/-- A word behind others is read behind a mark, in every spelling. -/
theorem underscoreFrom_behind {part : List Char} (isPart : IsPart part) (spelling : Spelling) :
    ∃ last, IsSmall last ∧ ∀ more previous, IsSmall previous →
      underscoreFrom (.some previous) (spelling.behind part ++ more) =
        '_' :: part ++ underscoreFrom (.some last) more := by
  have some : part ≠ [] := isPart.isWord.1
  cases spelling with
  | snake =>
      obtain ⟨last, isSmall, read⟩ := underscoreFrom_append isPart.isSmall some (.some '_')
      have mark : IsSettled '_' := by decide +kernel
      refine ⟨last, isSmall, fun more previous _ => ?_⟩
      change underscoreFrom _ ('_' :: (part ++ more)) = _
      rw [underscoreFrom, if_neg mark.2.1, mark.2.2, lower_of_ascii mark.1, read,
        toLower_of_isSettled mark]
      rfl
  | kebab =>
      obtain ⟨last, isSmall, read⟩ := underscoreFrom_append isPart.isSmall some (.some '-')
      refine ⟨last, isSmall, fun more previous _ => ?_⟩
      change underscoreFrom _ ('-' :: (part ++ more)) = _
      rw [underscoreFrom, if_pos rfl, read]
      rfl
  | lowerCamel | upperCamel =>
      obtain ⟨last, isSmall, read⟩ := underscoreFrom_capitalized isPart
      exact ⟨last, isSmall, fun more => (read more).2⟩

/-- Each word leaves a small character behind, which the next one is read behind. -/
theorem underscoreFrom_flatMap_behind {parts : List (List Char)} (each : ∀ part ∈ parts, IsPart part)
    (spelling : Spelling) {previous : Char} (before : IsSmall previous) :
    underscoreFrom (.some previous) (parts.flatMap spelling.behind) =
      parts.flatMap (List.cons '_') := by
  induction parts generalizing previous with
  | nil => rfl
  | cons part parts ih =>
      obtain ⟨isPart, others⟩ := List.forall_mem_cons.mp each
      obtain ⟨last, isSmall, read⟩ := underscoreFrom_behind isPart spelling
      rw [List.flatMap_cons, List.flatMap_cons, read _ _ before, ih others isSmall]

theorem underscoreFrom_chars {parts : List (List Char)} (each : ∀ part ∈ parts, IsPart part)
    (spelling : Spelling) : underscoreFrom none (spelling.chars parts) = Spelling.snake.chars parts := by
  cases parts with
  | nil => cases spelling <;> rfl
  | cons part parts =>
      obtain ⟨isPart, others⟩ := List.forall_mem_cons.mp each
      have front : ∃ last, IsSmall last ∧ ∀ more,
          underscoreFrom none (spelling.first part ++ more) = part ++ underscoreFrom (.some last) more := by
        cases spelling with
        | upperCamel =>
            obtain ⟨last, isSmall, read⟩ := underscoreFrom_capitalized isPart
            exact ⟨last, isSmall, fun more => (read more).1⟩
        | _ => exact underscoreFrom_append isPart.isSmall isPart.isWord.1 none
      obtain ⟨last, isSmall, read⟩ := front
      rw [Spelling.chars_cons, Spelling.chars_cons, read, underscoreFrom_flatMap_behind others _ isSmall]
      rfl

/-- All spellings of a name have the image that the one with underscores is. -/
theorem underscore_write {parts : List (List Char)} (each : ∀ part ∈ parts, IsPart part)
    (spelling : Spelling) : underscore (spelling.write parts) = Spelling.snake.write parts := by
  unfold underscore Spelling.write
  rw [String.toList_ofList, underscoreFrom_chars each]
  cases parts with
  | nil => rfl
  | cons part parts =>
      obtain ⟨isPart, _⟩ := List.forall_mem_cons.mp each
      obtain ⟨char, rest, rfl, letter, _⟩ := isPart.exists_cons
      rw [Spelling.chars_cons]
      have noMark : ¬ ((char == '_') = true) := by
        intro same
        rw [eq_of_beq same] at letter
        revert letter
        decide
      exact congrArg String.ofList (List.dropWhile_cons_of_neg noMark)

end Underscore

section LowerCamel

variable {part : List Char} {parts : List (List Char)}

/-- The word at hand ends at a mark, and the next begins behind it. -/
theorem wordsFrom_marked {mark : Char} (divides : dividesWords mark = true) (isWord : IsWord part)
    (each : ∀ part ∈ parts, IsWord part) :
    wordsFrom part.reverse (parts.flatMap (List.cons mark)) = part :: parts := by
  induction parts generalizing part with
  | nil =>
      rw [List.flatMap_nil, wordsFrom, isEmpty_reverse_of_isWord isWord, List.reverse_reverse]
      rfl
  | cons next parts ih =>
      obtain ⟨nextIsWord, others⟩ := List.forall_mem_cons.mp each
      have read := wordsFrom_append (fun char member => (nextIsWord.2 char member).2) []
        (parts.flatMap (List.cons mark))
      rw [List.append_nil, ih nextIsWord others] at read
      change wordsFrom part.reverse (mark :: (next ++ parts.flatMap (List.cons mark))) = _
      rw [wordsFrom, if_pos divides, isEmpty_reverse_of_isWord isWord, read, List.reverse_reverse]
      rfl

theorem words_marked {mark : Char} (divides : dividesWords mark = true) (isWord : IsWord part)
    (each : ∀ part ∈ parts, IsWord part) :
    words (part ++ parts.flatMap (List.cons mark)) = part :: parts := by
  have read := wordsFrom_append (fun char member => (isWord.2 char member).2) []
    (parts.flatMap (List.cons mark))
  rw [List.append_nil, wordsFrom_marked divides isWord each] at read
  exact read

theorem withFirst_upper (isWord : IsWord part) : withFirst upper part = capitalized part := by
  cases part with
  | nil => rfl
  | cons char rest =>
      rw [withFirst, upper_of_ascii (isWord.2 char List.mem_cons_self).1]
      rfl

/-- A first word in lower case is itself, with or without a capital. -/
theorem withFirst_lower_first (isPart : IsPart part) (spelling : Spelling) (more : List Char) :
    withFirst lower (spelling.first part ++ more) = part ++ more := by
  have isWord := isPart.isWord
  obtain ⟨char, rest, rfl, letter, _⟩ := isPart.exists_cons
  have held := isWord.2 char List.mem_cons_self
  have plain : withFirst lower (char :: (rest ++ more)) = char :: (rest ++ more) := by
    rw [withFirst, lower_of_ascii held.1,
      toLower_of_isSettled (isSettled_of_isSmall (.inl letter)).1]
    rfl
  cases spelling with
  | upperCamel =>
      change withFirst lower (char.toUpper :: (rest ++ more)) = _
      rw [withFirst, lower_of_ascii (joins_cased held).2.1, (toUpper_of_isLower letter).2]
      rfl
  | _ => exact plain

theorem isWord_capitalized (isPart : IsPart part) : IsWord (capitalized part) := by
  have isWord := isPart.isWord
  rw [← withFirst_upper isWord]
  exact isWord_withFirst (fun _ => upper_of_ascii) (fun _ held => (joins_cased held).2) isWord

/-- A spelling without marks is one word. -/
theorem isWord_unmarked {spelling : Spelling} (unmarked : spelling.behind = capitalized)
    (isPart : IsPart part) (each : ∀ part ∈ parts, IsPart part) :
    IsWord (spelling.chars (part :: parts)) := by
  have first : IsWord (spelling.first part) := by
    cases spelling with
    | upperCamel => exact isWord_capitalized isPart
    | _ => exact isPart.isWord
  rw [Spelling.chars_cons, unmarked]
  refine ⟨fun none => first.1 (List.append_eq_nil_iff.mp none).1,
    List.forall_mem_append.mpr ⟨first.2, fun char member => ?_⟩⟩
  obtain ⟨next, listed, inside⟩ := List.mem_flatMap.mp member
  exact (isWord_capitalized (each next listed)).2 char inside

theorem lowerCamel_marked {mark : Char} (divides : dividesWords mark = true) (isPart : IsPart part)
    (each : ∀ part ∈ parts, IsPart part) :
    lowerCamel (String.ofList (part ++ parts.flatMap (List.cons mark))) =
      Spelling.lowerCamel.write (part :: parts) := by
  unfold lowerCamel
  rw [String.toList_ofList, words_marked divides isPart.isWord fun part member => (each part member).isWord]
  dsimp only
  have capitals : parts.flatMap (withFirst upper) = parts.flatMap capitalized :=
    List.flatMap_congr fun part member => withFirst_upper (each part member).isWord
  have first := withFirst_lower_first isPart .snake []
  rw [List.append_nil, List.append_nil] at first
  rw [capitals]
  exact congrArg (fun word => String.ofList (word ++ parts.flatMap capitalized)) first

theorem lowerCamel_unmarked {spelling : Spelling} (unmarked : spelling.behind = capitalized)
    (isPart : IsPart part) (each : ∀ part ∈ parts, IsPart part) :
    lowerCamel (spelling.write (part :: parts)) = Spelling.lowerCamel.write (part :: parts) := by
  unfold lowerCamel Spelling.write
  rw [String.toList_ofList, words_of_isWord (isWord_unmarked unmarked isPart each)]
  dsimp only
  rw [List.flatMap_nil, List.append_nil, Spelling.chars_cons, unmarked,
    withFirst_lower_first isPart]
  rfl

/-- All spellings of a name have the image that the one with capitals behind the first word is. -/
theorem lowerCamel_write (each : ∀ part ∈ parts, IsPart part) (spelling : Spelling) :
    lowerCamel (spelling.write parts) = Spelling.lowerCamel.write parts := by
  cases parts with
  | nil => cases spelling <;> rfl
  | cons part parts =>
      obtain ⟨isPart, others⟩ := List.forall_mem_cons.mp each
      cases spelling with
      | snake =>
          unfold Spelling.write
          rw [Spelling.chars_cons]
          exact lowerCamel_marked (by decide) isPart others
      | kebab =>
          unfold Spelling.write
          rw [Spelling.chars_cons]
          exact lowerCamel_marked (by decide) isPart others
      | lowerCamel => exact lowerCamel_unmarked rfl isPart others
      | upperCamel => exact lowerCamel_unmarked rfl isPart others

end LowerCamel

section Formats

theorem normalName_eq (name : String) :
    Format.normalName name = if underscore name = "datetime" then "date_time" else underscore name := by
  unfold Format.normalName
  split
  · rename_i same
    rw [if_pos same]
  · rename_i other
    rw [if_neg other]

/-- The name that one format goes by instead of another is its own image. -/
theorem normalName_normalName {name : String} (ascii : IsAscii name) :
    Format.normalName (Format.normalName name) = Format.normalName name := by
  have replacement : Format.normalName "date_time" = "date_time" := by decide +kernel
  rw [normalName_eq name]
  split
  · exact replacement
  · rename_i other
    rw [normalName_eq, underscore_underscore ascii, if_neg other]

end Formats

/-- The conventions and the normal form of formats leave the images of ASCII names as they are. All spellings of
a name whose words are a small letter with more small letters or digits behind it have one image under each
convention: the spelling with underscores, and the one with capitals behind the first word. -/
theorem normal_forms :
    (∀ name, IsAscii name →
      underscore (underscore name) = underscore name ∧ lowerCamel (lowerCamel name) = lowerCamel name ∧
        Format.normalName (Format.normalName name) = Format.normalName name) ∧
    ∀ parts : List (List Char), (∀ part ∈ parts, IsPart part) → ∀ spelling : Spelling,
      underscore (spelling.write parts) = Spelling.snake.write parts ∧
        lowerCamel (spelling.write parts) = Spelling.lowerCamel.write parts :=
  ⟨fun _ ascii => ⟨underscore_underscore ascii, lowerCamel_lowerCamel ascii, normalName_normalName ascii⟩,
    fun _ each spelling => ⟨underscore_write each spelling, lowerCamel_write each spelling⟩⟩

/-- A name with capitals, a mark in front and a digit at the end, and a name whose first word ends in a digit. -/
theorem normal_forms_ipv4Address :
    IsAscii "_HTTPServer-2" ∧ underscore "_HTTPServer-2" = "http_server_2" ∧
    underscore "http_server_2" = "http_server_2" ∧
    (∀ part ∈ ["ipv4".toList, "address".toList], IsPart part) ∧
    Spelling.upperCamel.write ["ipv4".toList, "address".toList] = "Ipv4Address" ∧
    underscore "Ipv4Address" = "ipv4_address" ∧ lowerCamel "Ipv4Address" = "ipv4Address" := by
  have ascii : IsAscii "_HTTPServer-2" := by decide
  have image : underscore "_HTTPServer-2" = "http_server_2" := by decide +kernel
  have each : ∀ part ∈ ["ipv4".toList, "address".toList], IsPart part := by decide
  have again := (normal_forms.1 _ ascii).1
  have spelled := normal_forms.2 _ each .upperCamel
  rw [image] at again
  exact ⟨ascii, image, again, each, by decide, spelled⟩

end Conformance.Text
