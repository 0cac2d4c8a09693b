import Conformance.Json.Printer
import Conformance.Json.Reader
import Mathlib.Tactic.SplitIfs
/-!
Texts of tokens. A string between quotes is read back, whatever characters it holds, and so is every integer
of sixty-four bits, whatever text follows that does not go on with the number. A text spells tokens if they
are read from it in front of every such text, after which reading goes on there (`Spells`); spellings are put
together from those of their parts.
-/

namespace Conformance.Json

section Strings

/-- A control character is one of the first 32, for which the digits of its escape are known. -/
theorem hexUnit?_of_control {point : Nat} (control : point < 32) :
    hexUnit? '0' '0' (hexDigit (point / 16)) (hexDigit (point % 16)) = some point := by
  revert point
  decide +kernel

theorem readString?_visible {char : Char} (unquoted : char ≠ '"') (noBackslash : char ≠ '\\')
    (visible : 32 ≤ char.toNat) (text : List Char) :
    readString? (char :: text) = readThen char (readString? text) := by
  rw [readString?, if_neg (Nat.not_lt.mpr visible)]
  · exact unquoted
  · exact fun _ _ _ _ _ same _ => noBackslash same
  · exact fun _ _ same _ => noBackslash same

/-- A code that stands for itself, and is no half of a pair. -/
theorem readString?_control {char : Char} (control : char.toNat < 32) (text : List Char) :
    readString? ('\\' :: 'u' :: '0' :: '0' :: hexDigit (char.toNat / 16) :: hexDigit (char.toNat % 16) ::
      text) = readThen char (readString? text) := by
  have low : isLowSurrogate char.toNat = false := decide_eq_false (by omega)
  have high : isHighSurrogate char.toNat = false := decide_eq_false (by omega)
  rw [readString?, hexUnit?_of_control control]
  dsimp only
  rw [low, high, Char.ofNat_toNat]
  rfl

/-- Reading goes on behind the escape of a character, and the character stands in front of what is read. -/
theorem readString?_escape (char : Char) (text : List Char) :
    readString? (escape char ++ text) = readThen char (readString? text) := by
  unfold escape
  split_ifs with quoted backslash visible backspace formFeed lineFeed carriageReturn tab
  · subst quoted
    rfl
  · subst backslash
    rfl
  · exact readString?_visible quoted backslash visible text
  · subst backspace
    rfl
  · subst formFeed
    rfl
  · subst lineFeed
    rfl
  · subst carriageReturn
    rfl
  · subst tab
    rfl
  · exact readString?_control (Nat.not_le.mp visible) text

theorem readString?_flatMap (chars rest : List Char) :
    readString? (chars.flatMap escape ++ '"' :: rest) = some (chars, rest) := by
  induction chars with
  | nil => rfl
  | cons char chars ih =>
      rw [List.flatMap_cons, List.append_assoc, readString?_escape, ih]
      rfl

end Strings

section Numbers

/-- Whether a text does not go on with a number that stands in front of it. -/
def Ends (text : List Char) : Prop :=
  ∀ char ∈ text.head?, char.isDigit = false ∧ char ≠ '.' ∧ char ≠ 'e' ∧ char ≠ 'E'

theorem ends_nil : Ends [] := fun _ same => nomatch same

theorem ends_cons {char : Char} (stops : char.isDigit = false ∧ char ≠ '.' ∧ char ≠ 'e' ∧ char ≠ 'E')
    (text : List Char) : Ends (char :: text) :=
  fun _ same => Option.some.inj same ▸ stops

variable {rest : List Char}

theorem takeDigits_append {digits : List Char} (each : ∀ char ∈ digits, char.isDigit = true)
    (ends : Ends rest) : takeDigits (digits ++ rest) = (digits, rest) := by
  have none : rest.takeWhile Char.isDigit = [] ∧ rest.dropWhile Char.isDigit = rest := by
    cases rest with
    | nil => exact ⟨rfl, rfl⟩
    | cons char rest =>
        have noDigit := ne_true_of_eq_false (ends char rfl).1
        exact ⟨List.takeWhile_cons_of_neg noDigit, List.dropWhile_cons_of_neg noDigit⟩
  unfold takeDigits
  rw [List.takeWhile_append_of_pos each, List.dropWhile_append_of_pos each, none.1, none.2, List.append_nil]

theorem digitsValue_eq (digits : List Char) : digitsValue digits = Nat.ofDigitChars 10 digits 0 := by
  unfold digitsValue
  rw [Nat.ofDigitChars_eq_foldl]
  exact congrArg (List.foldl · 0 digits) (funext fun total => funext fun digit => by rw [Nat.mul_comm]; rfl)

theorem digitsValue_toDigits (size : Nat) : digitsValue (Nat.toDigits 10 size) = size := by
  rw [digitsValue_eq]
  exact Nat.ofDigitChars_ten_toDigits

/-- The digits of a number do not begin with a zero; those in front of the last are those of its tenth. -/
theorem head?_toDigits {size : Nat} (positive : 0 < size) : (Nat.toDigits 10 size).head? ≠ some '0' := by
  induction size using Nat.strongRecOn with
  | ind size ih =>
      rw [Nat.toDigits_eq_if (by decide)]
      split
      · rename_i small
        have each : ∀ digit < 10, 0 < digit → [Nat.digitChar digit].head? ≠ some '0' := by decide
        exact each size small positive
      · rename_i great
        have tenth : 0 < size / 10 := by omega
        rw [List.head?_append, Option.or_of_isSome (List.isSome_head?.mpr Nat.toDigits_ne_nil)]
        exact ih (size / 10) (by omega) tenth

theorem readWhole?_toDigits (size : Nat) (ends : Ends rest) :
    readWhole? (Nat.toDigits 10 size ++ rest) = some (Nat.toDigits 10 size, rest) := by
  have each : ∀ char ∈ Nat.toDigits 10 size, char.isDigit = true :=
    fun _ => Nat.isDigit_of_mem_toDigits (by decide) (by decide)
  unfold readWhole?
  rw [takeDigits_append each ends]
  dsimp only
  split
  · rename_i empty
    exact absurd empty Nat.toDigits_ne_nil
  · rename_i second others leading
    cases size with
    | zero => cases leading
    | succ size => exact absurd (congrArg List.head? leading) (head?_toDigits (Nat.succ_pos size))
  · rfl

theorem readFraction?_of_ends (ends : Ends rest) : readFraction? rest = some (none, rest) := by
  unfold readFraction?
  split
  · exact absurd rfl (ends '.' rfl).2.1
  · rfl

theorem readExponent?_of_ends (ends : Ends rest) : readExponent? rest = some (none, rest) := by
  cases rest with
  | nil => rfl
  | cons char rest =>
      obtain ⟨_, _, small, capital⟩ := ends char rfl
      unfold readExponent?
      dsimp only
      rw [if_neg (not_or.mpr ⟨small, capital⟩)]

theorem ofWhole_toInt (value : Int64) : Number.ofWhole value.toInt = .int value := by
  unfold Number.ofWhole
  rw [if_pos ⟨value.minValue_le_toInt, value.toInt_le⟩, Int64.ofInt_toInt]

/-- Reads a number behind its sign. -/
def readUnsigned? (negative : Bool) (text : List Char) : Option (Numeral × List Char) := do
  let (whole, text) ← readWhole? text
  let (fraction, text) ← readFraction? text
  let (exponent, text) ← readExponent? text
  let numeral := numeralOf negative whole fraction exponent
  if isInfiniteNumber numeral.number then none else pure (numeral, text)

theorem readNumber?_minus (text : List Char) : readNumber? ('-' :: text) = readUnsigned? true text := rfl

theorem readNumber?_of_ne {char : Char} (noSign : char ≠ '-') (text : List Char) :
    readNumber? (char :: text) = readUnsigned? false (char :: text) := by
  unfold readNumber?
  split
  rename_i negative text matched
  split at matched
  · rename_i same
    exact absurd (List.cons.inj same).1 noSign
  · cases matched
    rfl

theorem readUnsigned?_toDigits (negative : Bool) {size : Nat} {value : Int64}
    (spelled : numeralOf negative (Nat.toDigits 10 size) none none = .whole value.toInt) (ends : Ends rest) :
    readUnsigned? negative (Nat.toDigits 10 size ++ rest) = some (.whole value.toInt, rest) := by
  unfold readUnsigned?
  rw [readWhole?_toDigits size ends, Option.bind_eq_bind, Option.bind_some]
  dsimp only
  rw [readFraction?_of_ends ends, Option.bind_eq_bind, Option.bind_some]
  dsimp only
  rw [readExponent?_of_ends ends, Option.bind_eq_bind, Option.bind_some]
  dsimp only
  rw [spelled, Numeral.number, ofWhole_toInt]
  rfl

theorem exists_cons_toDigits (size : Nat) :
    ∃ first others, Nat.toDigits 10 size = first :: others ∧ first.isDigit = true := by
  obtain ⟨first, others, digits⟩ := List.exists_cons_of_ne_nil (@Nat.toDigits_ne_nil size 10)
  refine ⟨first, others, digits, @Nat.isDigit_of_mem_toDigits 10 size first (by decide) (by decide) ?_⟩
  rw [digits]
  exact List.mem_cons_self

theorem writeNumber_int (value : Int64) :
    (∃ size, value.toInt = .ofNat size ∧ writeNumber (.int value) = Nat.toDigits 10 size) ∨
      ∃ size, value.toInt = .negSucc size ∧ writeNumber (.int value) = '-' :: Nat.toDigits 10 (size + 1) := by
  change (∃ size, _ ∧ (toString value.toInt).toList = _) ∨ ∃ size, _ ∧ (toString value.toInt).toList = _
  cases value.toInt with
  | ofNat size =>
      refine .inl ⟨size, rfl, ?_⟩
      change (Nat.repr size).toList = _
      rw [Nat.repr_eq_ofList_toDigits, String.toList_ofList]
  | negSucc size =>
      refine .inr ⟨size, rfl, ?_⟩
      change ("-" ++ Nat.repr (size + 1)).toList = _
      rw [Nat.repr_eq_ofList_toDigits, String.toList_append, String.toList_ofList, String.toList_ofList]
      rfl

/-- An integer is read back, as long as what follows does not go on with it. -/
theorem readNumber?_writeNumber (value : Int64) (ends : Ends rest) :
    readNumber? (writeNumber (.int value) ++ rest) = some (.whole value.toInt, rest) := by
  rcases writeNumber_int value with ⟨size, whole, written⟩ | ⟨size, whole, written⟩
  · have spelled : numeralOf false (Nat.toDigits 10 size) none none = .whole value.toInt := by
      rw [whole, numeralOf, digitsValue_toDigits]
      rfl
    obtain ⟨first, others, digits, isDigit⟩ := exists_cons_toDigits size
    have noSign : first ≠ '-' := by
      rintro rfl
      exact absurd isDigit (by decide)
    rw [written, ← readUnsigned?_toDigits false spelled ends, digits]
    exact readNumber?_of_ne noSign _
  · have spelled : numeralOf true (Nat.toDigits 10 (size + 1)) none none = .whole value.toInt := by
      rw [whole, numeralOf, digitsValue_toDigits]
      rfl
    rw [written]
    exact readUnsigned?_toDigits true spelled ends

end Numbers

section Spellings

/-- Whether tokens are read from a text, one after the other, and nothing but blanks is left. -/
inductive Scans : List Char → List Token → Prop where
  | done {text : List Char} (blank : skipBlanks text = []) : Scans text []
  | token {text rest : List Char} {token : Token} {tokens : List Token}
      (read : Token.next? text = some (token, rest)) (shorter : rest.length < text.length)
      (others : Scans rest tokens) : Scans text (token :: tokens)

/-- A text has as many characters as tokens at least, so the bound is not reached. -/
theorem Scans.leadingWithin {text : List Char} {tokens : List Token} (scans : Scans text tokens) {bound : Nat}
    (enough : text.length < bound) : Token.leadingWithin bound text = (tokens, true) := by
  induction scans generalizing bound with
  | done blank =>
      obtain ⟨bound, rfl⟩ := Nat.exists_eq_add_one.mpr (Nat.zero_lt_of_lt enough)
      rw [Token.leadingWithin, blank]
      rfl
  | @token text rest token tokens read shorter others ih =>
      obtain ⟨bound, rfl⟩ := Nat.exists_eq_add_one.mpr (Nat.zero_lt_of_lt enough)
      have some : (skipBlanks text).isEmpty = false := by
        refine eq_false_of_ne_true fun blank => ?_
        unfold Token.next? at read
        rw [List.isEmpty_iff.mp blank] at read
        cases read
      rw [Token.leadingWithin, some, read]
      dsimp only
      rw [ih (by omega)]
      rfl

theorem scan?_of_scans {text : List Char} {tokens : List Token} (scans : Scans text tokens) :
    Token.scan? text = some tokens := by
  unfold Token.scan? Token.leading
  rw [scans.leadingWithin (Nat.lt_succ_self _)]

/-- Whether a text spells tokens, whatever follows that does not go on with its last number. -/
def Spells (tokens : List Token) (text : List Char) : Prop :=
  ∀ ⦃more : List Token⦄ ⦃rest : List Char⦄, Ends rest → Scans rest more →
    Scans (text ++ rest) (tokens ++ more)

theorem Spells.scan? {tokens : List Token} {text : List Char} (spells : Spells tokens text) :
    Token.scan? text = some tokens := by
  have whole : Scans (text ++ []) (tokens ++ []) := spells ends_nil (.done rfl)
  rw [List.append_nil, List.append_nil] at whole
  exact scan?_of_scans whole

theorem Ends.append {front back : List Char} (first : Ends front) (second : Ends back) :
    Ends (front ++ back) := by
  cases front with
  | nil => exact second
  | cons char front => exact first

variable {front back tokens : List Token} {text other : List Char}

theorem spells_nil : Spells [] [] := fun _ _ _ scans => scans

theorem Spells.append (first : Spells front text) (second : Spells back other) (ends : Ends other) :
    Spells (front ++ back) (text ++ other) := by
  intro more rest follows scans
  rw [List.append_assoc, List.append_assoc]
  exact first (ends.append follows) (second follows scans)

/-- Blanks in front of a spelling of tokens change nothing. -/
theorem Scans.blank {char : Char} (blank : isBlank char = true) (scans : Scans text tokens) :
    Scans (char :: text) tokens := by
  have skip : skipBlanks (char :: text) = skipBlanks text := List.dropWhile_cons_of_pos blank
  cases scans with
  | done empty => exact .done (skip.trans empty)
  | token read shorter others =>
      refine .token ?_ (Nat.lt_succ_of_lt shorter) others
      unfold Token.next? at read ⊢
      rw [skip]
      exact read

theorem Spells.blanks (spells : Spells tokens text) {blanks : List Char}
    (each : ∀ char ∈ blanks, isBlank char = true) : Spells tokens (blanks ++ text) := by
  intro more rest follows scans
  induction blanks with
  | nil => exact spells follows scans
  | cons char blanks ih =>
      obtain ⟨blank, others⟩ := List.forall_mem_cons.mp each
      exact .blank blank (ih others)

theorem spells_quote (text : String) : Spells [.string text] (quote text) := by
  intro more rest _ scans
  refine .token ?_ ?_ scans
  · change Option.map _ (readString? (text.toList.flatMap escape ++ ['"'] ++ rest)) = _
    rw [List.append_assoc, List.singleton_append, readString?_flatMap, Option.map_some]
    dsimp only
    rw [String.ofList_toList]
  · unfold quote
    simp only [List.cons_append, List.length_cons, List.length_append]
    omega

/-- A minus sign or a digit begins a number. -/
theorem next?_of_numeric {char : Char} (numeric : char = '-' ∨ char.isDigit = true) (text : List Char) :
    Token.next? (char :: text) =
      (readNumber? (char :: text)).map fun (read, rest) => (.number read, rest) := by
  have apart : ∀ other ∈ "[]\x7b\x7d,:ntf\" \n\t\r".toList, char ≠ other := by
    have each : "[]\x7b\x7d,:ntf\" \n\t\r".toList.all
        (fun other => other != '-' && !other.isDigit) = true := by decide
    rintro other member rfl
    have neither := List.all_eq_true.mp each char member
    rcases numeric with rfl | isDigit
    · cases neither
    · rw [isDigit, Bool.not_true, Bool.and_false] at neither
      cases neither
  have noBlank : isBlank char = false := by
    simp only [isBlank, Bool.or_eq_false_iff, beq_eq_false_iff_ne]
    exact ⟨⟨⟨apart _ (by decide), apart _ (by decide)⟩, apart _ (by decide)⟩, apart _ (by decide)⟩
  have skip : skipBlanks (char :: text) = char :: text :=
    List.dropWhile_cons_of_neg (ne_true_of_eq_false noBlank)
  unfold Token.next?
  rw [skip]
  split
  case h_11 => rfl
  all_goals
    rename_i same
    exact absurd (List.cons.inj same).1 (apart _ (by decide))

theorem spells_writeNumber (value : Int64) :
    Spells [.number (.whole value.toInt)] (writeNumber (.int value)) := by
  intro more rest follows scans
  have numeric : ∃ first others, writeNumber (.int value) = first :: others ∧
      (first = '-' ∨ first.isDigit = true) := by
    rcases writeNumber_int value with ⟨size, _, written⟩ | ⟨size, _, written⟩
    · obtain ⟨first, others, digits, isDigit⟩ := exists_cons_toDigits size
      exact ⟨first, others, written.trans digits, .inr isDigit⟩
    · exact ⟨_, _, written, .inl rfl⟩
  have read := readNumber?_writeNumber value follows
  obtain ⟨first, others, written, numeric⟩ := numeric
  rw [written] at read ⊢
  refine .token ?_ ?_ scans
  · rw [List.cons_append, next?_of_numeric numeric]
    rw [List.cons_append] at read
    rw [read, Option.map_some]
  · simp only [List.cons_append, List.length_cons, List.length_append]
    omega

/-- A token of one character or of one word. What follows goes on with no number. -/
theorem Scans.word {word rest : List Char} {token : Token} (filled : word ≠ [])
    (read : ∀ rest, Token.next? (word ++ rest) = some (token, rest)) (scans : Scans rest tokens) :
    Scans (word ++ rest) (token :: tokens) := by
  refine .token (read rest) ?_ scans
  have positive := List.length_pos_iff.mpr filled
  rw [List.length_append]
  omega

theorem spells_word {word : List Char} {token : Token} (filled : word ≠ [])
    (read : ∀ rest, Token.next? (word ++ rest) = some (token, rest)) : Spells [token] word :=
  fun _ _ _ scans => scans.word filled read

theorem Spells.mark (spells : Spells tokens text) {char : Char} {token : Token}
    (read : ∀ rest, Token.next? (char :: rest) = some (token, rest)) :
    Spells (token :: tokens) (char :: text) := by
  intro more rest follows scans
  change Scans ([char] ++ (text ++ rest)) (token :: (tokens ++ more))
  exact (spells follows scans).word (List.cons_ne_nil char []) read

theorem ends_blanks {blanks : List Char} (each : ∀ char ∈ blanks, isBlank char = true) : Ends blanks := by
  intro char same
  have blank := each char (List.mem_of_mem_head? same)
  simp only [isBlank, Bool.or_eq_true, beq_iff_eq] at blank
  rcases blank with ((rfl | rfl) | rfl) | rfl <;> decide

end Spellings

end Conformance.Json
