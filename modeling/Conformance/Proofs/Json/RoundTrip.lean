import Conformance.Proofs.Json.Lexing
import Conformance.Proofs.Parallel
import Conformance.Proofs.Value.Parts
/-!
JSON text of values. Both layouts of a value spell the same tokens, whose reading builds the value again, on
whatever stack of unfinished containers there is room for it. So a value without doubles and byte sequences
is read back from either of its texts, unless it nests too deep (`Value.ofJson?_written`).
-/

namespace Conformance

open Json

namespace Json

/-- Tokens with commas between them. -/
def commas : List (List Token) → List Token
  | [] => []
  | [tokens] => tokens
  | tokens :: others => tokens ++ .comma :: commas others

theorem commas_cons (tokens : List Token) (others : List (List Token)) :
    commas (tokens :: others) = tokens ++ (if others.isEmpty then [] else .comma :: commas others) := by
  cases others with
  | nil => exact (List.append_nil tokens).symm
  | cons => rfl

end Json

namespace Value

mutual

/-- The tokens of a value. -/
def tokens : Value → List Token
  | .null => [.null]
  | .bool value => [.bool value]
  | .number (.int value) => [.number (.whole value.toInt)]
  | .number (.float value) => [.number (.decimal value)]
  | .string text => [.string text]
  | .bytes octets =>
    .openArray :: (commas (octets.data.toList.map fun octet => [.number (.whole octet.toNat)]) ++
      [.closeArray])
  | .array items => .openArray :: (commas (tokensOfItems items) ++ [.closeArray])
  | .object entries => .openObject :: (commas (tokensOfEntries entries) ++ [.closeObject])
termination_by structural value => value

def tokensOfItems : List Value → List (List Token)
  | [] => []
  | item :: items => tokens item :: tokensOfItems items
termination_by structural items => items

def tokensOfEntries : List (String × Value) → List (List Token)
  | [] => []
  | (key, value) :: entries => (.string key :: .colon :: tokens value) :: tokensOfEntries entries
termination_by structural entries => entries

end

mutual

/-- How deep arrays and objects nest in a value. -/
def depth : Value → Nat
  | .array items => depthOfItems items + 1
  | .object entries => depthOfEntries entries + 1
  | _ => 0
termination_by structural value => value

def depthOfItems : List Value → Nat
  | [] => 0
  | item :: items => max (depth item) (depthOfItems items)
termination_by structural items => items

def depthOfEntries : List (String × Value) → Nat
  | [] => 0
  | (_, value) :: entries => max (depth value) (depthOfEntries entries)
termination_by structural entries => entries

end

/-- Whether a value holds no doubles and no byte sequences. -/
def isExact (value : Value) : Bool :=
  value.everywhere fun part => part.kind != .float && part.kind != .bytes

theorem isExact_iff (value : Value) : value.isExact = true ↔
    (value.kind ≠ .float ∧ value.kind ≠ .bytes) ∧ (∀ item ∈ value.items, item.isExact = true) ∧
      ∀ field ∈ value.fields, field.2.isExact = true := by
  unfold isExact
  rw [everywhere_iff, Bool.and_eq_true, bne_iff_ne, bne_iff_ne]

section Layouts

theorem spells_separated {separator : List Char} (blanks : ∀ char ∈ separator, isBlank char = true)
    {parts : List (List Token)} {texts : List (List Char)} (each : List.Forall₂ Spells parts texts) :
    Spells (commas parts) (separated (',' :: separator) texts) := by
  induction each with
  | nil => exact spells_nil
  | @cons part text parts texts first others ih =>
      cases others with
      | nil => exact first
      | cons second others =>
          have rest : Spells (.comma :: commas (_ :: _)) (',' :: (separator ++ separated _ (_ :: _))) :=
            (ih.blanks blanks).mark fun _ => rfl
          have both := first.append rest (ends_cons (by decide) _)
          rw [separated, List.append_assoc]
          · exact both
          · exact List.cons_ne_nil _ _

/-- Parts with commas between them, between brackets. Blanks may stand beside each bracket and comma. -/
theorem spells_enclosed {parts : List (List Token)} {texts : List (List Char)}
    (each : List.Forall₂ Spells parts texts) {opening closing : Char} {first last : Token}
    (opens : ∀ rest, Token.next? (opening :: rest) = some (first, rest))
    (closes : ∀ rest, Token.next? (closing :: rest) = some (last, rest)) (stops : Ends [closing])
    {front separator back : List Char} (blanks : ∀ char ∈ front ++ separator ++ back, isBlank char = true) :
    Spells (first :: (commas parts ++ [last]))
      (opening :: (front ++ (separated (',' :: separator) texts ++ (back ++ [closing])))) := by
  obtain ⟨others, behind⟩ := List.forall_mem_append.mp blanks
  obtain ⟨before, between⟩ := List.forall_mem_append.mp others
  have close : Spells [last] (back ++ [closing]) := (spells_nil.mark closes).blanks behind
  have inside := (spells_separated between each).append close ((ends_blanks behind).append stops)
  exact (inside.blanks before).mark opens

theorem spells_joined {parts : List (List Token)} {texts : List (List Char)}
    (each : List.Forall₂ Spells parts texts) {opening closing : Char} {first last : Token}
    (opens : ∀ rest, Token.next? (opening :: rest) = some (first, rest))
    (closes : ∀ rest, Token.next? (closing :: rest) = some (last, rest)) (stops : Ends [closing]) :
    Spells (first :: (commas parts ++ [last])) (opening :: (separated [','] texts ++ [closing])) :=
  @spells_enclosed _ _ each _ _ _ _ opens closes stops [] [] [] (List.forall_mem_nil _)

theorem isBlank_newline (depth : Nat) : ∀ char ∈ newline depth, isBlank char = true := by
  unfold newline
  refine List.forall_mem_cons.mpr ⟨rfl, fun char member => ?_⟩
  rw [List.eq_of_mem_replicate member]
  rfl

theorem spells_bracketed {parts : List (List Token)} {texts : List (List Char)}
    (each : List.Forall₂ Spells parts texts) {opening closing : Char} {first last : Token}
    (opens : ∀ rest, Token.next? (opening :: rest) = some (first, rest))
    (closes : ∀ rest, Token.next? (closing :: rest) = some (last, rest)) (stops : Ends [closing])
    (depth : Nat) : Spells (first :: (commas parts ++ [last])) (bracketed opening closing depth texts) := by
  unfold bracketed
  split
  · rename_i empty
    obtain rfl := List.isEmpty_iff.mp empty
    cases each
    exact spells_joined .nil opens closes stops
  · rw [List.append_assoc, List.append_assoc]
    refine spells_enclosed each opens closes stops (List.forall_mem_append.mpr ⟨?_, isBlank_newline depth⟩)
    exact List.forall_mem_append.mpr ⟨isBlank_newline (depth + 1), isBlank_newline (depth + 1)⟩

theorem tokensOfItems_eq_map (items : List Value) : tokensOfItems items = items.map tokens := by
  induction items with
  | nil => rfl
  | cons item items ih => rw [tokensOfItems, ih, List.map_cons]

theorem tokensOfEntries_eq_map (entries : List (String × Value)) :
    tokensOfEntries entries = entries.map fun entry => .string entry.1 :: .colon :: entry.2.tokens := by
  induction entries with
  | nil => rfl
  | cons entry entries ih => rw [tokensOfEntries, ih, List.map_cons]

theorem compactItems_eq_map (items : List Value) : compactItems items = items.map compact := by
  induction items with
  | nil => rfl
  | cons item items ih => rw [compactItems, ih, List.map_cons]

theorem compactEntries_eq_map (entries : List (String × Value)) :
    compactEntries entries = entries.map fun entry => quote entry.1 ++ ':' :: entry.2.compact := by
  induction entries with
  | nil => rfl
  | cons entry entries ih => rw [compactEntries, ih, List.map_cons]

theorem indentedItems_eq_map (depth : Nat) (items : List Value) :
    indentedItems depth items = items.map (indented depth) := by
  induction items with
  | nil => rfl
  | cons item items ih => rw [indentedItems, ih, List.map_cons]

theorem indentedEntries_eq_map (depth : Nat) (entries : List (String × Value)) :
    indentedEntries depth entries =
      entries.map fun entry => quote entry.1 ++ ':' :: ' ' :: entry.2.indented depth := by
  induction entries with
  | nil => rfl
  | cons entry entries ih => rw [indentedEntries, ih, List.map_cons]

theorem forall₂_map {α β γ : Type} {related : β → γ → Prop} {f : α → β} {g : α → γ} {list : List α}
    (each : ∀ item ∈ list, related (f item) (g item)) : List.Forall₂ related (list.map f) (list.map g) :=
  List.forall₂_map_left_iff.mpr (List.forall₂_map_right_iff.mpr (List.forall₂_same.mpr each))

/-- The compact layout spells the tokens of a value. -/
theorem spells_compact {value : Value} (exactly : value.isExact = true) :
    Spells value.tokens value.compact := by
  induction value using nested_induction with
  | step value items fields =>
      obtain ⟨⟨noFloat, noBytes⟩, exactItems, exactFields⟩ := (isExact_iff value).mp exactly
      cases value with
      | null => exact spells_word (by decide) fun _ => rfl
      | bool value => cases value <;> exact spells_word (by decide) fun _ => rfl
      | number number =>
          cases number with
          | int value => exact spells_writeNumber value
          | float value => exact absurd rfl noFloat
      | string text => exact spells_quote text
      | bytes octets => exact absurd rfl noBytes
      | array list =>
          rw [tokens, compact, tokensOfItems_eq_map, compactItems_eq_map]
          have each := forall₂_map fun item member => items item member (exactItems item member)
          exact spells_joined each (fun _ => rfl) (fun _ => rfl) (ends_cons (by decide) [])
      | object entries =>
          rw [tokens, compact, tokensOfEntries_eq_map, compactEntries_eq_map]
          have each (entry : String × Value) (member : entry ∈ entries) :
              Spells ([.string entry.1] ++ .colon :: entry.2.tokens)
                (quote entry.1 ++ ':' :: entry.2.compact) :=
            (spells_quote entry.1).append ((fields entry member (exactFields entry member)).mark fun _ => rfl)
              (ends_cons (by decide) _)
          exact spells_joined (forall₂_map each) (fun _ => rfl) (fun _ => rfl) (ends_cons (by decide) [])

/-- So does the indented layout, at every depth. -/
theorem spells_indented {value : Value} (exactly : value.isExact = true) (depth : Nat) :
    Spells value.tokens (value.indented depth) := by
  induction value using nested_induction generalizing depth with
  | step value items fields =>
      obtain ⟨_, exactItems, exactFields⟩ := (isExact_iff value).mp exactly
      cases value with
      | array list =>
          rw [tokens, indented, tokensOfItems_eq_map, indentedItems_eq_map]
          have each := forall₂_map fun item member =>
            items item member (exactItems item member) (depth + 1)
          exact spells_bracketed each (fun _ => rfl) (fun _ => rfl) (ends_cons (by decide) []) depth
      | object entries =>
          rw [tokens, indented, tokensOfEntries_eq_map, indentedEntries_eq_map]
          have each (entry : String × Value) (member : entry ∈ entries) :
              Spells ([.string entry.1] ++ .colon :: entry.2.tokens)
                (quote entry.1 ++ ':' :: ([' '] ++ entry.2.indented (depth + 1))) :=
            (spells_quote entry.1).append
              (((fields entry member (exactFields entry member) (depth + 1)).blanks
                (List.forall_mem_singleton.mpr rfl)).mark fun _ => rfl) (ends_cons (by decide) _)
          exact spells_bracketed (forall₂_map each) (fun _ => rfl) (fun _ => rfl) (ends_cons (by decide) [])
            depth
      -- Any other value has one layout.
      | bytes octets => exact absurd rfl ((isExact_iff _).mp exactly).1.2
      | bool value => cases value <;> exact spells_compact exactly
      | _ => exact spells_compact exactly

end Layouts

section Reading

open State

/-- Whether the reader builds a value from its tokens, on a stack that leaves room for it, and refuses them
on any other. -/
def IsRead (value : Value) : Prop :=
  ∀ (stack : List Frame) (more : List Token), stack.length ≤ nestingLimit →
    (awaitValue stack).run? (value.tokens ++ more) =
      if stack.length + value.depth ≤ nestingLimit then (finished value stack).run? more else none

/-- No value begins with the end of an array, so the first item is read like any other. -/
theorem run?_arrayStart (value : Value) (stack : List Frame) (more : List Token) :
    (arrayStart stack).run? (value.tokens ++ more) =
      (awaitValue (.array [] :: stack)).run? (value.tokens ++ more) := by
  cases value with
  | number number => cases number <;> rfl
  | _ => rfl

/-- What is read with room for one part and then with room for the others needs room for all. -/
theorem ite_room {α : Type} (used front back : Nat) (result : Option α) :
    (if used + front ≤ nestingLimit then if used + back ≤ nestingLimit then result else none else none) =
      if used + max front back ≤ nestingLimit then result else none := by
  rw [← ite_and]
  exact if_congr (by omega) rfl rfl

/-- The items of an array, behind those that are read. The induction is on the items that are left. -/
theorem run?_items {item : Value} {items : List Value} (each : ∀ value ∈ item :: items, value.IsRead)
    (done : List Value) {stack : List Frame} (room : stack.length < nestingLimit) (more : List Token) :
    (awaitValue (.array done :: stack)).run?
        (commas (tokensOfItems (item :: items)) ++ .closeArray :: more) =
      if stack.length + 1 + depthOfItems (item :: items) ≤ nestingLimit then
        (finished (.array (done ++ item :: items)) stack).run? more
      else none := by
  induction items generalizing item done with
  | nil =>
      rw [depthOfItems, depthOfItems, Nat.max_zero]
      exact each item List.mem_cons_self (.array done :: stack) (.closeArray :: more) room
  | cons next items ih =>
      obtain ⟨first, others⟩ := List.forall_mem_cons.mp each
      have rest := ih others (done ++ [item])
      rw [List.append_assoc, List.singleton_append] at rest
      have tokens : commas (tokensOfItems (item :: next :: items)) ++ .closeArray :: more =
          item.tokens ++ .comma :: (commas (tokensOfItems (next :: items)) ++ .closeArray :: more) :=
        List.append_assoc _ _ _
      rw [tokens, first (.array done :: stack) _ room, depthOfItems, ← ite_room, ← rest]
      rfl

theorem new_of_nodup {key : String} {value : Value} {done entries : List (String × Value)}
    (distinct : (Table.names (done ++ (key, value) :: entries)).Nodup) : key ∉ Table.names done := by
  intro member
  rw [Table.names, List.map_append] at distinct
  exact (List.nodup_append.mp distinct).2.2 key member key List.mem_cons_self rfl

/-- The entries of an object, behind those that are read. Keys that are new go to the end. -/
theorem run?_entries {entry : String × Value} {entries : List (String × Value)}
    (each : ∀ field ∈ entry :: entries, field.2.IsRead) (done : List (String × Value))
    (distinct : (Table.names (done ++ entry :: entries)).Nodup) {stack : List Frame}
    (room : stack.length < nestingLimit) (more : List Token) :
    (awaitKey done stack).run? (commas (tokensOfEntries (entry :: entries)) ++ .closeObject :: more) =
      if stack.length + 1 + depthOfEntries (entry :: entries) ≤ nestingLimit then
        (finished (.object (done ++ entry :: entries)) stack).run? more
      else none := by
  induction entries generalizing entry done with
  | nil =>
      obtain ⟨key, value⟩ := entry
      rw [depthOfEntries, depthOfEntries, Nat.max_zero, ← Table.put_of_not_mem (new_of_nodup distinct)]
      exact each _ List.mem_cons_self (.object done key :: stack) (.closeObject :: more) room
  | cons next entries ih =>
      obtain ⟨key, value⟩ := entry
      obtain ⟨first, others⟩ := List.forall_mem_cons.mp each
      have rest := ih others (done ++ [(key, value)]) (by rwa [List.append_assoc])
      rw [List.append_assoc, List.singleton_append, ← Table.put_of_not_mem (new_of_nodup distinct)] at rest
      have tokens : commas (tokensOfEntries ((key, value) :: next :: entries)) ++ .closeObject :: more =
          .string key :: .colon :: (value.tokens ++
            .comma :: (commas (tokensOfEntries (next :: entries)) ++ .closeObject :: more)) :=
        List.append_assoc _ _ _
      have entry := first (.object done key :: stack)
        (.comma :: (commas (tokensOfEntries (next :: entries)) ++ .closeObject :: more)) room
      rw [tokens, depthOfEntries, ← ite_room, ← rest]
      exact entry

/-- What the reader makes of the tokens of a value. -/
theorem isRead {value : Value} (exactly : value.isExact = true) (keyed : value.isKeyed = true) :
    value.IsRead := by
  induction value using nested_induction with
  | step value items fields =>
      obtain ⟨⟨noFloat, noBytes⟩, exactItems, exactFields⟩ := (isExact_iff value).mp exactly
      obtain ⟨distinct, keyedItems, keyedFields⟩ := (isKeyed_iff value).mp keyed
      intro stack more fits
      have scalar : stack.length + 0 ≤ nestingLimit := fits
      cases value with
      | null => exact (if_pos scalar).symm
      | bool value => exact (if_pos scalar).symm
      | number number =>
          cases number with
          | int value =>
              refine Eq.trans ?_ (if_pos scalar).symm
              change (finished (.number (Number.ofWhole value.toInt)) stack).run? more = _
              rw [ofWhole_toInt]
          | float value => exact absurd rfl noFloat
      | string text => exact (if_pos scalar).symm
      | bytes octets => exact absurd rfl noBytes
      | array list =>
          change (if stack.length < nestingLimit then some (arrayStart stack) else none).bind
            (run? · (commas (tokensOfItems list) ++ [.closeArray] ++ more)) = _
          rw [List.append_assoc, List.singleton_append, depth]
          by_cases room : stack.length < nestingLimit
          · rw [if_pos room, Option.bind_some]
            cases list with
            | nil => exact (if_pos room).symm
            | cons item list =>
                have each (value : Value) (member : value ∈ item :: list) : value.IsRead :=
                  items value member (exactItems value member) (keyedItems value member)
                have start := run?_items each [] room more
                rw [tokensOfItems, commas_cons, List.append_assoc] at start ⊢
                rw [run?_arrayStart, start]
                exact if_congr (by omega) rfl rfl
          · rw [if_neg room, if_neg (by omega)]
            rfl
      | object entries =>
          change (if stack.length < nestingLimit then some (objectStart stack) else none).bind
            (run? · (commas (tokensOfEntries entries) ++ [.closeObject] ++ more)) = _
          rw [List.append_assoc, List.singleton_append, depth]
          by_cases room : stack.length < nestingLimit
          · rw [if_pos room, Option.bind_some]
            cases entries with
            | nil => exact (if_pos room).symm
            | cons entry entries =>
                have each (field : String × Value) (member : field ∈ entry :: entries) : field.2.IsRead :=
                  fields field member (exactFields field member) (keyedFields field member)
                have start := run?_entries each [] distinct room more
                rw [tokensOfEntries, commas_cons, List.append_assoc] at start ⊢
                exact start.trans (if_congr (by omega) rfl rfl)
          · rw [if_neg room, if_neg (by omega)]
            rfl

end Reading

theorem ofTokens?_tokens {value : Value} (exactly : value.isExact = true) (keyed : value.isKeyed = true) :
    ofTokens? value.tokens = if value.depth ≤ nestingLimit then some value else none := by
  have read := isRead exactly keyed [] [] (Nat.zero_le _)
  rw [List.append_nil, List.length_nil, Nat.zero_add] at read
  unfold ofTokens?
  rw [read]
  by_cases within : value.depth ≤ nestingLimit
  · rw [if_pos within, if_pos within]
    rfl
  · rw [if_neg within, if_neg within]

/-- A value without doubles and byte sequences, in which no object repeats a key, is read back from its
compact and from its indented text as it is if it nests within the limit. If it nests deeper neither of
its texts is read. -/
theorem ofJson?_written (value : Value) (exactly : value.isExact = true) (keyed : value.isKeyed = true) :
    (value.depth ≤ nestingLimit → ofJson? value.text = some value ∧ ofJson? value.pretty = some value) ∧
      (nestingLimit < value.depth → ofJson? value.text = none ∧ ofJson? value.pretty = none) := by
  have text : ofJson? value.text = ofTokens? value.tokens := by
    unfold ofJson? Value.text
    rw [String.toList_ofList, (spells_compact exactly).scan?, Option.bind_some]
  have pretty : ofJson? value.pretty = ofTokens? value.tokens := by
    unfold ofJson? Value.pretty
    rw [String.toList_ofList, (spells_indented exactly 0).scan?, Option.bind_some]
  rw [text, pretty, ofTokens?_tokens exactly keyed]
  exact ⟨fun within => ⟨if_pos within, if_pos within⟩,
    fun beyond => ⟨if_neg (Nat.not_le.mpr beyond), if_neg (Nat.not_le.mpr beyond)⟩⟩

/-- The least and the greatest integer, characters that are escaped, a repeated prefix of a key, and
containers without content. -/
theorem ofJson?_written_nested :
    let value : Value := .object
      [("b\n\"\\\x00\x7f", .array [.ofInt64 Int64.minValue, .ofInt64 Int64.maxValue, .array [], .object []]),
        ("b", .object [("", .null), ("\u00e9\u2028", .array [.bool false, .string "/\t\x1f"])])]
    value.depth = 3 ∧ ofJson? value.text = some value ∧ ofJson? value.pretty = some value := by
  intro value
  have nests : value.depth = 3 := by decide +kernel
  exact ⟨nests, (ofJson?_written value (by decide +kernel) (by decide +kernel)).1 (by rw [nests]; decide)⟩

end Value

end Conformance
