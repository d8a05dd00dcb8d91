import Wiring.Proofs.Json.Word

/-!
Texts of tokens. A text spells a list of tokens if it is made of their spellings,
with white space anywhere between them; a word must not run into the next one. Each
text spells at most one list of tokens, the one that is read from it.
-/

namespace Wiring.Json

/-- What stands between quotes, and the code units that it is written for. Any letter may be
escaped by its number, and one beyond the first 65536 by the two of a surrogate pair. -/
inductive Quotes : List Char → List Nat → Prop where
  | done : Quotes [] []
  | plain {letters : List Char} {units : List Nat} {letter : Char} (unquoted : letter ≠ '"')
      (unescaped : letter ≠ '\\') (printed : 0x20 ≤ letter.toNat) (quotes : Quotes letters units) :
      Quotes (letter :: letters) (letter.toNat :: units)
  | short {letters : List Char} {units : List Nat} {mark : Char} {unit : Nat}
      (known : (mark, unit) ∈ escapes) (quotes : Quotes letters units) :
      Quotes ('\\' :: mark :: letters) (unit :: units)
  | hex {digits letters : List Char} {unit : Nat} {units : List Nat} (four : digits.length = 4)
      (number : number? 16 digits = some unit) (quotes : Quotes letters units) :
      Quotes ('\\' :: 'u' :: (digits ++ letters)) (unit :: units)

def Delimited : List Char → Prop
  | [] => True
  | letter :: _ => endsWord letter = true

inductive Spells : List Token → List Char → Prop where
  | done : Spells [] []
  | space {tokens : List Token} {letter : Char} {rest : List Char}
      (blank : isSpace letter = true) (spells : Spells tokens rest) :
      Spells tokens (letter :: rest)
  | mark {tokens : List Token} {token : Token} {letter : Char} {rest : List Char}
      (known : punctuation? letter = some token) (spells : Spells tokens rest) :
      Spells (token :: tokens) (letter :: rest)
  | text {tokens : List Token} {letters rest : List Char} {units : List Nat}
      (quotes : Quotes letters units) (spells : Spells tokens rest) :
      Spells (.string ((joinPairs? units).map .ofList) :: tokens) ('"' :: (letters ++ '"' :: rest))
  | word {tokens : List Token} {token : Token} {letters rest : List Char}
      (literal : Literal letters token) (delimited : Delimited rest) (spells : Spells tokens rest) :
      Spells (token :: tokens) (letters ++ rest)

theorem spells_spaces (tokens : List Token) (spaces rest : List Char)
    (blank : ∀ letter ∈ spaces, isSpace letter = true) (spells : Spells tokens rest) :
    Spells tokens (spaces ++ rest) := by
  induction spaces with
  | nil => exact spells
  | cons letter more ih =>
      have here := blank letter List.mem_cons_self
      have others := ih fun other member => blank other (List.mem_cons_of_mem letter member)
      exact .space here others

theorem punctuation_ends_word (letter : Char) (token : Token)
    (known : punctuation? letter = some token) :
    isSpace letter = false ∧ letter ≠ '"' ∧ endsWord letter = true := by
  unfold punctuation? at known
  split at known
  · decide
  · decide
  · decide
  · decide
  · decide
  · decide
  · cases known

theorem fold_cons {σ κ : Type} (step : σ → κ → Option σ) (state next : σ) (item : κ)
    (rest : List κ) (stepped : step state item = some next) :
    (item :: rest).foldlM step state = rest.foldlM step next := by
  rw [List.foldlM_cons, stepped, Option.bind_eq_bind, Option.bind_some]

theorem fold_append {σ κ : Type} (step : σ → κ → Option σ) (state next : σ) (before after : List κ)
    (folded : before.foldlM step state = some next) :
    (before ++ after).foldlM step state = after.foldlM step next := by
  rw [List.foldlM_append, folded, Option.bind_eq_bind, Option.bind_some]

def scanFrom (tokens : List Token) (letters : List Char) : Option (List Token) :=
  (letters.foldlM Scan.step ⟨tokens, .between⟩).bind Scan.finish?

theorem scan_space (tokens : List Token) (letter : Char) (rest : List Char)
    (blank : isSpace letter = true) : scanFrom tokens (letter :: rest) = scanFrom tokens rest := by
  simp [scanFrom, Scan.step, Scan.enter, blank]

theorem scan_mark (tokens : List Token) (token : Token) (letter : Char) (rest : List Char)
    (known : punctuation? letter = some token) :
    scanFrom tokens (letter :: rest) = scanFrom (token :: tokens) rest := by
  obtain ⟨unblank, unquoted, _⟩ := punctuation_ends_word letter token known
  simp [scanFrom, Scan.step, Scan.enter, unblank, unquoted, known]

theorem enter_word (tokens : List Token) (letter : Char) (inside : endsWord letter = false) :
    Scan.enter tokens letter = ⟨tokens, .word [letter]⟩ := by
  simp only [endsWord, Bool.or_eq_false_iff, beq_eq_false_iff_ne, Option.isSome_eq_false_iff,
    Option.isNone_iff_eq_none] at inside
  simp [Scan.enter, inside]

theorem gather_word (tokens : List Token) (letters gathered : List Char)
    (inside : ∀ letter ∈ letters, endsWord letter = false) :
    letters.foldlM Scan.step ⟨tokens, .word gathered⟩ =
      some ⟨tokens, .word (letters.reverse ++ gathered)⟩ := by
  induction letters generalizing gathered with
  | nil => rfl
  | cons letter rest ih =>
      have here := inside letter List.mem_cons_self
      have others := ih (letter :: gathered) fun other member =>
        inside other (List.mem_cons_of_mem letter member)
      simp [Scan.step, here, others]

-- The letter that ends a word is read as if the word's token stood there already.
theorem scan_word (tokens : List Token) (token : Token) (letters rest : List Char)
    (word : Word letters token) (delimited : Delimited rest) :
    scanFrom tokens (letters ++ rest) = scanFrom (token :: tokens) rest := by
  obtain ⟨known, inside, nonempty⟩ := word
  have gathered : letters.foldlM Scan.step ⟨tokens, .between⟩ =
      some ⟨tokens, .word letters.reverse⟩ := by
    cases letters with
    | nil => exact absurd rfl nonempty
    | cons letter more =>
        have first := enter_word tokens letter (inside letter List.mem_cons_self)
        have others := gather_word tokens more [letter] fun other member =>
          inside other (List.mem_cons_of_mem letter member)
        simp [Scan.step, first, others]
  rw [scanFrom, List.foldlM_append, gathered]
  cases rest with
  | nil => simp [scanFrom, Scan.finish?, known]
  | cons letter more =>
      have ends : endsWord letter = true := delimited
      simp [scanFrom, Scan.step, ends, known]

theorem hex_digit_value (value : Nat) (small : value < 16) :
    digitValue? 16 (hexDigit value) = some value := by
  revert value
  decide

theorem escape_known (mark : Char) (unit : Nat) (known : (mark, unit) ∈ escapes) :
    mark ≠ 'u' ∧ escapes.lookup mark = some unit := by
  simp only [escapes, List.mem_cons, Prod.mk.injEq, List.not_mem_nil, or_false] at known
  rcases known with ⟨rfl, rfl⟩ | ⟨rfl, rfl⟩ | ⟨rfl, rfl⟩ | ⟨rfl, rfl⟩ | ⟨rfl, rfl⟩ | ⟨rfl, rfl⟩ |
    ⟨rfl, rfl⟩ | ⟨rfl, rfl⟩ <;> decide

theorem gather_hex (tokens : List Token) (units : List Nat) (digits : List Char) (unit : Nat)
    (four : digits.length = 4) (number : number? 16 digits = some unit) :
    digits.foldlM Scan.step ⟨tokens, .hex units 0 0⟩ = some ⟨tokens, .quoted (unit :: units)⟩ := by
  obtain ⟨first, second, third, fourth, rfl⟩ := List.length_eq_four.mp four
  simp only [number?, List.isEmpty_cons, Bool.false_eq_true, if_false, List.foldlM_cons,
    List.foldlM_nil, Option.bind_eq_bind, Option.bind_eq_some_iff, Option.map_eq_some_iff,
    Option.pure_def, Option.some.injEq] at number
  obtain ⟨_, ⟨a, one, rfl⟩, _, ⟨b, two, rfl⟩, _, ⟨c, three, rfl⟩, _, ⟨d, four, rfl⟩, rfl⟩ := number
  simp [Scan.step, one, two, three, four]

theorem gather_quoted (letters : List Char) (units : List Nat) (quotes : Quotes letters units)
    (tokens : List Token) (before : List Nat) :
    letters.foldlM Scan.step ⟨tokens, .quoted before⟩ =
      some ⟨tokens, .quoted (units.reverse ++ before)⟩ := by
  induction quotes generalizing before with
  | done => rfl
  | @plain letters units letter unquoted unescaped printed quotes ih =>
      have read : Scan.step ⟨tokens, .quoted before⟩ letter =
          some ⟨tokens, .quoted (letter.toNat :: before)⟩ := by
        simp only [Scan.step, unquoted, unescaped, Nat.not_lt.mpr printed, if_false]
      rw [fold_cons _ _ _ _ _ read, ih, List.reverse_cons, List.append_assoc,
        List.singleton_append]
  | @short letters units mark unit known quotes ih =>
      obtain ⟨other, found⟩ := escape_known mark unit known
      have opened : Scan.step ⟨tokens, .quoted before⟩ '\\' = some ⟨tokens, .escape before⟩ := rfl
      have read : Scan.step ⟨tokens, .escape before⟩ mark =
          some ⟨tokens, .quoted (unit :: before)⟩ := by
        simp only [Scan.step, other, if_false, found, Option.map_some]
      rw [fold_cons _ _ _ _ _ opened, fold_cons _ _ _ _ _ read, ih, List.reverse_cons,
        List.append_assoc, List.singleton_append]
  | @hex digits letters unit units four number quotes ih =>
      have opened : Scan.step ⟨tokens, .quoted before⟩ '\\' = some ⟨tokens, .escape before⟩ := rfl
      have marked : Scan.step ⟨tokens, .escape before⟩ 'u' = some ⟨tokens, .hex before 0 0⟩ := rfl
      have gathered := gather_hex tokens before digits unit four number
      rw [fold_cons _ _ _ _ _ opened, fold_cons _ _ _ _ _ marked, fold_append _ _ _ _ _ gathered,
        ih, List.reverse_cons, List.append_assoc, List.singleton_append]

theorem no_surrogate (letter : Char) :
    isLeading letter.toNat = false ∧ isTrailing letter.toNat = false := by
  have valid := letter.valid
  simp only [isLeading, isTrailing, Bool.and_eq_false_iff, decide_eq_false_iff_not]
  rcases valid with low | ⟨high, _⟩
  · have small : letter.toNat < 0xD800 := low
    omega
  · have large : 0xDFFF < letter.toNat := high
    omega

theorem join_letters (letters : List Char) :
    joinPairs? (letters.map Char.toNat) = some letters := by
  induction letters with
  | nil => rfl
  | cons letter rest ih =>
      obtain ⟨unleading, untrailing⟩ := no_surrogate letter
      have same : Char.ofNat letter.toNat = letter := Char.ofNat_toNat letter
      cases rest with
      | nil => simp [joinPairs?, unleading, untrailing, same]
      | cons next more =>
          simp only [List.map_cons] at ih
          simp [joinPairs?, unleading, untrailing, same, ih]

theorem scan_text (tokens : List Token) (letters : List Char) (units : List Nat)
    (quotes : Quotes letters units) (rest : List Char) :
    scanFrom tokens ('"' :: (letters ++ '"' :: rest)) =
      scanFrom (.string ((joinPairs? units).map .ofList) :: tokens) rest := by
  have opened : Scan.step ⟨tokens, .between⟩ '"' = some ⟨tokens, .quoted []⟩ := rfl
  have gathered := gather_quoted letters units quotes tokens []
  have closed : Scan.step ⟨tokens, .quoted (units.reverse ++ [])⟩ '"' =
      some ⟨.string ((joinPairs? units).map .ofList) :: tokens, .between⟩ := by
    simp only [Scan.step, List.append_nil, List.reverse_reverse, if_true]
  rw [scanFrom, fold_cons _ _ _ _ _ opened, fold_append _ _ _ _ _ gathered,
    fold_cons _ _ _ _ _ closed]
  rfl

theorem spells_scan (tokens : List Token) (letters : List Char) (spells : Spells tokens letters)
    (before : List Token) : scanFrom before letters = some (before.reverse ++ tokens) := by
  induction spells generalizing before with
  | done => simp [scanFrom, Scan.finish?]
  | space blank _ ih => rw [scan_space _ _ _ blank, ih]
  | mark known _ ih =>
      rw [scan_mark _ _ _ _ known, ih, List.reverse_cons, List.append_assoc,
        List.singleton_append]
  | text quotes _ ih =>
      rw [scan_text _ _ _ quotes, ih, List.reverse_cons, List.append_assoc, List.singleton_append]
  | word literal delimited _ ih =>
      have word := literal_word _ _ literal
      rw [scan_word _ _ _ _ word delimited, ih, List.reverse_cons, List.append_assoc,
        List.singleton_append]

theorem tokens_spelled (tokens : List Token) (letters : List Char)
    (spells : Spells tokens letters) : tokens? letters = some tokens :=
  spells_scan tokens letters spells []

/-- An escaped letter is written for its number. -/
theorem quotes_escaped (letter : Char) (letters : List Char) (units : List Nat)
    (quotes : Quotes letters units) :
    Quotes (escaped letter ++ letters) (letter.toNat :: units) := by
  have short : ∀ mark, (mark, letter.toNat) ∈ escapes →
      Quotes (['\\', mark] ++ letters) (letter.toNat :: units) := fun mark known =>
    .short known quotes
  by_cases quote : letter = '"'
  · subst quote
    exact short '"' (by decide)
  by_cases backslash : letter = '\\'
  · subst backslash
    exact short '\\' (by decide)
  by_cases backspace : letter = '\x08'
  · subst backspace
    exact short 'b' (by decide)
  by_cases tab : letter = '\t'
  · subst tab
    exact short 't' (by decide)
  by_cases lineFeed : letter = '\n'
  · subst lineFeed
    exact short 'n' (by decide)
  by_cases formFeed : letter = '\x0c'
  · subst formFeed
    exact short 'f' (by decide)
  by_cases carriageReturn : letter = '\r'
  · subst carriageReturn
    exact short 'r' (by decide)
  simp only [escaped, quote, backslash, backspace, tab, lineFeed, formFeed, carriageReturn,
    if_false]
  by_cases control : letter.toNat < 0x20
  · have high := hex_digit_value (letter.toNat / 16) (by omega)
    have low := hex_digit_value (letter.toNat % 16) (by omega)
    have zero : digitValue? 16 '0' = some 0 := by decide
    have value : letter.toNat / 16 * 16 + letter.toNat % 16 = letter.toNat := by omega
    rw [if_pos control]
    have number : number? 16 ['0', '0', hexDigit (letter.toNat / 16),
        hexDigit (letter.toNat % 16)] = some letter.toNat := by
      simp [number?, zero, high, low, value]
    exact .hex rfl number quotes
  · rw [if_neg control]
    exact .plain quote backslash (Nat.le_of_not_lt control) quotes

theorem quotes_letters (letters : List Char) :
    Quotes (letters.flatMap escaped) (letters.map Char.toNat) := by
  induction letters with
  | nil => exact .done
  | cons letter rest ih =>
      rw [List.flatMap_cons, List.map_cons]
      exact quotes_escaped letter _ _ ih

/-- A text as it is written spells itself. -/
theorem spells_quoted (text : String) (tokens : List Token) (rest : List Char)
    (spells : Spells tokens rest) :
    Spells (.string (some text) :: tokens) (quoted text ++ rest) := by
  have joined : (joinPairs? (text.toList.map Char.toNat)).map String.ofList = some text := by
    rw [join_letters, Option.map_some, String.ofList_toList]
  have spelled := Spells.text (quotes_letters text.toList) spells
  rw [joined] at spelled
  rwa [quoted, List.cons_append, List.cons_append, List.append_assoc, List.singleton_append]

end Wiring.Json
