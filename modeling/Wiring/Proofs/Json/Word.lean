import Mathlib.Data.List.Basic
import Wiring.Json.Token

/-!
The unquoted words of a text: the three names and the numbers. A number has no zero in
front of other digits; what sets it apart from a natural one is a sign, a fraction or
an exponent.
-/

namespace Wiring.Json

def Digits (letters : List Char) : Prop :=
  letters ≠ [] ∧ ∀ letter ∈ letters, letter.isDigit = true

inductive Whole : List Char → Prop where
  | zero : Whole ['0']
  | digits {letters : List Char} (written : Digits letters) (lead : letters.head? ≠ some '0') :
      Whole letters

inductive Fraction : List Char → Prop where
  | none : Fraction []
  | digits {letters : List Char} (written : Digits letters) : Fraction ('.' :: letters)

inductive Exponent : List Char → Prop where
  | none : Exponent []
  | digits {mark : Char} {sign letters : List Char} (marked : mark = 'e' ∨ mark = 'E')
      (signed : sign = [] ∨ sign = ['+'] ∨ sign = ['-']) (written : Digits letters) :
      Exponent (mark :: (sign ++ letters))

inductive Literal : List Char → Token → Prop where
  | null : Literal nullWord .null
  | bool (value : Bool) : Literal (boolWord value) (.bool value)
  | natural {letters : List Char} (whole : Whole letters) :
      Literal letters (.natural (Nat.ofDigitChars 10 letters 0))
  | other {sign whole fraction exponent : List Char}
      (signed : sign = [] ∨ sign = ['-'])
      (wholly : Whole whole) (fractional : Fraction fraction) (exponential : Exponent exponent)
      (unnatural : sign ++ fraction ++ exponent ≠ []) :
      Literal (sign ++ whole ++ fraction ++ exponent) .otherNumber

def Inside (letters : List Char) : Prop :=
  ∀ letter ∈ letters, endsWord letter = false

structure Word (letters : List Char) (token : Token) : Prop where
  known : ofWord? letters = some token
  inside : Inside letters
  nonempty : letters ≠ []

theorem word_of_all (letters : List Char) (token : Token) (known : ofWord? letters = some token)
    (inside : letters.all (fun letter => !endsWord letter) = true) (nonempty : letters ≠ []) :
    Word letters token := by
  refine ⟨known, ?_, nonempty⟩
  intro letter among
  have outside := List.all_eq_true.mp inside letter among
  rwa [Bool.not_eq_true'] at outside

theorem digit_between (letter : Char) (digit : letter.isDigit = true) :
    48 ≤ letter.toNat ∧ letter.toNat ≤ 57 := by
  simpa [Char.isDigit, Char.le_def, UInt32.le_iff_toNat_le] using digit

theorem digit_not_end (letter : Char) (digit : letter.isDigit = true) :
    endsWord letter = false := by
  have between := digit_between letter digit
  cases ends : endsWord letter with
  | false => rfl
  | true =>
      simp only [endsWord, isSpace, Bool.or_eq_true, beq_iff_eq] at ends
      rcases ends with ((((rfl | rfl) | rfl) | rfl) | rfl) | mark
      · exact absurd between (by decide)
      · exact absurd between (by decide)
      · exact absurd between (by decide)
      · exact absurd between (by decide)
      · exact absurd between (by decide)
      · unfold punctuation? at mark
        split at mark
        · exact absurd between (by decide)
        · exact absurd between (by decide)
        · exact absurd between (by decide)
        · exact absurd between (by decide)
        · exact absurd between (by decide)
        · exact absurd between (by decide)
        · cases mark

theorem whole_digits (letters : List Char) (whole : Whole letters) : Digits letters := by
  cases whole with
  | zero => exact ⟨nofun, List.forall_mem_singleton.mpr rfl⟩
  | digits written => exact written

/-- A word that starts with a digit or a sign is none of the names. -/
theorem named_lead (letters : List Char)
    (lead : ∀ letter, letters.head? = some letter → letter = '-' ∨ letter.isDigit = true) :
    letters ≠ nullWord ∧ letters ≠ boolWord true ∧ letters ≠ boolWord false := by
  refine ⟨?_, ?_, ?_⟩
  · rintro rfl
    exact absurd (lead 'n' rfl) (by decide)
  · rintro rfl
    exact absurd (lead 't' rfl) (by decide)
  · rintro rfl
    exact absurd (lead 'f' rfl) (by decide)

theorem is_natural_iff (letters : List Char) : isNatural letters = true ↔ Whole letters := by
  constructor
  · intro natural
    simp only [isNatural, Bool.or_eq_true, beq_iff_eq, Bool.and_eq_true, Bool.not_eq_true',
      bne_iff_ne, List.all_eq_true, List.isEmpty_eq_false_iff] at natural
    rcases natural with rfl | ⟨⟨nonempty, lead⟩, digits⟩
    · exact .zero
    · exact .digits ⟨nonempty, digits⟩ lead
  · intro whole
    cases whole with
    | zero => decide
    | digits written lead =>
        simp only [isNatural, Bool.or_eq_true, Bool.and_eq_true, Bool.not_eq_true', bne_iff_ne,
          List.all_eq_true, List.isEmpty_eq_false_iff]
        exact .inr ⟨⟨written.1, lead⟩, written.2⟩

def Undigited (letters : List Char) : Prop :=
  ∀ letter, letters.head? = some letter → letter.isDigit = false

theorem after_digits (digits rest : List Char) (written : Digits digits) (ended : Undigited rest) :
    afterDigits? (digits ++ rest) = some rest := by
  obtain ⟨nonempty, all⟩ := written
  have stops : rest.dropWhile Char.isDigit = rest := by
    cases rest with
    | nil => rfl
    | cons letter more => rw [List.dropWhile_cons_of_neg]; simp [ended letter rfl]
  cases digits with
  | nil => exact absurd rfl nonempty
  | cons letter more =>
      rw [List.cons_append, afterDigits?, if_pos (all letter List.mem_cons_self),
        List.dropWhile_append_of_pos, stops]
      exact fun other member => all other (List.mem_cons_of_mem letter member)

theorem after_digits_end (digits : List Char) (written : Digits digits) :
    afterDigits? digits = some [] := by
  have ended := after_digits digits [] written nofun
  rwa [List.append_nil] at ended

theorem exponent_read (letters : List Char) (exponent : Exponent letters) :
    isExponent letters = true := by
  cases exponent with
  | none => rfl
  | @digits mark sign letters marked signed written =>
      have ended := after_digits_end letters written
      have marked : (mark == 'e' || mark == 'E') = true := by
        rcases marked with rfl | rfl <;> rfl
      rcases signed with rfl | rfl | rfl
      · obtain ⟨_, digits⟩ := written
        simp only [isExponent, marked, Bool.true_and, List.nil_append]
        split
        · exact absurd (digits '+' List.mem_cons_self) (by decide)
        · exact absurd (digits '-' List.mem_cons_self) (by decide)
        · rw [ended, beq_self_eq_true]
      · simp [isExponent, marked, ended]
      · simp [isExponent, marked, ended]

theorem exponent_undigited (letters : List Char) (exponent : Exponent letters) :
    Undigited letters := by
  cases exponent with
  | none => exact nofun
  | digits marked =>
      rintro _ ⟨rfl⟩
      rcases marked with rfl | rfl <;> decide

theorem fraction_undigited (fraction exponent : List Char) (fractional : Fraction fraction)
    (exponential : Exponent exponent) : Undigited (fraction ++ exponent) := by
  cases fractional with
  | none => exact exponent_undigited exponent exponential
  | digits =>
      rintro _ ⟨rfl⟩
      decide

theorem fraction_read (fraction exponent : List Char) (fractional : Fraction fraction)
    (exponential : Exponent exponent) : isFraction (fraction ++ exponent) = true := by
  have behind := exponent_read exponent exponential
  cases fractional with
  | digits written =>
      have ended := after_digits _ exponent written (exponent_undigited exponent exponential)
      simp only [List.cons_append, isFraction, ended, behind]
  | none =>
      cases exponential with
      | none => rfl
      | digits marked =>
          rcases marked with rfl | rfl <;> exact behind

theorem unsigned_read (whole rest : List Char) (wholly : Whole whole) (ended : Undigited rest)
    (read : isFraction rest = true) : isUnsigned (whole ++ rest) = true := by
  cases wholly with
  | zero => exact read
  | digits written lead =>
      have behind := after_digits whole rest written ended
      cases whole with
      | nil => exact absurd rfl written.1
      | cons letter more =>
          unfold isUnsigned
          split
          · rename_i same
            cases same
            exact absurd rfl lead
          · rw [behind]
            exact read

theorem number_read (sign whole fraction exponent : List Char) (signed : sign = [] ∨ sign = ['-'])
    (wholly : Whole whole) (fractional : Fraction fraction) (exponential : Exponent exponent) :
    isNumber (sign ++ whole ++ fraction ++ exponent) = true := by
  have read := unsigned_read whole (fraction ++ exponent) wholly
    (fraction_undigited _ _ fractional exponential) (fraction_read _ _ fractional exponential)
  rcases signed with rfl | rfl
  · obtain ⟨nonempty, digits⟩ := whole_digits whole wholly
    simp only [List.nil_append, List.append_assoc]
    unfold isNumber
    split
    · rename_i same
      cases whole with
      | nil => exact absurd rfl nonempty
      | cons letter more =>
          cases same
          exact absurd (digits '-' List.mem_cons_self) (by decide)
    · exact read
  · simp only [List.cons_append, List.nil_append, List.append_assoc]
    exact read

/-- A number of another kind has a letter in it that is no digit. -/
theorem other_unnatural (sign whole fraction exponent : List Char)
    (signed : sign = [] ∨ sign = ['-']) (fractional : Fraction fraction)
    (exponential : Exponent exponent) (unnatural : sign ++ fraction ++ exponent ≠ []) :
    isNatural (sign ++ whole ++ fraction ++ exponent) = false := by
  cases natural : isNatural (sign ++ whole ++ fraction ++ exponent) with
  | false => rfl
  | true =>
      have digits := (whole_digits _ ((is_natural_iff _).mp natural)).2
      simp only [List.mem_append] at digits
      have unsigned : sign = [] := by
        refine signed.resolve_right ?_
        rintro rfl
        exact absurd (digits '-' (by simp)) (by decide)
      have integral : fraction = [] := by
        cases fractional with
        | none => rfl
        | digits => exact absurd (digits '.' (by simp)) (by decide)
      have plain : exponent = [] := by
        cases exponential with
        | none => rfl
        | digits marked =>
            rcases marked with rfl | rfl
            · exact absurd (digits 'e' (by simp)) (by decide)
            · exact absurd (digits 'E' (by simp)) (by decide)
      rw [unsigned, integral, plain] at unnatural
      exact absurd rfl unnatural

theorem inside_append (before after : List Char) (first : Inside before) (second : Inside after) :
    Inside (before ++ after) :=
  List.forall_mem_append.mpr ⟨first, second⟩

theorem inside_digits (letters : List Char) (written : Digits letters) : Inside letters :=
  fun letter member => digit_not_end letter (written.2 letter member)

theorem inside_fraction (letters : List Char) (fraction : Fraction letters) : Inside letters := by
  cases fraction with
  | none => exact nofun
  | digits written =>
      exact inside_append ['.'] _ (List.forall_mem_singleton.mpr rfl) (inside_digits _ written)

theorem inside_exponent (letters : List Char) (exponent : Exponent letters) : Inside letters := by
  cases exponent with
  | none => exact nofun
  | @digits mark sign letters marked signed written =>
      refine inside_append [mark] _ ?_ (inside_append sign letters ?_ (inside_digits _ written))
      · rcases marked with rfl | rfl <;> exact List.forall_mem_singleton.mpr rfl
      · rcases signed with rfl | rfl | rfl
        · exact nofun
        · exact List.forall_mem_singleton.mpr rfl
        · exact List.forall_mem_singleton.mpr rfl

theorem word_natural (letters : List Char) (whole : Whole letters) :
    Word letters (.natural (Nat.ofDigitChars 10 letters 0)) := by
  have written := whole_digits letters whole
  obtain ⟨unnull, untrue, unfalse⟩ := named_lead letters fun letter lead =>
    .inr (written.2 letter (List.mem_of_head? lead))
  refine ⟨?_, inside_digits letters written, written.1⟩
  rw [ofWord?, if_neg unnull, if_neg untrue, if_neg unfalse,
    if_pos ((is_natural_iff letters).mpr whole)]

theorem word_other (sign whole fraction exponent : List Char) (signed : sign = [] ∨ sign = ['-'])
    (wholly : Whole whole) (fractional : Fraction fraction) (exponential : Exponent exponent)
    (unnatural : sign ++ fraction ++ exponent ≠ []) :
    Word (sign ++ whole ++ fraction ++ exponent) .otherNumber := by
  have digits := whole_digits whole wholly
  have number := number_read sign whole fraction exponent signed wholly fractional exponential
  have other := other_unnatural sign whole fraction exponent signed fractional exponential unnatural
  obtain ⟨unnull, untrue, unfalse⟩ := named_lead (sign ++ whole ++ fraction ++ exponent) <| by
    intro letter lead
    simp only [List.append_assoc] at lead
    rcases signed with rfl | rfl
    · rw [List.nil_append, List.head?_append_of_ne_nil _ digits.1] at lead
      exact .inr (digits.2 letter (List.mem_of_head? lead))
    · cases lead
      exact .inl rfl
  refine ⟨?_, ?_, ?_⟩
  · rw [ofWord?, if_neg unnull, if_neg untrue, if_neg unfalse, other, number]
    rfl
  · have unmarked : Inside sign := by
      rcases signed with rfl | rfl
      · exact nofun
      · exact List.forall_mem_singleton.mpr rfl
    exact inside_append _ _ (inside_append _ _ (inside_append _ _ unmarked (inside_digits _ digits))
      (inside_fraction _ fractional)) (inside_exponent _ exponential)
  · simp [digits.1]

theorem literal_word (letters : List Char) (token : Token) (literal : Literal letters token) :
    Word letters token := by
  cases literal with
  | null => exact word_of_all _ _ rfl rfl nofun
  | bool value => cases value <;> exact word_of_all _ _ rfl rfl nofun
  | natural whole => exact word_natural letters whole
  | other signed wholly fractional exponential unnatural =>
      exact word_other _ _ _ _ signed wholly fractional exponential unnatural

theorem digits_lead (value : Nat) (zero : (Nat.toDigits 10 value).head? = some '0') :
    value = 0 := by
  have single : ∀ digit < 10, [Nat.digitChar digit].head? = some '0' → digit = 0 := by decide
  induction value using Nat.strongRecOn with
  | ind value ih =>
      rw [Nat.toDigits_eq_if (by decide)] at zero
      by_cases small : value < 10
      · rw [if_pos small] at zero
        exact single value small zero
      · rw [if_neg small] at zero
        have shorter := Nat.toDigits_ne_nil (n := value / 10) (b := 10)
        rw [List.head?_append_of_ne_nil _ shorter] at zero
        have vanishes := ih (value / 10) (by omega) zero
        omega

theorem literal_natural (value : Nat) : Literal (Nat.toDigits 10 value) (.natural value) := by
  have digits : ∀ letter ∈ Nat.toDigits 10 value, letter.isDigit = true := fun letter member =>
    Nat.isDigit_of_mem_toDigits (by decide) (by decide) member
  have nonempty := Nat.toDigits_ne_nil (n := value) (b := 10)
  have whole : Whole (Nat.toDigits 10 value) := by
    by_cases zero : value = 0
    · subst zero
      exact .zero
    · exact .digits ⟨nonempty, digits⟩ (mt (digits_lead value) zero)
  have literal := Literal.natural whole
  rwa [Nat.ofDigitChars_ten_toDigits] at literal

theorem literal_foreign : Literal foreignWord .otherNumber :=
  .other (.inr rfl) .zero .none .none nofun

end Wiring.Json
