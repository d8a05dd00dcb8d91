import Mathlib.Data.List.Basic
import Wiring.Naming

/-!
What a relationship is called. An identifier has one dot fewer than pieces between its
dots, so its short name is what follows the second dot of two, and a short name has no
shorter one. In either half of a relationship's name only the first letter changes. No
letter is lost by that, so the name is empty only if both halves are.
-/

namespace Wiring

theorem dotted_split (letters : List Char) : dotted letters = letters.splitOn '.' := by
  induction letters with
  | nil => rfl
  | cons letter rest ih =>
      rw [dotted, List.splitOn_cons_eq_if_modifyHead, ih]
      by_cases dot : letter = '.'
      · simp [dot]
      · obtain ⟨piece, pieces, split⟩ :=
          List.exists_cons_of_ne_nil (List.splitOn_ne_nil '.' rest)
        simp [dot, split]

theorem dotted_length (letters : List Char) :
    (dotted letters).length = letters.count '.' + 1 := by
  rw [dotted_split]
  induction letters with
  | nil => rfl
  | cons letter rest ih =>
      rw [List.splitOn_cons_eq_if_modifyHead, List.count_cons]
      by_cases dot : letter = '.'
      · simp [dot, ih]
      · simp [dot, ih]

inductive ShortName : String → String → Prop where
  | last (first second last : String)
      (two : (first ++ "." ++ second ++ "." ++ last).toList.count '.' = 2) :
      ShortName (first ++ "." ++ second ++ "." ++ last) last
  | whole (id : String) (otherwise : id.toList.count '.' ≠ 2) : ShortName id id

theorem letters_joined (first second last : String) :
    (first ++ "." ++ second ++ "." ++ last).toList =
      ['.'].intercalate [first.toList, second.toList, last.toList] := by
  simp

theorem dots_joined (first second last : String) :
    (first ++ "." ++ second ++ "." ++ last).toList.count '.' =
      first.toList.count '.' + second.toList.count '.' + last.toList.count '.' + 2 := by
  rw [letters_joined]
  simp only [List.intercalate_cons_cons, List.intercalate_singleton, List.count_append,
    List.count_singleton_self]
  omega

theorem dotted_joined (first second last : String)
    (two : (first ++ "." ++ second ++ "." ++ last).toList.count '.' = 2) :
    dotted (first ++ "." ++ second ++ "." ++ last).toList =
      [first.toList, second.toList, last.toList] := by
  rw [dots_joined] at two
  -- Both dots stand between the pieces, so none of the pieces has one.
  have plain : ∀ piece ∈ [first.toList, second.toList, last.toList], '.' ∉ piece := by
    simp only [List.forall_mem_cons, ← List.count_eq_zero]
    exact ⟨by omega, by omega, by omega, nofun⟩
  rw [dotted_split, letters_joined, List.splitOn_intercalate '.' plain (List.cons_ne_nil _ _)]

theorem simple_name_whole (id : String) (otherwise : id.toList.count '.' ≠ 2) :
    simpleName id = id := by
  have pieces := dotted_length id.toList
  unfold simpleName
  split
  · rename_i first second last three
    rw [three] at pieces
    exact absurd (Nat.succ.inj pieces).symm otherwise
  · rfl

theorem simple_name_joined (first second last : String)
    (two : (first ++ "." ++ second ++ "." ++ last).toList.count '.' = 2) :
    simpleName (first ++ "." ++ second ++ "." ++ last) = last := by
  rw [simpleName, dotted_joined first second last two]
  exact String.ofList_toList

theorem two_dots_joined (id : String) (two : id.toList.count '.' = 2) :
    ∃ first second last, id = first ++ "." ++ second ++ "." ++ last := by
  have pieces := dotted_length id.toList
  rw [two] at pieces
  obtain ⟨first, second, last, three⟩ := List.length_eq_three.mp pieces
  refine ⟨.ofList first, .ofList second, .ofList last, String.toList_inj.mp ?_⟩
  rw [letters_joined]
  simp only [String.toList_ofList]
  rw [← three, dotted_split, List.intercalate_splitOn]

theorem short_name_iff (id name : String) : ShortName id name ↔ simpleName id = name := by
  constructor
  · intro short
    cases short with
    | last first second _ two => exact simple_name_joined first second name two
    | whole _ otherwise => exact simple_name_whole id otherwise
  · rintro rfl
    by_cases two : id.toList.count '.' = 2
    · obtain ⟨first, second, last, rfl⟩ := two_dots_joined id two
      rw [simple_name_joined first second last two]
      exact .last first second last two
    · rw [simple_name_whole id two]
      exact .whole id two

theorem short_name_suffix (id name : String) (short : ShortName id name) :
    name.toList <:+ id.toList := by
  cases short with
  | last first second _ two =>
      rw [String.toList_append]
      exact List.suffix_append _ _
  | whole => exact List.suffix_refl _

theorem short_name_settled (id name : String) (short : ShortName id name) :
    ShortName name name := by
  cases short with
  | last first second _ two =>
      rw [dots_joined] at two
      exact .whole name (by omega)
  | whole _ otherwise => exact .whole id otherwise

namespace LetterCase

theorem mapped_nonempty (expansions : List (Nat × List Nat)) (runs : List Run)
    (expanded : ∀ entry ∈ expansions, entry.2 ≠ []) (letter : Char) :
    mapped expansions runs letter ≠ [] := by
  unfold mapped
  split
  · rename_i codes listed
    obtain ⟨before, after, rfl, _⟩ := List.lookup_eq_some_iff.mp listed
    have nonempty : codes ≠ [] := expanded (letter.toNat, codes) (by simp)
    simpa using nonempty
  · split <;> exact List.cons_ne_nil _ _

theorem lower_nonempty (letter : Char) : lower letter ≠ [] :=
  mapped_nonempty lowerExpansions lowerRuns (by decide) letter

theorem upper_nonempty (letter : Char) : upper letter ≠ [] :=
  mapped_nonempty upperExpansions upperRuns (by decide) letter

end LetterCase

section

variable (change : Char → List Char)

/-- The first letter changed, if there is one, and the others after it. -/
theorem map_first_letters (text : String) :
    (mapFirst change text).toList = text.toList.head?.elim [] change ++ text.toList.tail := by
  unfold mapFirst
  cases text.toList with
  | nil => rfl
  | cons first rest => exact String.toList_ofList

theorem map_first_empty_iff (kept : ∀ letter, change letter ≠ []) (text : String) :
    mapFirst change text = "" ↔ text = "" := by
  rw [← String.toList_eq_nil_iff, ← String.toList_eq_nil_iff, map_first_letters]
  cases text.toList with
  | nil => simp
  | cons first rest => simp [kept first]

end

/-- An identifier has one short name, which is the end of it and its own short name. The name of a
relationship is the short name of its type with the first letter in lower case, and then the name of
its target with the first letter in upper case. -/
theorem named_by_rule (id target : String) (type : RelationshipType) :
    (∀ name, simpleName id = name ↔ ShortName id name) ∧
      (simpleName id).toList <:+ id.toList ∧
      simpleName (simpleName id) = simpleName id ∧
      (defaultName { type with elementId := id } target).toList =
        ((simpleName id).toList.head?.elim [] LetterCase.lower ++ (simpleName id).toList.tail) ++
          (target.toList.head?.elim [] LetterCase.upper ++ target.toList.tail) ∧
      (defaultName { type with elementId := id } target = "" ↔
        simpleName id = "" ∧ target = "") := by
  have short := (short_name_iff id _).mpr rfl
  refine ⟨fun name => (short_name_iff id name).symm, short_name_suffix id _ short, ?_, ?_, ?_⟩
  · exact (short_name_iff _ _).mp (short_name_settled id _ short)
  · rw [defaultName, String.toList_append, lowerFirst, upperFirst, map_first_letters,
      map_first_letters]
  · rw [defaultName, String.append_eq_empty_iff, lowerFirst, upperFirst,
      map_first_empty_iff _ LetterCase.lower_nonempty,
      map_first_empty_iff _ LetterCase.upper_nonempty]

example : defaultName { elementId := "a..İd" } "ßa" = "i̇dSSa" := by decide

end Wiring
