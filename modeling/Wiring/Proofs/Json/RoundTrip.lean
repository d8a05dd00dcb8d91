import Wiring.Proofs.Json.Grammar

/-!
Values and their texts. The reader takes the tokens of a value back to the value, and
what is written for a value spells its tokens, so it is read as the value again.
-/

namespace Wiring.Json

mutual

def tokens : Json → List Token
  | null => [.null]
  | bool value => [.bool value]
  | natural value => [.natural value]
  | string value => [.string (some value)]
  | array [] => [.openArray, .closeArray]
  | array (item :: items) => .openArray :: (tokens item ++ itemTokens items)
  | object [] => [.openObject, .closeObject]
  | object ((key, value) :: members) =>
      .openObject :: .string (some key) :: .colon :: (tokens value ++ memberTokens members)
  | foreign => [.otherNumber]

def itemTokens : List Json → List Token
  | [] => [.closeArray]
  | item :: items => .comma :: (tokens item ++ itemTokens items)

def memberTokens : List (String × Json) → List Token
  | [] => [.closeObject]
  | (key, value) :: members =>
      .comma :: .string (some key) :: .colon :: (tokens value ++ memberTokens members)

end

theorem item_tokens_following (items : List Json) :
    itemTokens items = following .closeArray (items.map tokens) := by
  induction items with
  | nil => rfl
  | cons item rest ih => rw [itemTokens, ih, List.map_cons, following]

def written (member : String × Json) : Member := ⟨some member.1, member.2, tokens member.2⟩

theorem member_tokens_following (members : List (String × Json)) :
    memberTokens members =
      following .closeObject (members.map fun member => (written member).told) := by
  induction members with
  | nil => rfl
  | cons member rest ih =>
      rw [memberTokens, ih, List.map_cons, following, Member.told]
      rfl

mutual

theorem tokens_told (value : Json) : Tells value (tokens value) := by
  match value with
  | null => exact .null
  | bool value => exact .bool value
  | natural value => exact .natural value
  | string value => exact .string value
  | foreign => exact .otherNumber
  | array items =>
      have told := Tells.array (items.map fun item => (item, tokens item))
        (List.forall_mem_map.mpr (items_told items))
      have values : items.map (Prod.fst ∘ fun item => (item, tokens item)) = items :=
        List.map_id items
      rw [List.map_map, List.map_map, values] at told
      cases items with
      | nil => exact told
      | cons item rest =>
          rw [tokens, item_tokens_following]
          exact told
  | object members =>
      have told := Tells.object (members.map written)
        (List.forall_mem_map.mpr (members_told members))
      rw [List.map_map, List.map_map] at told
      have values : members.map (Member.keyed ∘ written) = members.map keyed := rfl
      rw [values, closed_keyed] at told
      cases members with
      | nil => exact told
      | cons member rest =>
          rw [tokens, member_tokens_following]
          exact told

theorem items_told (items : List Json) : ∀ item ∈ items, Tells item (tokens item) := by
  match items with
  | [] => exact nofun
  | item :: rest => exact List.forall_mem_cons.mpr ⟨tokens_told item, items_told rest⟩

theorem members_told (members : List (String × Json)) :
    ∀ member ∈ members, Tells member.2 (tokens member.2) := by
  match members with
  | [] => exact nofun
  | (key, value) :: rest => exact List.forall_mem_cons.mpr ⟨tokens_told value, members_told rest⟩

end

theorem read_spelled (value : Json) (text : String)
    (spells : Spells (tokens value) text.toList) : read? text = some value :=
  read_written text value ⟨tokens value, tokens_told value, spells⟩

theorem new_line_blank (level : Nat) : ∀ letter ∈ newLine level, isSpace letter = true := by
  intro letter member
  rcases List.mem_cons.mp member with rfl | space
  · rfl
  · rw [List.eq_of_mem_replicate space]
    rfl

structure Layout where
  line : Nat → List Char
  gap : List Char
  lineBlank : ∀ level, ∀ letter ∈ line level, isSpace letter = true
  gapBlank : ∀ letter ∈ gap, isSpace letter = true

def Layout.dense : Layout := ⟨fun _ => [], [], nofun, nofun⟩

def Layout.airy : Layout where
  line := newLine
  gap := [' ']
  lineBlank := new_line_blank
  gapBlank := List.forall_mem_singleton.mpr rfl

mutual

def laid (layout : Layout) (level : Nat) : Json → List Char
  | null => nullWord
  | bool value => boolWord value
  | natural value => Nat.toDigits 10 value
  | string value => quoted value
  | array [] => ['[', ']']
  | array (item :: items) =>
      '[' :: layout.line (level + 1) ++ laid layout (level + 1) item ++ laidItems layout level items
  | object [] => ['{', '}']
  | object ((key, value) :: members) =>
      '{' :: layout.line (level + 1) ++ quoted key ++ ':' :: layout.gap ++
        laid layout (level + 1) value ++ laidMembers layout level members
  | foreign => foreignWord

def laidItems (layout : Layout) (level : Nat) : List Json → List Char
  | [] => layout.line level ++ [']']
  | item :: items =>
      ',' :: layout.line (level + 1) ++ laid layout (level + 1) item ++ laidItems layout level items

def laidMembers (layout : Layout) (level : Nat) : List (String × Json) → List Char
  | [] => layout.line level ++ ['}']
  | (key, value) :: members =>
      ',' :: layout.line (level + 1) ++ quoted key ++ ':' :: layout.gap ++
        laid layout (level + 1) value ++ laidMembers layout level members

end

mutual

theorem compact_laid (value : Json) (level : Nat) : compact value = laid .dense level value := by
  match value with
  | null | bool _ | natural _ | string _ | foreign | array [] | object [] => rfl
  | array (item :: items) =>
      rw [compact, laid, compact_laid item (level + 1), compact_items_laid items level]
      rfl
  | object ((key, value) :: members) =>
      rw [compact, laid, compact_laid value (level + 1), compact_members_laid members level]
      simp [Layout.dense]

theorem compact_items_laid (items : List Json) (level : Nat) :
    compactItems items = laidItems .dense level items := by
  match items with
  | [] => rfl
  | item :: items =>
      rw [compactItems, laidItems, compact_laid item (level + 1), compact_items_laid items level]
      rfl

theorem compact_members_laid (members : List (String × Json)) (level : Nat) :
    compactMembers members = laidMembers .dense level members := by
  match members with
  | [] => rfl
  | (key, value) :: members =>
      rw [compactMembers, laidMembers, compact_laid value (level + 1),
        compact_members_laid members level]
      simp [Layout.dense]

end

mutual

theorem indented_laid (value : Json) (level : Nat) :
    indented level value = laid .airy level value := by
  match value with
  | null | bool _ | natural _ | string _ | foreign | array [] | object [] => rfl
  | array (item :: items) =>
      rw [indented, laid, indented_laid item (level + 1), indented_items_laid items level]
      rfl
  | object ((key, value) :: members) =>
      rw [indented, laid, indented_laid value (level + 1), indented_members_laid members level]
      simp [Layout.airy]

theorem indented_items_laid (items : List Json) (level : Nat) :
    indentedItems level items = laidItems .airy level items := by
  match items with
  | [] => rfl
  | item :: items =>
      rw [indentedItems, laidItems, indented_laid item (level + 1), indented_items_laid items level]
      rfl

theorem indented_members_laid (members : List (String × Json)) (level : Nat) :
    indentedMembers level members = laidMembers .airy level members := by
  match members with
  | [] => rfl
  | (key, value) :: members =>
      rw [indentedMembers, laidMembers, indented_laid value (level + 1),
        indented_members_laid members level]
      simp [Layout.airy]

end

theorem blank_delimited (spaces rest : List Char) (blank : ∀ letter ∈ spaces, isSpace letter = true)
    (delimited : Delimited rest) : Delimited (spaces ++ rest) := by
  cases spaces with
  | nil => exact delimited
  | cons letter more =>
      have here := blank letter List.mem_cons_self
      simp only [List.cons_append, Delimited, endsWord, here, Bool.true_or]

section

variable (layout : Layout)

theorem spells_line (level : Nat) (tokens : List Token) (rest : List Char)
    (spells : Spells tokens rest) : Spells tokens (layout.line level ++ rest) :=
  spells_spaces tokens (layout.line level) rest (layout.lineBlank level) spells

theorem items_delimited (level : Nat) (items : List Json) (rest : List Char) :
    Delimited (laidItems layout level items ++ rest) := by
  cases items with
  | nil =>
      rw [laidItems, List.append_assoc]
      exact blank_delimited _ _ (layout.lineBlank level) rfl
  | cons item items => rfl

theorem members_delimited (level : Nat) (members : List (String × Json)) (rest : List Char) :
    Delimited (laidMembers layout level members ++ rest) := by
  cases members with
  | nil =>
      rw [laidMembers, List.append_assoc]
      exact blank_delimited _ _ (layout.lineBlank level) rfl
  | cons member members => rfl

/-- A key is spelled with its colon and the white space behind that. -/
theorem spells_key (key : String) (more : List Token) (rest : List Char)
    (spells : Spells more rest) :
    Spells (.string (some key) :: .colon :: more) (quoted key ++ ':' :: (layout.gap ++ rest)) :=
  spells_quoted key _ _ (.mark rfl (spells_spaces more layout.gap rest layout.gapBlank spells))

mutual

theorem laid_spelled (value : Json) (level : Nat) (more : List Token) (rest : List Char)
    (delimited : Delimited rest) (spells : Spells more rest) :
    Spells (tokens value ++ more) (laid layout level value ++ rest) := by
  match value with
  | null => exact .word .null delimited spells
  | bool value => exact .word (.bool value) delimited spells
  | natural value => exact .word (literal_natural value) delimited spells
  | string value => exact spells_quoted value _ _ spells
  | array [] => exact .mark rfl (.mark rfl spells)
  | array (item :: items) =>
      have others := items_spelled items level more rest spells
      have first := laid_spelled item (level + 1) _ _ (items_delimited layout level items rest)
        others
      simp only [tokens, laid, List.cons_append, List.append_assoc]
      exact .mark rfl (spells_line layout (level + 1) _ _ first)
  | object [] => exact .mark rfl (.mark rfl spells)
  | object ((key, value) :: members) =>
      have others := members_spelled members level more rest spells
      have first := laid_spelled value (level + 1) _ _ (members_delimited layout level members rest)
        others
      simp only [tokens, laid, List.cons_append, List.append_assoc]
      exact .mark rfl (spells_line layout (level + 1) _ _ (spells_key layout key _ _ first))
  | foreign => exact .word literal_foreign delimited spells

theorem items_spelled (items : List Json) (level : Nat) (more : List Token) (rest : List Char)
    (spells : Spells more rest) :
    Spells (itemTokens items ++ more) (laidItems layout level items ++ rest) := by
  match items with
  | [] =>
      simp only [itemTokens, laidItems, List.append_assoc]
      exact spells_line layout level _ _ (.mark rfl spells)
  | item :: items =>
      have others := items_spelled items level more rest spells
      have first := laid_spelled item (level + 1) _ _ (items_delimited layout level items rest)
        others
      simp only [itemTokens, laidItems, List.cons_append, List.append_assoc]
      exact .mark rfl (spells_line layout (level + 1) _ _ first)

theorem members_spelled (members : List (String × Json)) (level : Nat) (more : List Token)
    (rest : List Char) (spells : Spells more rest) :
    Spells (memberTokens members ++ more) (laidMembers layout level members ++ rest) := by
  match members with
  | [] =>
      simp only [memberTokens, laidMembers, List.append_assoc]
      exact spells_line layout level _ _ (.mark rfl spells)
  | (key, value) :: members =>
      have others := members_spelled members level more rest spells
      have first := laid_spelled value (level + 1) _ _ (members_delimited layout level members rest)
        others
      simp only [memberTokens, laidMembers, List.cons_append, List.append_assoc]
      exact .mark rfl (spells_line layout (level + 1) _ _ (spells_key layout key _ _ first))

end

theorem read_laid (value : Json) (spaces : List Char)
    (blank : ∀ letter ∈ spaces, isSpace letter = true) :
    read? (.ofList (laid layout 0 value ++ spaces)) = some value := by
  have behind : Spells [] (spaces ++ []) := spells_spaces [] spaces [] blank .done
  have delimited : Delimited (spaces ++ []) := blank_delimited spaces [] blank trivial
  rw [List.append_nil] at behind delimited
  have spells := laid_spelled layout value 0 [] spaces delimited behind
  rw [List.append_nil] at spells
  refine read_spelled value _ ?_
  rw [String.toList_ofList]
  exact spells

end

/-- A compact text is read as the value that it was written for. -/
theorem read_compact (value : Json) : read? value.toCompact = some value := by
  have read := read_laid .dense value [] nofun
  rwa [List.append_nil, ← compact_laid value 0] at read

theorem read_indented (value : Json) : read? value.toIndented = some value := by
  have read := read_laid .airy value [] nofun
  rwa [List.append_nil, ← indented_laid value 0] at read

/-- An indented text, on a line of its own, is read as the value that it was written for. -/
theorem read_indented_line (value : Json) : read? (value.toIndented ++ "\n") = some value := by
  have read := read_laid .airy value ['\n'] (List.forall_mem_singleton.mpr rfl)
  rwa [← indented_laid value 0, String.ofList_append] at read

end Wiring.Json
