/-!
JSON values and their texts. A natural number is kept as the number it is, and
members keep their order and their repetitions, as they are written. `foreign`
stands for every other well-formed value, one that no document has a place for:
a number with a sign, a fraction or an exponent, a text with half a surrogate
pair in it, an object with such a text for a key.
-/

namespace Wiring

inductive Json where
  | null
  | bool (value : Bool)
  | natural (value : Nat)
  | string (value : String)
  | array (items : List Json)
  | object (members : List (String × Json))
  | foreign
  deriving Repr, Inhabited

namespace Json

def hexDigit (value : Nat) : Char :=
  if value < 10 then Char.ofNat (0x30 + value) else Char.ofNat (0x61 + (value - 10))

def escaped (letter : Char) : List Char :=
  if letter = '"' then ['\\', '"']
  else if letter = '\\' then ['\\', '\\']
  else if letter = '\x08' then ['\\', 'b']
  else if letter = '\t' then ['\\', 't']
  else if letter = '\n' then ['\\', 'n']
  else if letter = '\x0c' then ['\\', 'f']
  else if letter = '\r' then ['\\', 'r']
  else if letter.toNat < 0x20 then
    ['\\', 'u', '0', '0', hexDigit (letter.toNat / 16), hexDigit (letter.toNat % 16)]
  else [letter]

def quoted (text : String) : List Char :=
  '"' :: text.toList.flatMap escaped ++ ['"']

/-- What `foreign` is written as: the shortest value of its kind. -/
def foreignWord : List Char := ['-', '0']

def boolWord : Bool → List Char
  | true => ['t', 'r', 'u', 'e']
  | false => ['f', 'a', 'l', 's', 'e']

def nullWord : List Char := ['n', 'u', 'l', 'l']

mutual

def compact : Json → List Char
  | null => nullWord
  | bool value => boolWord value
  | natural value => Nat.toDigits 10 value
  | string value => quoted value
  | array [] => ['[', ']']
  | array (item :: items) => '[' :: compact item ++ compactItems items
  | object [] => ['{', '}']
  | object ((key, value) :: members) =>
      '{' :: quoted key ++ ':' :: compact value ++ compactMembers members
  | foreign => foreignWord

def compactItems : List Json → List Char
  | [] => [']']
  | item :: items => ',' :: compact item ++ compactItems items

def compactMembers : List (String × Json) → List Char
  | [] => ['}']
  | (key, value) :: members =>
      ',' :: quoted key ++ ':' :: compact value ++ compactMembers members

end

def newLine (level : Nat) : List Char :=
  '\n' :: List.replicate (2 * level) ' '

mutual

def indented (level : Nat) : Json → List Char
  | null => nullWord
  | bool value => boolWord value
  | natural value => Nat.toDigits 10 value
  | string value => quoted value
  | array [] => ['[', ']']
  | array (item :: items) =>
      '[' :: newLine (level + 1) ++ indented (level + 1) item ++ indentedItems level items
  | object [] => ['{', '}']
  | object ((key, value) :: members) =>
      '{' :: newLine (level + 1) ++ quoted key ++ ':' :: ' ' :: indented (level + 1) value ++
        indentedMembers level members
  | foreign => foreignWord

def indentedItems (level : Nat) : List Json → List Char
  | [] => newLine level ++ [']']
  | item :: items =>
      ',' :: newLine (level + 1) ++ indented (level + 1) item ++ indentedItems level items

def indentedMembers (level : Nat) : List (String × Json) → List Char
  | [] => newLine level ++ ['}']
  | (key, value) :: members =>
      ',' :: newLine (level + 1) ++ quoted key ++ ':' :: ' ' :: indented (level + 1) value ++
        indentedMembers level members

end

def toCompact (value : Json) : String := .ofList (compact value)

def toIndented (value : Json) : String := .ofList (indented 0 value)

end Json

end Wiring
