import Wiring.Digits
import Wiring.Yaml.Text
import Wiring.Yaml.Token

/-!
Anchors, tags and directives: the words of a YAML stream that say something
about nodes and documents.
-/

namespace Wiring.Yaml

def isAddressLetter (bracketed : Bool) (letter : Char) : Bool :=
  isWordLetter letter ||
    [';', '/', '?', ':', '@', '&', '=', '+', '$', '.', '!', '~', '*', '\x27', '(', ')'].contains
      letter ||
    (bracketed && [',', '[', ']'].contains letter)

def followers? (octet : Nat) : Option Nat :=
  if octet < 0x80 then some 0
  else if 0xC0 ≤ octet ∧ octet < 0xE0 then some 1
  else if 0xE0 ≤ octet ∧ octet < 0xF0 then some 2
  else if 0xF0 ≤ octet ∧ octet < 0xF8 then some 3
  else none

/-- The octets of an address, each as the character with its number. A percent sign escapes one
octet; `left` more of them belong to the character that has begun. -/
def address? (bracketed : Bool) (text : List Char) (left : Nat) :
    List Char → Mark → Option (List Char × Rest)
  | '%' :: high :: low :: rest, mark => do
      let octet := (← digitValue? 16 high) * 16 + (← digitValue? 16 low)
      let left ← match left with
        | 0 => followers? octet
        | left + 1 => if 0x80 ≤ octet ∧ octet < 0xC0 then some left else none
      address? bracketed (.ofNat octet :: text) left rest (['%', high, low].foldl .past mark)
  | letter :: rest, mark =>
      if 0 < left ∨ letter = '%' then none
      else if isAddressLetter bracketed letter then
        address? bracketed (letter :: text) 0 rest (mark.past letter)
      else some (text.reverse, ⟨letter :: rest, mark⟩)
  | [], mark => if 0 < left then none else some (text.reverse, ⟨[], mark⟩)

def Rest.address? (rest : Rest) (bracketed : Bool) : Option (List Char × Rest) :=
  Yaml.address? bracketed [] 0 rest.letters rest.mark

def addressText (address : List Char) : String :=
  .ofList (address.takeWhile fun octet => octet != '\x00')

def Rest.someAddress? (rest : Rest) (bracketed : Bool) : Option (String × Rest) := do
  let (address, past) ← rest.address? bracketed
  if address.isEmpty then none else return (addressText address, past)

def anchorName? (rest : Rest) : Option (String × Rest) :=
  let (name, past) := rest.span isWordLetter
  let ends := endsWord past.letters ||
    (past.letters.head?.any fun letter =>
      ['?', ':', ',', ']', '}', '%', '@', '\x60'].contains letter)
  if !name.isEmpty && ends then some (.ofList name, past) else none

/-- A tag from behind its exclamation mark: an address in angle brackets, a handle with a suffix,
or a suffix of the primary handle. The mark alone is a tag too. -/
def tagToken? (rest : Rest) : Option (Token × Rest) := do
  match rest.letters with
  | '<' :: _ =>
      let (address, past) ← (rest.skip 1).someAddress? true
      match past.letters with
      | '>' :: _ => return (.tag "" address, past.skip 1)
      | _ => none
  | _ =>
      let (word, past) := rest.span isWordLetter
      match past.letters with
      | '!' :: _ =>
          let (suffix, past) ← (past.skip 1).someAddress? false
          return (.tag (.ofList ('!' :: word ++ ['!'])) suffix, past)
      | _ =>
          let (suffix, past) ← past.address? false
          match addressText (word ++ suffix) with
          | "" => return (.tag "" "!", past)
          | whole => return (.tag "!" whole, past)

def tag? (flow : Bool) (rest : Rest) : Option (Token × Rest) := do
  let (token, past) ← tagToken? rest
  if endsWord past.letters || (flow && past.letters.head? == some ',') then return (token, past)
  else none

def versionPart? (rest : Rest) : Option (Nat × Rest) := do
  let (digits, past) := rest.span Char.isDigit
  if 9 < digits.length then none else return (← number? 10 digits, past)

def versionDirective? (rest : Rest) : Option (Token × Rest) := do
  let (major, past) ← versionPart? rest.skipBlanks
  match past.letters with
  | '.' :: _ =>
      let (minor, past) ← versionPart? (past.skip 1)
      return (.version major minor, past)
  | _ => none

def tagHandle? (rest : Rest) : Option (String × Rest) :=
  match rest.letters with
  | '!' :: _ =>
      let (word, past) := (rest.skip 1).span isWordLetter
      match past.letters with
      | '!' :: _ => some (.ofList ('!' :: word ++ ['!']), past.skip 1)
      | _ => if word.isEmpty then some ("!", past) else none
  | _ => none

def tagDirective? (rest : Rest) : Option (Token × Rest) := do
  let (handle, past) ← tagHandle? rest.skipBlanks
  if past.letters.head?.any isBlank then
    let (address, past) ← past.skipBlanks.someAddress? true
    if endsWord past.letters then return (.tagHandle handle address, past) else none
  else none

def directive? (rest : Rest) : Option (Token × Rest) := do
  let (name, past) := rest.span isWordLetter
  if !endsWord past.letters then none
  else
    let (token, past) ←
      match String.ofList name with
      | "YAML" => versionDirective? past
      | "TAG" => tagDirective? past
      | _ => none
    return (token, ← past.endOfLine?)

end Wiring.Yaml
