/-!
The characters of a YAML text and the places they stand at. Three of the five
line breaks of YAML are read as a line feed wherever they stand, so the text is
brought to that form first; the line and paragraph separators keep their own.
-/

namespace Wiring.Yaml

def isAllowed (letter : Char) : Bool :=
  let code := letter.toNat
  code == 0x09 || code == 0x0A || code == 0x0D || (0x20 ≤ code && code ≤ 0x7E) || code == 0x85 ||
    (0xA0 ≤ code && code ≤ 0xD7FF) || (0xE000 ≤ code && code ≤ 0xFFFD) || 0x10000 ≤ code

/-- A return with its line feed, a return alone and a next-line character become a line feed. -/
def joinBreaks : List Char → List Char
  | [] => []
  | '\r' :: '\n' :: rest => '\n' :: joinBreaks rest
  | letter :: rest =>
      (if letter = '\r' ∨ letter = '\x85' then '\n' else letter) :: joinBreaks rest

def isBreak (letter : Char) : Bool :=
  letter == '\n' || letter == '\u2028' || letter == '\u2029'

def isBlank (letter : Char) : Bool := letter == ' ' || letter == '\t'

def isWordLetter (letter : Char) : Bool := letter.isAlphanum || letter == '-' || letter == '_'

def endsWord : List Char → Bool
  | [] => true
  | letter :: _ => isBlank letter || isBreak letter

def isDocumentMark : List Char → Bool
  | '-' :: '-' :: '-' :: rest => endsWord rest
  | '.' :: '.' :: '.' :: rest => endsWord rest
  | _ => false

structure Mark where
  line : Nat := 0
  column : Nat := 0
  /-- How many octets of UTF-8 stand before it on its line. -/
  octets : Nat := 0

def Mark.past (mark : Mark) (letter : Char) : Mark :=
  { mark with column := mark.column + 1, octets := mark.octets + letter.utf8Size }

def Mark.down (mark : Mark) : Mark := { line := mark.line + 1 }

structure Rest where
  letters : List Char
  mark : Mark := {}

namespace Rest

def skip (rest : Rest) (count : Nat) : Rest :=
  ⟨rest.letters.drop count, (rest.letters.take count).foldl Mark.past rest.mark⟩

def span (rest : Rest) (keep : Char → Bool) : List Char × Rest :=
  let taken := rest.letters.takeWhile keep
  (taken, rest.skip taken.length)

def skipBlanks (rest : Rest) : Rest := (rest.span isBlank).2

def endOfLine? (rest : Rest) : Option Rest :=
  let past := rest.skipBlanks
  let past := match past.letters with
    | '#' :: _ => (past.span fun letter => !isBreak letter).2
    | _ => past
  match past.letters with
  | [] => some past
  | letter :: letters => if isBreak letter then some ⟨letters, past.mark.down⟩ else none

end Rest

structure Gap where
  /-- Blanks, last first, as long as the line goes on. -/
  blanks : List Char := []
  broken : Bool := false
  /-- The first line break, unless it was escaped. -/
  firstBreak : Option Char := none
  /-- The breaks of the empty lines after it, last first. -/
  moreBreaks : List Char := []

namespace Gap

def isEmpty (gap : Gap) : Bool := gap.blanks.isEmpty && !gap.broken

def blank (gap : Gap) (letter : Char) : Gap :=
  if gap.broken then gap else { gap with blanks := letter :: gap.blanks }

def lineBreak (gap : Gap) (letter : Char) : Gap :=
  if gap.broken then { gap with moreBreaks := letter :: gap.moreBreaks }
  else { broken := true, firstBreak := some letter }

def escapedBreak : Gap := { broken := true }

/-- What the gap is read as, last first: a single line feed folds into a space. -/
def folded (gap : Gap) : List Char :=
  if gap.broken then
    match gap.firstBreak with
    | some '\n' => if gap.moreBreaks.isEmpty then [' '] else gap.moreBreaks
    | some letter => gap.moreBreaks ++ [letter]
    | none => gap.moreBreaks
  else gap.blanks

end Gap

end Wiring.Yaml
