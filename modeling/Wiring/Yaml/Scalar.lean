import Wiring.Digits
import Wiring.Yaml.Text
import Wiring.Yaml.Token

/-!
Scalars in their four notations: plain, in single or double quotes, and as a
block of indented lines. Every reader goes through the text character by
character and gathers what it reads last first.
-/

namespace Wiring.Yaml

def flowIndicators : List Char := [',', '[', ']', '{', '}']

/-- A plain scalar ends before a colon that ends a word, and in a flow before its indicators. -/
def endsPlain (flow : Bool) (letter : Char) (rest : List Char) : Bool :=
  (letter == ':' && endsWord rest) || (flow && flowIndicators.contains letter)

def clashes (flow : Bool) (letter : Char) : List Char → Bool
  | next :: _ => flow && letter == ':' && (next == '?' || flowIndicators.contains next)
  | [] => false

/-- A plain scalar of a block whose content is indented to `margin`, and whether its last gap
broke the line. -/
def plainScalar? (flow : Bool) (margin : Nat) (text : List Char) (gap : Gap) :
    List Char → Mark → Option (String × Bool × Rest)
  | [], mark => some (.ofList text.reverse, gap.broken, ⟨[], mark⟩)
  | letter :: rest, mark =>
      if isBlank letter then
        -- A tab does not indent.
        if gap.broken && letter == '\t' && mark.column < margin then none
        else plainScalar? flow margin text (gap.blank letter) rest (mark.past letter)
      else if isBreak letter then
        plainScalar? flow margin text (gap.lineBreak letter) rest mark.down
      else if (!gap.isEmpty && (letter == '#' || (!flow && mark.column < margin))) ||
          (mark.column == 0 && isDocumentMark (letter :: rest)) || endsPlain flow letter rest then
        some (.ofList text.reverse, gap.broken, ⟨letter :: rest, mark⟩)
      else if clashes flow letter rest then none
      else plainScalar? flow margin (letter :: (gap.folded ++ text)) {} rest (mark.past letter)

def singleQuoted? (text : List Char) (gap : Gap) : List Char → Mark → Option (String × Rest)
  | [], _ => none
  | '\x27' :: '\x27' :: rest, mark =>
      singleQuoted? ('\x27' :: (gap.folded ++ text)) {} rest ((mark.past '\x27').past '\x27')
  | letter :: rest, mark =>
      if isBlank letter then singleQuoted? text (gap.blank letter) rest (mark.past letter)
      else if isBreak letter then singleQuoted? text (gap.lineBreak letter) rest mark.down
      else if mark.column == 0 && isDocumentMark (letter :: rest) then none
      else if letter == '\x27' then
        some (.ofList (gap.folded ++ text).reverse, ⟨rest, mark.past letter⟩)
      else singleQuoted? (letter :: (gap.folded ++ text)) {} rest (mark.past letter)

def escapes : List (Char × Char) :=
  [('0', '\x00'), ('a', '\x07'), ('b', '\x08'), ('t', '\t'), ('\t', '\t'), ('n', '\n'),
   ('v', '\x0b'), ('f', '\x0c'), ('r', '\r'), ('e', '\x1b'), (' ', ' '), ('"', '"'), ('/', '/'),
   ('\\', '\\'), ('N', '\x85'), ('_', '\xa0'), ('L', '\u2028'), ('P', '\u2029')]

def codeLengths : List (Char × Nat) := [('x', 2), ('u', 4), ('U', 8)]

inductive Escape where
  | none
  /-- A backslash has been read. -/
  | letter
  /-- `left + 1` more digits of a code are to come. -/
  | code (left value : Nat)

def doubleQuoted? (text : List Char) (gap : Gap) :
    Escape → List Char → Mark → Option (String × Rest)
  | _, [], _ => none
  | .letter, letter :: rest, mark =>
      if isBreak letter then doubleQuoted? text .escapedBreak .none rest mark.down
      else
        match codeLengths.lookup letter with
        | some length => doubleQuoted? text {} (.code (length - 1) 0) rest (mark.past letter)
        | none => do
            doubleQuoted? ((← escapes.lookup letter) :: text) {} .none rest (mark.past letter)
  | .code left value, letter :: rest, mark => do
      let next := value * 16 + (← digitValue? 16 letter)
      match left with
      | left + 1 => doubleQuoted? text {} (.code left next) rest (mark.past letter)
      | 0 =>
          if next.isValidChar then
            doubleQuoted? (Char.ofNat next :: text) {} .none rest (mark.past letter)
          else none
  | .none, letter :: rest, mark =>
      if isBlank letter then doubleQuoted? text (gap.blank letter) .none rest (mark.past letter)
      else if isBreak letter then doubleQuoted? text (gap.lineBreak letter) .none rest mark.down
      else if mark.column == 0 && isDocumentMark (letter :: rest) then none
      else if letter == '"' then
        some (.ofList (gap.folded ++ text).reverse, ⟨rest, mark.past letter⟩)
      else if letter == '\\' then
        doubleQuoted? (gap.folded ++ text) {} .letter rest (mark.past letter)
      else doubleQuoted? (letter :: (gap.folded ++ text)) {} .none rest (mark.past letter)

inductive Chomping where
  | strip
  | clip
  | keep
  deriving DecidableEq

structure Block where
  folded : Bool
  /-- The column its lines begin at; 0 until its first line tells. -/
  indent : Nat
  text : List Char := []
  inLine : Bool := false
  /-- The break that ended the last line with something on it. -/
  lineBreak : Option Char := none
  /-- The breaks of the empty lines since then, last first. -/
  emptyLines : List Char := []
  /-- The last line began with a blank, so it is not folded. -/
  blankStart : Bool := false
  /-- The widest indentation of the empty lines before the first line. -/
  widest : Nat := 0

def Block.indents (block : Block) (column : Nat) : Bool :=
  block.indent == 0 || column < block.indent

def Block.startLine (block : Block) (letter : Char) : Block :=
  let joined :=
    if block.folded && block.lineBreak == some '\n' && !block.blankStart && !isBlank letter then
      if block.emptyLines.isEmpty then ' ' :: block.text else block.text
    else block.lineBreak.toList ++ block.text
  { block with
    text := letter :: (block.emptyLines ++ joined)
    inLine := true
    lineBreak := none
    emptyLines := []
    blankStart := isBlank letter }

def blockLines? (margin : Nat) : Block → List Char → Mark → Option (Block × Rest)
  | block, [], mark => some (block, ⟨[], mark⟩)
  | block, letter :: rest, mark =>
      if block.inLine then
        if isBreak letter then
          blockLines? margin { block with inLine := false, lineBreak := some letter } rest mark.down
        else blockLines? margin { block with text := letter :: block.text } rest (mark.past letter)
      else if letter == ' ' && block.indents mark.column then
        blockLines? margin block rest (mark.past letter)
      else if letter == '\t' && block.indents mark.column then none
      else
        let widest := max block.widest mark.column
        if isBreak letter then
          blockLines? margin { block with widest, emptyLines := letter :: block.emptyLines } rest
            mark.down
        else
          -- The first line tells the indentation, which is never left of the margin.
          let indent := if block.indent == 0 then max widest (max margin 1) else block.indent
          if mark.column == indent then
            blockLines? margin ({ block with indent }.startLine letter) rest (mark.past letter)
          else some (block, ⟨letter :: rest, mark⟩)

def Block.finish (block : Block) : Chomping → String
  | .strip => .ofList block.text.reverse
  | .clip => .ofList (block.lineBreak.toList ++ block.text).reverse
  | .keep => .ofList (block.emptyLines ++ (block.lineBreak.toList ++ block.text)).reverse

def chomping? (rest : Rest) : Chomping × Rest :=
  match rest.letters with
  | '+' :: _ => (.keep, rest.skip 1)
  | '-' :: _ => (.strip, rest.skip 1)
  | _ => (.clip, rest)

def indentation? (rest : Rest) : Option (Option Nat × Rest) :=
  match rest.letters with
  | letter :: _ =>
      if letter == '0' then none
      else if letter.isDigit then some (some (letter.toNat - 0x30), rest.skip 1)
      else some (none, rest)
  | [] => some (none, rest)

def blockHeader? (rest : Rest) : Option (Chomping × Option Nat × Rest) := do
  match chomping? rest with
  | (.clip, _) =>
      let (width, past) ← indentation? rest
      match width with
      | none => return (.clip, none, past)
      | some _ =>
          let (chomping, past) := chomping? past
          return (chomping, width, past)
  | (chomping, past) =>
      let (width, past) ← indentation? past
      return (chomping, width, past)

def blockScalar? (folded : Bool) (margin : Nat) (rest : Rest) : Option (String × Rest) := do
  let (chomping, width, past) ← blockHeader? rest
  let past ← past.endOfLine?
  let indent := match width with
    | some width => (margin - 1) + width
    | none => 0
  let (block, past) ← blockLines? margin { folded, indent } past.letters past.mark
  return (block.finish chomping, past)

end Wiring.Yaml
