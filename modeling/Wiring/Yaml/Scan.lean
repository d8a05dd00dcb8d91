import Wiring.Yaml.Scalar
import Wiring.Yaml.Tag

/-!
The tokens of a text. Blocks are told by indentation, so tokens are made up where
a block begins and ends. A key need not be marked before it is read: whatever may
turn out to be one is remembered, and the colon after it puts the mark in front.
-/

namespace Wiring.Yaml

structure PossibleKey where
  /-- Nothing but a key can stand there. -/
  required : Bool
  /-- How many tokens stand before it. -/
  position : Nat
  mark : Mark

structure Scan where
  rest : Rest
  tokens : Array Token := #[]
  /-- The left margins of the open blocks, the innermost first: one more than their columns. -/
  margins : List Nat := []
  key : Option PossibleKey := none
  /-- The possible keys outside each open flow, the innermost first. -/
  outerKeys : List (Option PossibleKey) := []
  keyAllowed : Bool := true

namespace Scan

def inFlow (scan : Scan) : Bool := !scan.outerKeys.isEmpty

def margin (scan : Scan) : Nat := scan.margins.headD 0

def emit (scan : Scan) (token : Token) : Scan :=
  { scan with tokens := scan.tokens.push token }

def dropKey? (scan : Scan) : Option Scan :=
  if scan.key.any PossibleKey.required then none else some { scan with key := none }

def saveKey? (scan : Scan) : Option Scan :=
  if scan.keyAllowed then do
    let scan ← scan.dropKey?
    let mark := scan.rest.mark
    return { scan with
      key := some
        { required := !scan.inFlow && scan.margin == mark.column + 1
          position := scan.tokens.size
          mark } }
  else some scan

/-- A key stands on one line and has at most 1024 octets. -/
def stale (mark : Mark) (key : PossibleKey) : Bool :=
  key.mark.line < mark.line || key.mark.octets + 1024 < mark.octets

/-- Gives up a possible key that has become too long. Keys outside a flow wait until it ends. -/
def dropStaleKey? (scan : Scan) : Option Scan :=
  if scan.key.any (stale scan.rest.mark) then scan.dropKey? else some scan

def openBlock (scan : Scan) (column position : Nat) (token : Token) : Scan :=
  if !scan.inFlow && scan.margin ≤ column then
    { scan with
      margins := (column + 1) :: scan.margins
      tokens := scan.tokens.insertIdxIfInBounds position token }
  else scan

def closeBlocks (scan : Scan) (limit : Nat) : Scan :=
  if scan.inFlow then scan
  else
    let closed := (scan.margins.takeWhile (limit < ·)).length
    { scan with
      margins := scan.margins.drop closed
      tokens := scan.tokens ++ Array.replicate closed Token.blockEnd }

def token (scan : Scan) (width : Nat) (token : Token) : Scan :=
  { scan.emit token with rest := scan.rest.skip width }

def blanks (flow : Bool) (comment keyAllowed : Bool) : List Char → Mark → Bool × Rest
  | [], mark => (keyAllowed, ⟨[], mark⟩)
  | letter :: rest, mark =>
      if isBreak letter then blanks flow false (keyAllowed || !flow) rest mark.down
      -- A byte order mark is passed over at the beginning of any line.
      else if comment || letter == ' ' || (letter == '\ufeff' && mark.column == 0) ||
          (letter == '\t' && (flow || !keyAllowed)) then
        blanks flow comment keyAllowed rest (mark.past letter)
      else if letter == '#' then blanks flow true keyAllowed rest (mark.past letter)
      else (keyAllowed, ⟨letter :: rest, mark⟩)

def advance (scan : Scan) : Scan :=
  let (keyAllowed, rest) :=
    blanks scan.inFlow false scan.keyAllowed scan.rest.letters scan.rest.mark
  { scan with keyAllowed, rest }

def endOfStream? (scan : Scan) : Option Scan := do
  return { ← (scan.closeBlocks 0).dropKey? with keyAllowed := false }

def directive? (scan : Scan) : Option Scan := do
  let scan ← (scan.closeBlocks 0).dropKey?
  let (token, rest) ← Yaml.directive? (scan.rest.skip 1)
  return { scan.emit token with keyAllowed := false, rest }

def documentMark? (scan : Scan) (token : Token) : Option Scan := do
  return { (← (scan.closeBlocks 0).dropKey?).token 3 token with keyAllowed := false }

def flowStart? (scan : Scan) (token : Token) : Option Scan := do
  let scan ← scan.saveKey?
  let opened := { scan with
    key := none, outerKeys := scan.key :: scan.outerKeys, keyAllowed := true }
  return opened.token 1 token

def flowEnd? (scan : Scan) (token : Token) : Option Scan := do
  let scan := { (← scan.dropKey?).token 1 token with keyAllowed := false }
  return match scan.outerKeys with
    -- Nothing is open: the token stays, for the events to refuse.
    | [] => scan
    | key :: outerKeys => { scan with key, outerKeys }

def flowEntry? (scan : Scan) : Option Scan := do
  return { (← scan.dropKey?).token 1 .flowEntry with keyAllowed := true }

def opening? (scan : Scan) (start : Token) : Option Scan :=
  if scan.inFlow then some scan
  else if scan.keyAllowed then
    some (scan.openBlock scan.rest.mark.column scan.tokens.size start)
  else none

def blockEntry? (scan : Scan) : Option Scan := do
  let scan ← (← scan.opening? .blockSequenceStart).dropKey?
  return { scan.token 1 .blockEntry with keyAllowed := true }

def key? (scan : Scan) : Option Scan := do
  let scan ← (← scan.opening? .blockMappingStart).dropKey?
  return { scan with keyAllowed := !scan.inFlow }.token 1 .key

def value? (scan : Scan) : Option Scan :=
  match scan.key with
  | some key =>
      -- The mark goes in first, so the block that the key opens stands in front of it.
      let marked := { scan with
        tokens := scan.tokens.insertIdxIfInBounds key.position .key
        key := none
        keyAllowed := false }
      some ((marked.openBlock key.mark.column key.position .blockMappingStart).token 1 .value)
  | none => do
      let scan ← scan.opening? .blockMappingStart
      return { scan with keyAllowed := !scan.inFlow }.token 1 .value

def keyStart? (scan : Scan) (width : Nat) (read? : Rest → Option (Token × Rest)) :
    Option Scan := do
  let scan ← scan.saveKey?
  let (token, rest) ← read? (scan.rest.skip width)
  return { scan.emit token with keyAllowed := false, rest }

def quoted? (style : Style) (rest : Rest) : Option (Token × Rest) := do
  let (text, past) ←
    if style = .singleQuoted then singleQuoted? [] {} rest.letters rest.mark
    else doubleQuoted? [] {} .none rest.letters rest.mark
  return (.scalar text style, past)

def block? (scan : Scan) (style : Style) : Option Scan := do
  let scan ← scan.dropKey?
  let (text, rest) ← blockScalar? (style = .folded) scan.margin (scan.rest.skip 1)
  return { scan.emit (.scalar text style) with keyAllowed := true, rest }

def plain? (scan : Scan) : Option Scan := do
  let scan ← scan.saveKey?
  let (text, broken, rest) ←
    plainScalar? scan.inFlow scan.margin [] {} scan.rest.letters scan.rest.mark
  return { scan.emit (.scalar text .plain) with keyAllowed := broken, rest }

def indicators : List Char :=
  ['-', '?', ':', ',', '[', ']', '{', '}', '#', '&', '*', '!', '|', '>', '\x27', '"', '%', '@',
   '\x60']

/-- A hyphen may begin a plain scalar before anything but a blank, and outside a flow a question
mark or a colon before anything but white space. -/
def startsPlain (flow : Bool) (letter : Char) (rest : List Char) : Bool :=
  !(isBlank letter || isBreak letter || indicators.contains letter) ||
    (letter == '-' && !(rest.head?.any isBlank)) ||
    (!flow && (letter == '?' || letter == ':') && !endsWord rest)

def read? (scan : Scan) (letter : Char) (rest : List Char) : Option Scan :=
  let lineStart := scan.rest.mark.column == 0
  if lineStart && letter == '%' then scan.directive?
  else if lineStart && isDocumentMark (letter :: rest) then
    scan.documentMark? (if letter == '-' then .documentStart else .documentEnd)
  else if letter == '[' then scan.flowStart? .flowSequenceStart
  else if letter == '{' then scan.flowStart? .flowMappingStart
  else if letter == ']' then scan.flowEnd? .flowSequenceEnd
  else if letter == '}' then scan.flowEnd? .flowMappingEnd
  else if letter == ',' then scan.flowEntry?
  else if letter == '-' && endsWord rest then scan.blockEntry?
  else if letter == '?' && (scan.inFlow || endsWord rest) then scan.key?
  else if letter == ':' && (scan.inFlow || endsWord rest) then scan.value?
  else if letter == '*' then
    scan.keyStart? 1 fun rest => (anchorName? rest).map fun (name, past) => (.alias name, past)
  else if letter == '&' then
    scan.keyStart? 1 fun rest => (anchorName? rest).map fun (name, past) => (.anchor name, past)
  else if letter == '!' then scan.keyStart? 1 (tag? scan.inFlow)
  else if letter == '|' && !scan.inFlow then scan.block? .literal
  else if letter == '>' && !scan.inFlow then scan.block? .folded
  else if letter == '\x27' then scan.keyStart? 1 (quoted? .singleQuoted)
  else if letter == '"' then scan.keyStart? 1 (quoted? .doubleQuoted)
  else if startsPlain scan.inFlow letter rest then scan.plain?
  else none

/-- All tokens. Each one takes a character at least, so their number bounds the run. -/
def run? : Nat → Scan → Option (List Token)
  | 0, _ => none
  | fuel + 1, scan => do
      let scan ← scan.advance.dropStaleKey?
      -- A token left of a block's column is no longer in the block.
      let scan := scan.closeBlocks (scan.rest.mark.column + 1)
      match scan.rest.letters with
      | [] => return (← scan.endOfStream?).tokens.toList
      | letter :: rest => run? fuel (← scan.read? letter rest)

end Scan

def tokens? (text : String) : Option (List Token) :=
  let letters := text.toList
  if letters.all isAllowed then
    let joined := joinBreaks letters
    Scan.run? (joined.length + 1) { rest := { letters := joined } }
  else none

end Wiring.Yaml
