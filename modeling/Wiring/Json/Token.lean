import Wiring.Digits
import Wiring.Json

/-!
The tokens of a JSON text. Reading is a run of an automaton over the characters:
between tokens, inside an unquoted word, inside a quoted text. A text is gathered
as the numbers it is written with, so that an escaped surrogate pair is joined
only when the text is complete.
-/

namespace Wiring.Json

inductive Token where
  | openArray
  | closeArray
  | openObject
  | closeObject
  | comma
  | colon
  | null
  | bool (value : Bool)
  | natural (value : Nat)
  /-- A number with a sign, a fraction or an exponent. -/
  | otherNumber
  /-- A quoted text; nothing if it has half a surrogate pair in it. -/
  | string (value : Option String)
  deriving DecidableEq, Repr

def isSpace (letter : Char) : Bool :=
  letter == ' ' || letter == '\t' || letter == '\n' || letter == '\r'

def punctuation? : Char → Option Token
  | '[' => some .openArray
  | ']' => some .closeArray
  | '{' => some .openObject
  | '}' => some .closeObject
  | ',' => some .comma
  | ':' => some .colon
  | _ => none

def afterDigits? : List Char → Option (List Char)
  | [] => none
  | letter :: rest => if letter.isDigit then some (rest.dropWhile Char.isDigit) else none

def isExponent : List Char → Bool
  | [] => true
  | mark :: rest =>
      (mark == 'e' || mark == 'E') &&
        match rest with
        | '+' :: digits => afterDigits? digits == some []
        | '-' :: digits => afterDigits? digits == some []
        | digits => afterDigits? digits == some []

def isFraction : List Char → Bool
  | '.' :: rest =>
      match afterDigits? rest with
      | some left => isExponent left
      | none => false
  | rest => isExponent rest

def isUnsigned : List Char → Bool
  | '0' :: rest => isFraction rest
  | digits =>
      match afterDigits? digits with
      | some rest => isFraction rest
      | none => false

def isNumber : List Char → Bool
  | '-' :: rest => isUnsigned rest
  | rest => isUnsigned rest

def isNatural (word : List Char) : Bool :=
  word == ['0'] || (!word.isEmpty && word.head? != some '0' && word.all Char.isDigit)

def ofWord? (word : List Char) : Option Token :=
  if word = nullWord then some .null
  else if word = boolWord true then some (.bool true)
  else if word = boolWord false then some (.bool false)
  else if isNatural word then some (.natural (Nat.ofDigitChars 10 word 0))
  else if isNumber word then some .otherNumber
  else none

def isLeading (unit : Nat) : Bool := 0xD800 ≤ unit && unit < 0xDC00

def isTrailing (unit : Nat) : Bool := 0xDC00 ≤ unit && unit < 0xE000

/-- The characters that code units stand for; nothing if a surrogate stands alone. -/
def joinPairs? : List Nat → Option (List Char)
  | [] => some []
  | leading :: trailing :: rest =>
      if isLeading leading then
        if isTrailing trailing then
          (joinPairs? rest).map
            (Char.ofNat (0x10000 + (leading - 0xD800) * 0x400 + (trailing - 0xDC00)) :: ·)
        else none
      else if isTrailing leading then none
      else (joinPairs? (trailing :: rest)).map (Char.ofNat leading :: ·)
  | [unit] => if isLeading unit || isTrailing unit then none else some [Char.ofNat unit]

def escapes : List (Char × Nat) :=
  [('"', 0x22), ('\\', 0x5C), ('/', 0x2F), ('b', 0x08), ('f', 0x0C), ('n', 0x0A), ('r', 0x0D),
   ('t', 0x09)]

inductive Position where
  | between
  | word (letters : List Char)
  | quoted (units : List Nat)
  | escape (units : List Nat)
  | hex (units : List Nat) (digits : Nat) (value : Nat)

structure Scan where
  tokens : List Token
  position : Position

def Scan.start : Scan := ⟨[], .between⟩

def Scan.enter (tokens : List Token) (letter : Char) : Scan :=
  if isSpace letter then ⟨tokens, .between⟩
  else if letter = '"' then ⟨tokens, .quoted []⟩
  else
    match punctuation? letter with
    | some token => ⟨token :: tokens, .between⟩
    | none => ⟨tokens, .word [letter]⟩

def endsWord (letter : Char) : Bool :=
  isSpace letter || letter == '"' || (punctuation? letter).isSome

def Scan.step (scan : Scan) (letter : Char) : Option Scan :=
  match scan.position with
  | .between => some (.enter scan.tokens letter)
  | .word letters =>
      if endsWord letter then do
        return .enter ((← ofWord? letters.reverse) :: scan.tokens) letter
      else some ⟨scan.tokens, .word (letter :: letters)⟩
  | .quoted units =>
      if letter = '"' then
        some ⟨.string ((joinPairs? units.reverse).map .ofList) :: scan.tokens, .between⟩
      else if letter = '\\' then some ⟨scan.tokens, .escape units⟩
      else if letter.toNat < 0x20 then none
      else some ⟨scan.tokens, .quoted (letter.toNat :: units)⟩
  | .escape units =>
      if letter = 'u' then some ⟨scan.tokens, .hex units 0 0⟩
      else (escapes.lookup letter).map fun unit => ⟨scan.tokens, .quoted (unit :: units)⟩
  | .hex units digits value => do
      let next := value * 16 + (← digitValue? 16 letter)
      -- This was the fourth digit.
      if digits = 3 then return ⟨scan.tokens, .quoted (next :: units)⟩
      else return ⟨scan.tokens, .hex units (digits + 1) next⟩

def Scan.finish? (scan : Scan) : Option (List Token) :=
  match scan.position with
  | .between => some scan.tokens.reverse
  | .word letters => (ofWord? letters.reverse).map fun token => (token :: scan.tokens).reverse
  | _ => none

def tokens? (letters : List Char) : Option (List Token) := do
  (← letters.foldlM Scan.step .start).finish?

end Wiring.Json
