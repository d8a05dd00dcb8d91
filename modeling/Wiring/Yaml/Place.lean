import Wiring.Document.Codec
import Wiring.Yaml.Node
import Wiring.Yaml.Scan

/-!
Reading documents from YAML. Plain scalars are told apart by the core rules of
YAML 1.2; every scalar is a text where a text is wanted. Records are mappings,
and an empty plain scalar is an empty collection. An alias is read as the node it
names each time it is met, and the aliases met may not be too many.
-/

namespace Wiring.Yaml

structure Place where
  anchored : List (Nat × Node)
  node : Node

namespace Place

/-- Readings follow aliases; the state is how many more of them may be followed. -/
abbrev Reading := StateT Nat Option

def settle (place : Place) : Reading Place :=
  match place.node with
  | .alias number => fun
      | 0 => none
      | left + 1 => (place.anchored.lookup number).map ({ place with node := · }, left)
  | _ => return place

def isNullWord (text : String) : Bool := ["null", "Null", "NULL", "~"].contains text

def flagWord? (text : String) : Option Bool :=
  if ["true", "True", "TRUE"].contains text then some true
  else if ["false", "False", "FALSE"].contains text then some false
  else none

def decimal? (digits : List Char) : Option Nat :=
  match digits with
  | '0' :: _ :: _ => none
  | _ => number? 10 digits

def naturalWord? (text : String) : Option Nat :=
  let unsigned := match text.toList with
    | '+' :: rest => rest
    | letters => letters
  match unsigned with
  | '0' :: 'x' :: digits => number? 16 digits
  | '0' :: 'o' :: digits => number? 8 digits
  | '0' :: 'b' :: digits => number? 2 digits
  | digits => decimal? digits

def nullTag : String := "tag:yaml.org,2002:null"

def boolTag : String := "tag:yaml.org,2002:bool"

def intTag : String := "tag:yaml.org,2002:int"

/-- The text of a scalar that may be read as something else than a text: a plain one, or a literal
one with the tag of what is wanted. -/
def word? (wanted : String) : Node → Option String
  | .scalar _ tag text style =>
      if style = .plain ∨ (style = .literal ∧ tag = some wanted) then some text else none
  | _ => none

def bound? (node : Node) : Option UInt64 := do
  let number ← naturalWord? (← word? intTag node)
  if small : number < UInt64.size then some (.ofNatLT number small) else none

def flag? (node : Node) : Option Bool := do flagWord? (← word? boolTag node)

def isVoid : Node → Bool
  | .scalar _ _ text style => text.isEmpty && style == .plain
  | _ => false

/-- An optional value is absent if it is plain, has no tag and is empty or a null word. What is
marked as null has to be a null word. -/
def isAbsent? : Node → Option Bool
  | .scalar _ tag text .plain =>
      if tag = some nullTag then (if isNullWord text then some true else none)
      else some (tag.isNone && (text.isEmpty || isNullWord text))
  | _ => some false

def text (place : Place) : Reading String := do
  match (← place.settle).node with
  | .scalar _ _ text _ => return text
  | _ => failure

/-- What is present is handed on settled, so its alias is followed only once. -/
def present (place : Place) : Reading (Option Place) := do
  let place ← place.settle
  return if ← isAbsent? place.node then none else some place

def items (place : Place) : Reading (List Place) := do
  match (← place.settle).node with
  | .sequence _ items => return items.map ({ place with node := · })
  | node => if isVoid node then return [] else failure

def entries (place : Place) : Reading (List (String × Place)) := do
  match (← place.settle).node with
  | .mapping _ entries => entries.mapM fun (key, value) => do
      return (← text { place with node := key }, { place with node := value })
  | node => if isVoid node then return [] else failure

instance : Document.Form Reading Place where
  text := text
  bound place := do bound? (← place.settle).node
  flag place := do flag? (← place.settle).node
  present := present
  items := items
  entries := entries
  fields slots place := do Document.byName slots (← place.entries)
  case place := do return (← place.text, none)

end Place

/-- Reads the root of the one document that a text holds. For each event of the document a hundred
aliases may be followed. -/
def decode? (codec : Document.Codec α) (text : String) : Option α := do
  let events ← Event.ofTokens? (← tokens? text)
  let node ← Node.ofEvents? events
  let place : Place := { anchored := node.anchored.reverse, node }
  (codec.read place : Place.Reading α).run' (100 * events.length)

end Wiring.Yaml
