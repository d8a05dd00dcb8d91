import Wiring.Json.Token

/-!
JSON values from their tokens, by an automaton with a stack of the arrays and
objects that are still open. No depth is too deep.
-/

namespace Wiring.Json

/-- An array or object that is still open; what it holds so far stands last first. -/
inductive Frame where
  | array (items : List Json)
  | object (members : List (Option String × Json)) (key : Option String)

inductive Progress where
  /-- A value must follow. -/
  | value (outer : List Frame)
  /-- An array has just been opened. -/
  | firstItem (outer : List Frame)
  /-- An object has just been opened. -/
  | firstKey (outer : List Frame)
  | key (members : List (Option String × Json)) (outer : List Frame)
  | colon (members : List (Option String × Json)) (name : Option String) (outer : List Frame)
  | complete (done : Json) (outer : List Frame)

def closed (members : List (Option String × Json)) : Json :=
  match members.mapM fun member => member.1.map (·, member.2) with
  | some named => .object named
  | none => .foreign

def Progress.openValue (outer : List Frame) : Token → Option Progress
  | .openArray => some (.firstItem outer)
  | .openObject => some (.firstKey outer)
  | .null => some (.complete .null outer)
  | .bool truth => some (.complete (.bool truth) outer)
  | .natural number => some (.complete (.natural number) outer)
  | .otherNumber => some (.complete .foreign outer)
  | .string (some text) => some (.complete (.string text) outer)
  | .string none => some (.complete .foreign outer)
  | _ => none

def Progress.step : Progress → Token → Option Progress
  | .value outer, token => openValue outer token
  | .firstItem outer, .closeArray => some (.complete (.array []) outer)
  | .firstItem outer, token => openValue (.array [] :: outer) token
  | .firstKey outer, .closeObject => some (.complete (.object []) outer)
  | .firstKey outer, .string name => some (.colon [] name outer)
  | .key members outer, .string name => some (.colon members name outer)
  | .colon members name outer, .colon => some (.value (.object members name :: outer))
  | .complete done (.array items :: outer), .comma =>
      some (.value (.array (done :: items) :: outer))
  | .complete done (.array items :: outer), .closeArray =>
      some (.complete (.array (done :: items).reverse) outer)
  | .complete done (.object members name :: outer), .comma =>
      some (.key ((name, done) :: members) outer)
  | .complete done (.object members name :: outer), .closeObject =>
      some (.complete (closed ((name, done) :: members).reverse) outer)
  | _, _ => none

def Progress.finish? : Progress → Option Json
  | .complete done [] => some done
  | _ => none

def ofTokens? (tokens : List Token) : Option Json := do
  (← tokens.foldlM Progress.step (.value [])).finish?

def read? (text : String) : Option Json := do
  ofTokens? (← tokens? text.toList)

end Wiring.Json
