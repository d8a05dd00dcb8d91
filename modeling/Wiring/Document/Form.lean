import Wiring.NameMap
import Wiring.Json.Reader

/-!
Documents are read from more than one notation. `Form` is what a notation has to
say about its values: which of them is a text, a list, a record and so on. The
decoders are written once, over any form and over the monad that its readings
happen in.
-/

namespace Wiring.Document

structure Slot where
  names : List String
  /-- The field may be left out where fields are named. -/
  omissible : Bool
  /-- The field may be left out at the end of a record written as a list. -/
  trailing : Bool

class Form (m : outParam (Type → Type)) (ν : Type) where
  text : ν → m String
  bound : ν → m UInt64
  flag : ν → m Bool
  /-- The value in an optional place, or none there; fails on a malformed absence. -/
  present : ν → m (Option ν)
  items : ν → m (List ν)
  entries : ν → m (List (String × ν))
  /-- For each slot of a record the value of its field, or none where it is left out. -/
  fields : List Slot → ν → m (List (Option ν))
  /-- The name of a case and the value it holds, if any. -/
  case : ν → m (String × Option ν)

def refused [MonadLiftT Option m] : m α := liftM (none : Option α)

def Slot.found (slot : Slot) (members : List (String × ν)) : List ν :=
  members.filterMap fun member => if slot.names.contains member.1 then some member.2 else none

/-- Fields by name, in any order. A field given twice is an error, an unknown one is not. -/
def byName (slots : List Slot) (members : List (String × ν)) : Option (List (Option ν)) :=
  slots.mapM fun slot =>
    match slot.found members with
    | [] => if slot.omissible then some none else none
    | [value] => some (some value)
    | _ => none

def byPosition : List Slot → List ν → Option (List (Option ν))
  | [], [] => some []
  | [], _ :: _ => none
  | slot :: slots, [] =>
      if slot.trailing then (byPosition slots []).map (none :: ·) else none
  | _ :: slots, value :: values => (byPosition slots values).map (some value :: ·)

instance : Form Option Json where
  text value := match value with
    | .string text => some text
    | _ => none
  bound value := match value with
    | .natural number =>
        if small : number < UInt64.size then some (.ofNatLT number small) else none
    | _ => none
  flag value := match value with
    | .bool flag => some flag
    | _ => none
  present value := match value with
    | .null => some none
    | value => some (some value)
  items value := match value with
    | .array items => some items
    | _ => none
  entries value := match value with
    | .object members => some members
    | _ => none
  fields slots value := match value with
    | .object members => byName slots members
    | .array values => byPosition slots values
    | _ => none
  case value := match value with
    | .string name => some (name, none)
    | .object [(name, value)] => some (name, some value)
    | _ => none

end Wiring.Document
