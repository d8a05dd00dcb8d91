import Wiring.LetterCase
import Wiring.Topology

/-!
Names of new relationships. A relationship of type `a.b.HostedOn` to `server` is
called `hostedOnServer` unless its author says otherwise.
-/

namespace Wiring

def dotted : List Char → List (List Char)
  | [] => [[]]
  | letter :: rest =>
      if letter = '.' then [] :: dotted rest
      else
        match dotted rest with
        | [] => [[letter]]
        | piece :: pieces => (letter :: piece) :: pieces

/-- The last piece of an identifier of exactly three, else the whole identifier. -/
def simpleName (id : String) : String :=
  match dotted id.toList with
  | [_, _, last] => .ofList last
  | _ => id

def mapFirst (change : Char → List Char) (text : String) : String :=
  match text.toList with
  | [] => ""
  | first :: rest => .ofList (change first ++ rest)

def lowerFirst (text : String) : String :=
  mapFirst LetterCase.lower text

def upperFirst (text : String) : String :=
  mapFirst LetterCase.upper text

def defaultName (type : RelationshipType) (target : String) : String :=
  lowerFirst (simpleName type.elementId) ++ upperFirst target

end Wiring
