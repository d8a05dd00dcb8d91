import Wiring.Yaml.Event

/-!
The nodes of a document. An alias keeps the number of the anchor that it names;
what stands under a number is found in the document as a whole, so a node may
hold an alias to itself.
-/

namespace Wiring.Yaml

inductive Node where
  | alias (number : Nat)
  | scalar (anchor : Option Nat) (tag : Option String) (text : String) (style : Style)
  | sequence (anchor : Option Nat) (items : List Node)
  | mapping (anchor : Option Nat) (entries : List (Node × Node))
  deriving Repr, Inhabited

namespace Node

mutual

def anchored : Node → List (Nat × Node)
  | .alias _ => []
  | .scalar anchor tag text style =>
      anchor.toList.map (·, .scalar anchor tag text style)
  | .sequence anchor items =>
      anchor.toList.map (·, .sequence anchor items) ++ anchoredItems items
  | .mapping anchor entries =>
      anchor.toList.map (·, .mapping anchor entries) ++ anchoredEntries entries

def anchoredItems : List Node → List (Nat × Node)
  | [] => []
  | item :: items => anchored item ++ anchoredItems items

def anchoredEntries : List (Node × Node) → List (Nat × Node)
  | [] => []
  | (key, value) :: entries => anchored key ++ (anchored value ++ anchoredEntries entries)

end

inductive Frame where
  | sequence (anchor : Option Nat) (items : List Node)
  | mapping (anchor : Option Nat) (entries : List (Node × Node)) (key : Option Node)

structure Build where
  frames : List Frame := []
  root : Option Node := none
  /-- The numbers of the anchors by name, the latest first. -/
  anchors : List (String × Nat) := []

/-- An anchor has for its number how many names are known before it, its own included if it is
given again. -/
def Build.number (build : Build) : Option String → Option Nat × Build
  | none => (none, build)
  | some name =>
      let number := build.anchors.length
      let others := build.anchors.filter fun entry => entry.1 != name
      (some number, { build with anchors := (name, number) :: others })

def Build.add (build : Build) (node : Node) : Build :=
  match build.frames with
  | [] => { build with root := some node }
  | .sequence anchor items :: outer =>
      { build with frames := .sequence anchor (node :: items) :: outer }
  | .mapping anchor entries none :: outer =>
      { build with frames := .mapping anchor entries (some node) :: outer }
  | .mapping anchor entries (some key) :: outer =>
      { build with frames := .mapping anchor ((key, node) :: entries) none :: outer }

def Build.step (build : Build) : Event → Option Build
  | .alias name => (build.anchors.lookup name).map fun number => build.add (.alias number)
  | .scalar anchor tag text style =>
      let (number, build) := build.number anchor
      some (build.add (.scalar number tag text style))
  | .sequenceStart anchor _ =>
      let (number, build) := build.number anchor
      some { build with frames := .sequence number [] :: build.frames }
  | .mappingStart anchor _ =>
      let (number, build) := build.number anchor
      some { build with frames := .mapping number [] none :: build.frames }
  | .sequenceEnd =>
      match build.frames with
      | .sequence anchor items :: outer =>
          some ({ build with frames := outer }.add (.sequence anchor items.reverse))
      | _ => none
  | .mappingEnd =>
      match build.frames with
      | .mapping anchor entries none :: outer =>
          some ({ build with frames := outer }.add (.mapping anchor entries.reverse))
      | _ => none

def ofEvents? (events : List Event) : Option Node := do
  (← events.foldlM Build.step {}).root

end Node

end Wiring.Yaml
