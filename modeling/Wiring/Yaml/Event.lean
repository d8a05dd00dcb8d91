import Wiring.Yaml.Token

/-!
The events of a YAML stream that holds one document: its nodes as they begin and
end. A reader keeps a stack of what is still to come and answers from the next
tokens.
-/

namespace Wiring.Yaml

inductive Event where
  | alias (name : String)
  | scalar (anchor tag : Option String) (text : String) (style : Style)
  | sequenceStart (anchor tag : Option String)
  | sequenceEnd
  | mappingStart (anchor tag : Option String)
  | mappingEnd
  deriving DecidableEq, Repr

namespace Event

def empty : Event := .scalar none none "" .plain

inductive Goal where
  /-- A node; in a block also one that opens a block, after a key also an unindented sequence. -/
  | node (inBlock unindented : Bool)
  | blockEntry
  | unindentedEntry
  | blockKey
  | blockValue
  | flowEntry (first : Bool)
  | pairKey
  | pairValue
  | pairEnd
  | flowKey (first : Bool)
  | flowValue (missing : Bool)

abbrev Step := List Event × List Goal × List Token

abbrev Handles := List (String × String)

structure Properties where
  anchor : Option String := none
  tag : Option (String × String) := none

def properties : List Token → Properties × List Token
  | .anchor name :: .tag handle suffix :: rest => (⟨some name, some (handle, suffix)⟩, rest)
  | .tag handle suffix :: .anchor name :: rest => (⟨some name, some (handle, suffix)⟩, rest)
  | .anchor name :: rest => (⟨some name, none⟩, rest)
  | .tag handle suffix :: rest => (⟨none, some (handle, suffix)⟩, rest)
  | rest => ({}, rest)

def fullTag? (handles : Handles) : Option (String × String) → Option (Option String)
  | none => some none
  | some ("", suffix) => some (some suffix)
  | some (handle, suffix) => (handles.lookup handle).map fun leading => some (leading ++ suffix)

def node? (handles : Handles) (inBlock unindented : Bool) (goals : List Goal) :
    List Token → Option Step
  | .alias name :: rest => some ([.alias name], goals, rest)
  | tokens => do
      let (given, rest) := properties tokens
      let tag ← fullTag? handles given.tag
      match rest with
      | .blockEntry :: _ =>
          if unindented then
            return ([.sequenceStart given.anchor tag], .unindentedEntry :: goals, rest)
          else missing given.anchor tag rest
      | .scalar text style :: rest =>
          return ([.scalar given.anchor tag text style], goals, rest)
      | .flowSequenceStart :: rest =>
          return ([.sequenceStart given.anchor tag], .flowEntry true :: goals, rest)
      | .flowMappingStart :: rest =>
          return ([.mappingStart given.anchor tag], .flowKey true :: goals, rest)
      | .blockSequenceStart :: after =>
          if inBlock then return ([.sequenceStart given.anchor tag], .blockEntry :: goals, after)
          else missing given.anchor tag rest
      | .blockMappingStart :: after =>
          if inBlock then return ([.mappingStart given.anchor tag], .blockKey :: goals, after)
          else missing given.anchor tag rest
      | rest => missing given.anchor tag rest
where
  /-- Nothing may stand for a node only behind an anchor or a tag. -/
  missing (anchor tag : Option String) (rest : List Token) : Option Step :=
    if anchor.isSome || tag.isSome then some ([.scalar anchor tag "" .plain], goals, rest)
    else none

def nextIs (wanted : List Token) (tokens : List Token) : Bool :=
  tokens.head?.any wanted.contains

def nodeUnless (ends : List Token) (node after : Goal) (goals : List Goal)
    (tokens : List Token) : Step :=
  if nextIs ends tokens then ([empty], after :: goals, tokens)
  else ([], node :: after :: goals, tokens)

def separated? (first : Bool) : List Token → Option (List Token)
  | .flowEntry :: rest => if first then some (.flowEntry :: rest) else some rest
  | tokens => if first then some tokens else none

def step? (handles : Handles) (goals : List Goal) (tokens : List Token) : Goal → Option Step
  | .node inBlock unindented => node? handles inBlock unindented goals tokens
  | .blockEntry =>
      match tokens with
      | .blockEntry :: rest =>
          some (nodeUnless [.blockEntry, .blockEnd] (.node true false) .blockEntry goals rest)
      | .blockEnd :: rest => some ([.sequenceEnd], goals, rest)
      | _ => none
  | .unindentedEntry =>
      match tokens with
      | .blockEntry :: rest =>
          some (nodeUnless [.blockEntry, .key, .value, .blockEnd] (.node true false)
            .unindentedEntry goals rest)
      | _ => some ([.sequenceEnd], goals, tokens)
  | .blockKey =>
      match tokens with
      | .key :: rest =>
          some (nodeUnless [.key, .value, .blockEnd] (.node true true) .blockValue goals rest)
      | .blockEnd :: rest => some ([.mappingEnd], goals, rest)
      | _ => none
  | .blockValue =>
      match tokens with
      | .value :: rest =>
          some (nodeUnless [.key, .value, .blockEnd] (.node true true) .blockKey goals rest)
      | _ => some ([empty], .blockKey :: goals, tokens)
  | .flowEntry first =>
      match tokens with
      | .flowSequenceEnd :: rest => some ([.sequenceEnd], goals, rest)
      | _ => do
          match ← separated? first tokens with
          | .flowSequenceEnd :: rest => return ([.sequenceEnd], goals, rest)
          | .key :: rest =>
              return ([.mappingStart none none], .pairKey :: .flowEntry false :: goals, rest)
          | rest => return ([], .node false false :: .flowEntry false :: goals, rest)
  | .pairKey =>
      -- The token that shows the key to be missing is passed over with it.
      if nextIs [.value, .flowEntry, .flowSequenceEnd] tokens then
        some ([empty], .pairValue :: goals, tokens.tail)
      else some ([], .node false false :: .pairValue :: goals, tokens)
  | .pairValue =>
      match tokens with
      | .value :: rest =>
          some (nodeUnless [.flowEntry, .flowSequenceEnd] (.node false false) .pairEnd goals rest)
      | _ => some ([empty], .pairEnd :: goals, tokens)
  | .pairEnd => some ([.mappingEnd], goals, tokens)
  | .flowKey first =>
      match tokens with
      | .flowMappingEnd :: rest => some ([.mappingEnd], goals, rest)
      | _ => do
          match ← separated? first tokens with
          | .flowMappingEnd :: rest => return ([.mappingEnd], goals, rest)
          | .key :: rest =>
              return nodeUnless [.value, .flowEntry, .flowMappingEnd] (.node false false)
                (.flowValue false) goals rest
          | rest => return ([], .node false false :: .flowValue true :: goals, rest)
  | .flowValue true => some ([empty], .flowKey false :: goals, tokens)
  | .flowValue false =>
      match tokens with
      | .value :: rest =>
          some (nodeUnless [.flowEntry, .flowMappingEnd] (.node false false) (.flowKey false)
            goals rest)
      | _ => some ([empty], .flowKey false :: goals, tokens)

def run? (handles : Handles) : Nat → List Event → List Goal → List Token →
    Option (List Event × List Token)
  | _, events, [], tokens => some (events, tokens)
  | 0, _, _ :: _, _ => none
  | fuel + 1, events, goal :: goals, tokens => do
      let (next, goals, rest) ← step? handles goals tokens goal
      run? handles fuel (next.reverse ++ events) goals rest

/-- The handles known in a document, from its directives. At most one of them is a version, and
no handle is defined twice. -/
def directives? (versioned : Bool) (handles : Handles) :
    List Token → Option (Handles × List Token)
  | .version major minor :: rest =>
      if !versioned && major == 1 && (minor == 1 || minor == 2) then directives? true handles rest
      else none
  | .tagHandle handle leading :: rest =>
      if (handles.lookup handle).isSome then none
      else directives? versioned ((handle, leading) :: handles) rest
  | rest => some (handles, rest)

def standardHandles : Handles := [("!", "!"), ("!!", "tag:yaml.org,2002:")]

def markedDocument? (tokens : List Token) : Option (Handles × List Token) := do
  let (handles, rest) ← directives? false [] tokens
  match rest with
  | .documentStart :: rest => return (handles ++ standardHandles, rest)
  | _ => none

def startsDocument : Token → Bool
  | .version .. | .tagHandle .. | .documentStart => true
  | _ => false

def endsContent : Token → Bool
  | .version .. | .tagHandle .. | .documentStart | .documentEnd => true
  | _ => false

/-- The events of the root of a document, and the tokens after it. A token takes three steps at
most. -/
def root? (handles : Handles) (tokens : List Token) : Option (List Event × List Token) := do
  let (events, rest) ← run? handles (4 * tokens.length + 4) [] [.node true false] tokens
  return (events.reverse, rest)

def ofTokens? (tokens : List Token) : Option (List Event) := do
  let (events, rest) ←
    if tokens.isEmpty then none
    else if tokens.head?.any startsDocument then
      match markedDocument? tokens with
      | none => none
      | some (handles, content) =>
          if content.head?.all endsContent then some ([empty], content)
          else root? handles content
    else root? standardHandles tokens
  if rest.all (· == .documentEnd) then return events else none

end Event

end Wiring.Yaml
