import Wiring.Document.Form

/-!
Codecs: how a value is written as JSON and read from any form. A record has its
codec from the list of its fields, in the order in which they are written.
-/

namespace Wiring.Document

structure Codec (α : Type) where
  write : α → Json
  read : {m : Type → Type} → [Monad m] → [MonadLiftT Option m] → {ν : Type} → [Form m ν] → ν → m α

namespace Codec

def text : Codec String where
  write := .string
  read := Form.text

def bound : Codec UInt64 where
  write value := .natural value.toNat
  read := Form.bound

def flag : Codec Bool where
  write := .bool
  read := Form.flag

def optional (codec : Codec α) : Codec (Option α) where
  write value := (value.map codec.write).getD .null
  read value := do
    match ← Form.present value with
    | none => return none
    | some held => return some (← codec.read held)

def list (codec : Codec α) : Codec (List α) where
  write values := .array (values.map codec.write)
  read value := do (← Form.items value).mapM codec.read

/-- A name given twice keeps its last value, but each of its values must be readable. -/
def names (codec : Codec α) : Codec (NameMap α) where
  write map := .object (map.entries.map fun entry => (entry.1, codec.write entry.2))
  read value := do
    -- All values are read before any of them gives way to a later one.
    let entries ← (← Form.entries value).mapM fun entry => do
      return (entry.1, ← codec.read entry.2)
    return .ofList entries

end Codec

structure Field (ρ α : Type) where
  name : String
  /-- Another spelling that is read too. -/
  spelling : Option String := none
  codec : Codec α
  get : ρ → α
  /-- The value of a field that is left out, if it may be. -/
  absent : Option α := none
  /-- A field left out of the list form takes its `absent` value too. -/
  trailing : Bool := true
  /-- Values that are not written at all. -/
  omits : α → Bool := fun _ => false

/-- The fields of a record `ρ`; `κ` is what its constructor still has to be applied to. -/
inductive Fields (ρ : Type) : Type → Type 1 where
  | done : Fields ρ ρ
  | more {α κ : Type} (field : Field ρ α) (rest : Fields ρ κ) : Fields ρ (α → κ)

namespace Field

def slot (field : Field ρ α) : Slot where
  names := field.name :: field.spelling.toList
  omissible := field.absent.isSome
  trailing := field.trailing && field.absent.isSome

def member (field : Field ρ α) (record : ρ) : List (String × Json) :=
  let value := field.get record
  if field.omits value then [] else [(field.name, field.codec.write value)]

def read [Monad m] [MonadLiftT Option m] [Form m ν] (field : Field ρ α) : Option ν → m α
  | none => liftM field.absent
  | some value => field.codec.read value

end Field

namespace Fields

def slots : Fields ρ κ → List Slot
  | .done => []
  | .more field rest => field.slot :: slots rest

def members : Fields ρ κ → ρ → List (String × Json)
  | .done, _ => []
  | .more field rest, record => field.member record ++ members rest record

def build [Monad m] [MonadLiftT Option m] [Form m ν] : Fields ρ κ → κ → List (Option ν) → m ρ
  | .done, record, [] => return record
  | .more field rest, make, value :: values => do
      build rest (make (← field.read value)) values
  | _, _, _ => refused

def codec (fields : Fields ρ κ) (make : κ) : Codec ρ where
  write record := .object (fields.members record)
  read value := do fields.build make (← Form.fields fields.slots value)

end Fields

end Wiring.Document
