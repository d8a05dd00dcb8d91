import Wiring.Json.Reader
import Wiring.Proofs.Json.Spelling

/-!
The texts of a value. `Tells` has the tokens of a value as the notation defines them,
`Writes` has its texts; whatever is written for a value is read as this value.
-/

namespace Wiring.Json

def following (closing : Token) : List (List Token) → List Token
  | [] => [closing]
  | part :: rest => .comma :: (part ++ following closing rest)

def enclosed (opening closing : Token) : List (List Token) → List Token
  | [] => [opening, closing]
  | first :: rest => opening :: (first ++ following closing rest)

structure Member where
  key : Option String
  value : Json
  tokens : List Token

def Member.keyed (member : Member) : Option String × Json := (member.key, member.value)

def Member.told (member : Member) : List Token := .string member.key :: .colon :: member.tokens

/-- The tokens of a value. Numbers of another kind, texts with half a surrogate pair in them and
objects with such a text for a key are all told as foreign. -/
inductive Tells : Json → List Token → Prop where
  | null : Tells .null [.null]
  | bool (value : Bool) : Tells (.bool value) [.bool value]
  | natural (value : Nat) : Tells (.natural value) [.natural value]
  | otherNumber : Tells .foreign [.otherNumber]
  | string (value : String) : Tells (.string value) [.string (some value)]
  | halfString : Tells .foreign [.string none]
  | array (items : List (Json × List Token)) (each : ∀ item ∈ items, Tells item.1 item.2) :
      Tells (.array (items.map Prod.fst)) (enclosed .openArray .closeArray (items.map Prod.snd))
  | object (members : List Member) (each : ∀ member ∈ members, Tells member.value member.tokens) :
      Tells (closed (members.map Member.keyed))
        (enclosed .openObject .closeObject (members.map Member.told))

theorem mapM_each {ι β γ : Type} (items : List ι) (source : ι → β) (result : ι → γ)
    (read : β → Option γ) (each : ∀ item ∈ items, read (source item) = some (result item)) :
    (items.map source).mapM read = some (items.map result) := by
  induction items with
  | nil => rfl
  | cons item rest ih =>
      have others := ih fun other member => each other (List.mem_cons_of_mem item member)
      rw [List.map_cons, List.mapM_cons, each item List.mem_cons_self, others]
      rfl

def keyed (member : String × Json) : Option String × Json := (some member.1, member.2)

theorem closed_keyed (members : List (String × Json)) :
    closed (members.map keyed) = .object members := by
  have named := mapM_each members keyed id (fun member => member.1.map (·, member.2)) fun _ _ => rfl
  rw [List.map_id] at named
  rw [closed, named]

/-- A text of a value, with white space anywhere between the tokens. -/
def Writes (text : String) (value : Json) : Prop :=
  ∃ tokens, Tells value tokens ∧ Spells tokens text.toList

/-- The reader gets through the tokens of a value, whatever is still open around it. -/
def Reads (value : Json) (tokens : List Token) : Prop :=
  ∀ outer, tokens.foldlM Progress.step (.value outer) = some (.complete value outer)

theorem reads_append (value : Json) (tokens rest : List Token) (reads : Reads value tokens)
    (outer : List Frame) :
    (tokens ++ rest).foldlM Progress.step (.value outer) =
      rest.foldlM Progress.step (.complete value outer) :=
  fold_append _ _ _ _ _ (reads outer)

-- What opens an array cannot close it, so its first item is read as any other.
theorem read_first_item (item : Json) (tokens rest : List Token) (tells : Tells item tokens)
    (outer : List Frame) :
    (tokens ++ rest).foldlM Progress.step (.firstItem outer) =
      (tokens ++ rest).foldlM Progress.step (.value (.array [] :: outer)) := by
  cases tells with
  | array items => cases items <;> rfl
  | object members => cases members <;> rfl
  | _ => rfl

theorem read_items (items : List (Json × List Token)) (reads : ∀ item ∈ items, Reads item.1 item.2)
    (done : Json) (gathered : List Json) (outer : List Frame) :
    (following .closeArray (items.map Prod.snd)).foldlM Progress.step
        (.complete done (.array gathered :: outer)) =
      some (.complete (.array ((done :: gathered).reverse ++ items.map Prod.fst)) outer) := by
  induction items generalizing done gathered with
  | nil =>
      rw [List.map_nil, List.map_nil, List.append_nil]
      rfl
  | cons item rest ih =>
      have others := ih (fun other member => reads other (List.mem_cons_of_mem item member)) item.1
        (done :: gathered)
      have separated : Progress.step (.complete done (.array gathered :: outer)) .comma =
        some (.value (.array (done :: gathered) :: outer)) := rfl
      rw [List.map_cons, following, fold_cons _ _ _ _ _ separated,
        reads_append _ _ _ (reads item List.mem_cons_self), others, List.reverse_cons (a := item.1),
        List.append_assoc, List.map_cons]
      rfl

theorem read_array (items : List (Json × List Token))
    (tells : ∀ item ∈ items, Tells item.1 item.2) (reads : ∀ item ∈ items, Reads item.1 item.2) :
    Reads (.array (items.map Prod.fst))
      (enclosed .openArray .closeArray (items.map Prod.snd)) := by
  intro outer
  cases items with
  | nil => rfl
  | cons item rest =>
      have opened : Progress.step (.value outer) .openArray = some (.firstItem outer) := rfl
      have others := read_items rest (fun other member =>
        reads other (List.mem_cons_of_mem item member)) item.1 [] outer
      rw [List.map_cons, List.map_cons, enclosed, fold_cons _ _ _ _ _ opened,
        read_first_item _ _ _ (tells item List.mem_cons_self),
        reads_append _ _ _ (reads item List.mem_cons_self), others]
      rfl

theorem step_member (progress : Progress) (gathered : List (Option String × Json))
    (outer : List Frame) (member : Member) (reads : Reads member.value member.tokens)
    (keyed : progress.step (.string member.key) = some (.colon gathered member.key outer))
    (rest : List Token) :
    (member.told ++ rest).foldlM Progress.step progress =
      rest.foldlM Progress.step
        (.complete member.value (.object gathered member.key :: outer)) := by
  have marked : Progress.step (.colon gathered member.key outer) .colon =
    some (.value (.object gathered member.key :: outer)) := rfl
  rw [Member.told, List.cons_append, List.cons_append, fold_cons _ _ _ _ _ keyed,
    fold_cons _ _ _ _ _ marked, reads_append _ _ _ reads]

theorem read_members (members : List Member)
    (reads : ∀ member ∈ members, Reads member.value member.tokens) (key : Option String)
    (done : Json) (gathered : List (Option String × Json)) (outer : List Frame) :
    (following .closeObject (members.map Member.told)).foldlM Progress.step
        (.complete done (.object gathered key :: outer)) =
      some (.complete (closed (((key, done) :: gathered).reverse ++ members.map Member.keyed))
        outer) := by
  induction members generalizing key done gathered with
  | nil =>
      rw [List.map_nil, List.map_nil, List.append_nil]
      rfl
  | cons member rest ih =>
      have others := ih (fun other among => reads other (List.mem_cons_of_mem member among))
        member.key member.value ((key, done) :: gathered)
      have separated : Progress.step (.complete done (.object gathered key :: outer)) .comma =
        some (.key ((key, done) :: gathered) outer) := rfl
      rw [List.map_cons, following, fold_cons _ _ _ _ _ separated,
        step_member _ _ _ member (reads member List.mem_cons_self) rfl, others,
        List.reverse_cons (a := (member.key, member.value)), List.append_assoc, List.map_cons]
      rfl

theorem read_object (members : List Member)
    (reads : ∀ member ∈ members, Reads member.value member.tokens) :
    Reads (closed (members.map Member.keyed))
      (enclosed .openObject .closeObject (members.map Member.told)) := by
  intro outer
  cases members with
  | nil => rfl
  | cons member rest =>
      have opened : Progress.step (.value outer) .openObject = some (.firstKey outer) := rfl
      have others := read_members rest (fun other among =>
        reads other (List.mem_cons_of_mem member among)) member.key member.value [] outer
      rw [List.map_cons, List.map_cons, enclosed, fold_cons _ _ _ _ _ opened,
        step_member _ _ _ member (reads member List.mem_cons_self) rfl, others]
      rfl

theorem tells_reads (value : Json) (tokens : List Token) (tells : Tells value tokens) :
    Reads value tokens := by
  induction tells with
  | array items each ih => exact read_array items each ih
  | object members _ ih => exact read_object members ih
  | _ => exact fun _ => rfl

theorem tells_of_tokens (value : Json) (tokens : List Token) (tells : Tells value tokens) :
    ofTokens? tokens = some value := by
  simp only [ofTokens?, tells_reads value tokens tells [], Option.bind_eq_bind, Option.bind_some,
    Progress.finish?]

/-- A text is read as the value that it was written for, however it was written. -/
theorem read_written (text : String) (value : Json) (writes : Writes text value) :
    read? text = some value := by
  obtain ⟨tokens, tells, spells⟩ := writes
  simp only [read?, tokens_spelled _ _ spells, Option.bind_eq_bind, Option.bind_some,
    tells_of_tokens value tokens tells]

end Wiring.Json
