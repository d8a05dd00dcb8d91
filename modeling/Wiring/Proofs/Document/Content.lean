import Mathlib.Data.List.Induction
import Wiring.Document.Flow
import Wiring.Proofs.Json.Grammar

/-!
What a JSON value says of a value. A record is told by what its fields hold, whatever the
order of the members, with members beside them that no field is named by; a field may be
left out where the reader puts in what it holds. What a value is said to be, it is read as.
-/

namespace Wiring

theorem NameMap.find_of_list (entries : List (String × α)) (name : String) :
    (NameMap.ofList entries).find? name = entries.reverse.lookup name := by
  induction entries using List.reverseRecOn with
  | nil => rfl
  | append_singleton entries entry ih =>
      have last : NameMap.ofList (entries ++ [entry]) =
          (NameMap.ofList entries).insert entry.1 entry.2 := by
        rw [NameMap.ofList, List.foldl_append]
        rfl
      rw [last, NameMap.find_insert, ih, List.reverse_append, List.reverse_singleton,
        List.singleton_append]
      by_cases same : name = entry.1
      · rw [if_pos same, same, List.lookup_cons_self]
      · rw [if_neg same, List.lookup_cons, beq_false_of_ne same]

namespace Document

def Field.names (field : Field ρ α) : List String := field.name :: field.spelling.toList

namespace Fields

inductive At : {κ : Type} → Fields ρ κ → Nat → {α : Type} → Field ρ α → Prop where
  | first {α κ : Type} (field : Field ρ α) (rest : Fields ρ κ) : At (.more field rest) 0 field
  | later {α β κ : Type} (other : Field ρ β) {rest : Fields ρ κ} {place : Nat}
      {field : Field ρ α} (placed : At rest place field) : At (.more other rest) (place + 1) field

def rebuild : Fields ρ κ → κ → ρ → ρ
  | .done, record, _ => record
  | .more field rest, make, record => rebuild rest (make (field.get record)) record

end Fields

def Field.Named (field : Field ρ α) (member : String × Json) : Prop := member.1 ∈ field.names

instance (field : Field ρ α) (member : String × Json) : Decidable (field.Named member) :=
  inferInstanceAs (Decidable (member.1 ∈ field.names))

inductive Gives : {α : Type} → Codec α → Json → α → Prop where
  | text (value : String) : Gives .text (.string value) value
  | bound (value : UInt64) : Gives .bound (.natural value.toNat) value
  | flag (value : Bool) : Gives .flag (.bool value) value
  | absent {α : Type} (codec : Codec α) : Gives codec.optional .null none
  | present {α : Type} {codec : Codec α} {json : Json} {value : α} (there : json ≠ .null)
      (gives : Gives codec json value) : Gives codec.optional json (some value)
  | list {α : Type} {codec : Codec α} (items : List (Json × α))
      (each : ∀ item ∈ items, Gives codec item.1 item.2) :
      Gives codec.list (.array (items.map Prod.fst)) (items.map Prod.snd)
  /-- A name may be repeated, and the last of its values counts. -/
  | names {α : Type} {codec : Codec α} (entries : List (String × Json × α)) (map : NameMap α)
      (each : ∀ entry ∈ entries, Gives codec entry.2.1 entry.2.2)
      (last : ∀ name, map.find? name =
        (entries.map fun entry => (entry.1, entry.2.2)).reverse.lookup name) :
      Gives codec.names (.object (entries.map fun entry => (entry.1, entry.2.1))) map
  | state (state : LifecycleState) : Gives lifecycleState (.string state.word) state
  | stateCase (state : LifecycleState) :
      Gives lifecycleState (.object [(state.word, .null)]) state
  | closed {α : Type} {result : Codec α} {json : Json} {value : α}
      (gives : Gives result json value) :
      Gives (outcome result) (.object [("closed", json)]) (.closed value)
  | dismissed {α : Type} (result : Codec α) (reason : String) :
      Gives (outcome result) (.object [("dismissed", .string reason)]) (.dismissed reason)
  /-- The fields of a record by their names, among any other members. -/
  | object {ρ κ : Type} {fields : Fields ρ κ} {make : κ} {members : List (String × Json)}
      {record : ρ} (rebuilt : fields.rebuild make record = record)
      (once : ∀ {α : Type} (place : Nat) (field : Field ρ α), fields.At place field →
        members.countP (fun member => field.Named member) ≤ 1)
      (given : ∀ {α : Type} (place : Nat) (field : Field ρ α), fields.At place field →
        ∀ member ∈ members, field.Named member → Gives field.codec member.2 (field.get record))
      (omitted : ∀ {α : Type} (place : Nat) (field : Field ρ α), fields.At place field →
        (∀ member ∈ members, ¬ field.Named member) → field.absent = some (field.get record)) :
      Gives (fields.codec make) (.object members) record
  /-- The fields of a record in their order; some of the last ones may be missing. -/
  | array {ρ κ : Type} {fields : Fields ρ κ} {make : κ} {items : List Json} {record : ρ}
      (rebuilt : fields.rebuild make record = record)
      (short : items.length ≤ fields.slots.length)
      (given : ∀ {α : Type} (place : Nat) (field : Field ρ α) (json : Json),
        fields.At place field → items[place]? = some json →
          Gives field.codec json (field.get record))
      (omitted : ∀ {α : Type} (place : Nat) (field : Field ρ α), fields.At place field →
        items.length ≤ place → field.trailing = true ∧ field.absent = some (field.get record)) :
      Gives (fields.codec make) (.array items) record

def Slot.choice? (slot : Slot) (members : List (String × ν)) : Option (Option ν) :=
  match slot.found members with
  | [] => if slot.omissible then some none else none
  | [value] => some (some value)
  | _ => none

theorem mem_found_iff (slot : Slot) (members : List (String × ν)) (value : ν) :
    value ∈ slot.found members ↔
      ∃ member ∈ members, member.1 ∈ slot.names ∧ member.2 = value := by
  simp [Slot.found, List.mem_filterMap]

theorem found_length (field : Field ρ α) (members : List (String × Json)) :
    (field.slot.found members).length = members.countP fun member => field.Named member := by
  induction members with
  | nil => rfl
  | cons member rest ih =>
      rw [List.countP_cons, ← ih]
      simp only [Slot.found, List.filterMap_cons]
      by_cases named : field.Named member
      · have known : member.1 ∈ field.slot.names := named
        simp [named, known]
      · have unknown : member.1 ∉ field.slot.names := named
        simp [named, unknown]

theorem choice_read (field : Field ρ α) (members : List (String × Json)) (held : α)
    (once : members.countP (fun member => field.Named member) ≤ 1)
    (given : ∀ member ∈ members, field.Named member →
      (field.codec.read member.2 : Option α) = some held)
    (omitted : (∀ member ∈ members, ¬ field.Named member) → field.absent = some held) :
    ∃ value, field.slot.choice? members = some value ∧
      (field.read value : Option α) = some held := by
  rw [← found_length] at once
  have found := mem_found_iff field.slot members
  unfold Slot.choice?
  match same : field.slot.found members with
  | [] =>
      have absent := omitted fun member among named => by
        have there := (found member.2).mpr ⟨member, among, named, rfl⟩
        rw [same] at there
        cases there
      have omissible : field.slot.omissible = true := by
        rw [Field.slot, absent, Option.isSome_some]
      exact ⟨none, if_pos omissible, absent⟩
  | [value] =>
      obtain ⟨member, among, named, rfl⟩ := (found value).mp (same ▸ List.mem_singleton_self value)
      exact ⟨some member.2, rfl, given member among named⟩
  | _ :: _ :: _ => simp [same] at once

namespace Fields

theorem build_choices (fields : Fields ρ κ) (make : κ) (members : List (String × Json)) (record : ρ)
    (each : ∀ {α : Type} (place : Nat) (field : Field ρ α), fields.At place field →
      ∃ value, field.slot.choice? members = some value ∧
        (field.read value : Option α) = some (field.get record)) :
    (byName fields.slots members).bind (fields.build make) =
      some (fields.rebuild make record) := by
  induction fields with
  | done => rfl
  | more field rest ih =>
      obtain ⟨value, chosen, read⟩ := each 0 field (.first field rest)
      have others := ih (make (field.get record)) fun place other placed =>
        each (place + 1) other (.later field placed)
      obtain ⟨values, found, built⟩ := Option.bind_eq_some_iff.mp others
      have split : byName (field.slot :: rest.slots) members =
          (field.slot.choice? members).bind fun value =>
            (byName rest.slots members).bind fun values => some (value :: values) :=
        List.mapM_cons
      rw [slots, split, chosen, found, Option.bind_some, Option.bind_some, Option.bind_some, build,
        read]
      exact built

theorem build_positions (fields : Fields ρ κ) (make : κ) (items : List Json) (record : ρ)
    (short : items.length ≤ fields.slots.length)
    (given : ∀ {α : Type} (place : Nat) (field : Field ρ α) (json : Json), fields.At place field →
      items[place]? = some json → (field.codec.read json : Option α) = some (field.get record))
    (omitted : ∀ {α : Type} (place : Nat) (field : Field ρ α), fields.At place field →
      items.length ≤ place → field.trailing = true ∧ field.absent = some (field.get record)) :
    (byPosition fields.slots items).bind (fields.build make) =
      some (fields.rebuild make record) := by
  induction fields generalizing items with
  | done =>
      cases items with
      | nil => rfl
      | cons json items => cases short
  | more field rest ih =>
      cases items with
      | nil =>
          obtain ⟨trailing, absent⟩ := omitted 0 field (.first field rest) (Nat.le_refl 0)
          have others := ih (make (field.get record)) [] (Nat.zero_le _) nofun
            fun place other placed _ =>
              omitted (place + 1) other (.later field placed) (Nat.zero_le _)
          obtain ⟨values, found, built⟩ := Option.bind_eq_some_iff.mp others
          have last : field.slot.trailing = true := by
            rw [Field.slot, trailing, absent]
            rfl
          rw [slots, byPosition, if_pos last, found, Option.map_some, Option.bind_some, build,
            Field.read, absent]
          exact built
      | cons json items =>
          have read := given 0 field json (.first field rest) rfl
          have others := ih (make (field.get record)) items (Nat.le_of_succ_le_succ short)
            (fun place other value placed there =>
              given (place + 1) other value (.later field placed) there)
            fun place other placed behind =>
              omitted (place + 1) other (.later field placed) (Nat.succ_le_succ behind)
          obtain ⟨values, found, built⟩ := Option.bind_eq_some_iff.mp others
          rw [slots, byPosition, found, Option.map_some, Option.bind_some, build, Field.read, read]
          exact built

end Fields

/-- A value is read as what it says. -/
theorem gives_read {α : Type} (codec : Codec α) (json : Json) (value : α)
    (gives : Gives codec json value) : (codec.read json : Option α) = some value := by
  induction gives with
  | text value => rfl
  | bound value =>
      have small : value.toNat < UInt64.size := value.toNat_lt
      change (if small : value.toNat < UInt64.size then some (.ofNatLT value.toNat small)
        else none) = some value
      rw [dif_pos small, UInt64.ofNatLT_toNat]
  | flag value => rfl
  | absent codec => rfl
  | @present _ codec json value there gives ih =>
      have present : (Form.present json : Option (Option Json)) = some (some json) := by
        cases json with
        | null => exact absurd rfl there
        | _ => rfl
      simp only [Codec.optional, present, Option.bind_eq_bind, Option.bind_some, ih]
      rfl
  | list items each ih => exact Json.mapM_each items Prod.fst Prod.snd _ ih
  | @names _ codec entries map each last ih =>
      have read := Json.mapM_each entries (fun entry => (entry.1, entry.2.1))
        (fun entry => (entry.1, entry.2.2))
        (fun member => do return (member.1, ← codec.read member.2)) fun entry among => by
          rw [ih entry among]
          rfl
      have same : NameMap.ofList (entries.map fun entry => (entry.1, entry.2.2)) = map :=
        NameMap.ext_find _ _ fun name => by rw [NameMap.find_of_list, last]
      change (do return .ofList (← (entries.map fun entry => (entry.1, entry.2.1)).mapM
        fun member => do return (member.1, ← codec.read member.2)) : Option (NameMap _)) = some map
      rw [read, ← same]
      rfl
  | state state | stateCase state =>
      have known : LifecycleState.ofWord? state.word = some state := by
        cases state <;> decide
      exact known
  | @closed _ result json value gives ih =>
      change (do return .closed (← result.read json) : Option (Outcome _)) = _
      rw [ih]
      rfl
  | dismissed result reason => rfl
  | @object _ _ fields make members record rebuilt once given omitted ih =>
      have built := fields.build_choices make members record fun place field placed =>
        choice_read field members (field.get record) (once place field placed)
          (ih place field placed) (omitted place field placed)
      rwa [rebuilt] at built
  | @array _ _ fields make items record rebuilt short given omitted ih =>
      have built := fields.build_positions make items record short ih omitted
      rwa [rebuilt] at built

end Document

end Wiring
