import Wiring.Proofs.Document.Content
import Wiring.Proofs.Json.RoundTrip

/-!
Codecs that write what a value says. A record is written faithfully if each of its fields
is, no two of its fields go by the same name, and what it leaves out is what a reader
puts in.
-/

namespace Wiring.Document

/-- What is written as JSON says what it was, so it is read as that. -/
def Codec.Faithful (codec : Codec α) : Prop :=
  ∀ value, Gives codec (codec.write value) value

namespace Codec

theorem text_faithful : text.Faithful := .text

theorem flag_faithful : flag.Faithful := .flag

theorem bound_faithful : bound.Faithful := .bound

-- A value that is written as null would be taken for an absent one.
theorem optional_faithful (codec : Codec α) (faithful : codec.Faithful)
    (present : ∀ value, codec.write value ≠ .null) : (optional codec).Faithful := by
  intro value
  cases value with
  | none => exact .absent codec
  | some held => exact .present (present held) (faithful held)

theorem list_faithful (codec : Codec α) (faithful : codec.Faithful) : (list codec).Faithful := by
  intro values
  have gives := Gives.list (values.map fun value => (codec.write value, value))
    (List.forall_mem_map.mpr fun value _ => faithful value)
  have same : values.map (Prod.snd ∘ fun value => (codec.write value, value)) = values :=
    List.map_id values
  rwa [List.map_map, List.map_map, same] at gives

theorem names_faithful (codec : Codec α) (faithful : codec.Faithful) : (names codec).Faithful := by
  intro map
  have gives := Gives.names (map.entries.map fun entry => (entry.1, codec.write entry.2, entry.2))
    map (List.forall_mem_map.mpr fun entry _ => faithful entry.2) fun name => by
      rw [List.map_map]
      have found := NameMap.find_of_list map.entries name
      rw [NameMap.of_list_entries] at found
      exact found.trans (congrArg _ (congrArg _ (List.map_id map.entries).symm))
  rwa [List.map_map] at gives

end Codec

namespace Field

structure Faithful (field : Field ρ α) : Prop where
  codec : field.codec.Faithful
  omitted : ∀ value, field.omits value = true → field.absent = some value

theorem member_own (field : Field ρ α) (record : ρ) (member : String × Json)
    (among : member ∈ field.member record) :
    member = (field.name, field.codec.write (field.get record)) := by
  rw [Field.member] at among
  by_cases omitted : field.omits (field.get record) = true
  · rw [if_pos omitted] at among
    cases among
  · rw [if_neg omitted] at among
    exact List.mem_singleton.mp among

theorem member_alone (field : Field ρ α) (record : ρ) : (field.member record).length ≤ 1 := by
  rw [Field.member]
  by_cases omitted : field.omits (field.get record) = true
  · rw [if_pos omitted]
    exact Nat.zero_le 1
  · rw [if_neg omitted]
    exact Nat.le_refl 1

end Field

theorem required_faithful (name : String) (codec : Codec α) (get : ρ → α)
    (faithful : codec.Faithful) : (required name codec get).Faithful :=
  ⟨faithful, nofun⟩

theorem defaulted_faithful (name : String) (codec : Codec α) (get : ρ → α) (value : α)
    (faithful : codec.Faithful) : (defaulted name codec get value).Faithful :=
  ⟨faithful, nofun⟩

theorem optionally_faithful (name : String) (codec : Codec α) (get : ρ → Option α)
    (faithful : codec.Faithful) (present : ∀ value, codec.write value ≠ .null) :
    (optionally name codec get).Faithful := by
  refine ⟨codec.optional_faithful faithful present, ?_⟩
  intro value omitted
  rw [Option.isNone_iff_eq_none.mp omitted]
  rfl

theorem nullable_faithful (name : String) (codec : Codec α) (get : ρ → Option α)
    (faithful : codec.Faithful) (present : ∀ value, codec.write value ≠ .null) :
    (nullable name codec get).Faithful :=
  ⟨codec.optional_faithful faithful present, nofun⟩

theorem nullable_in_place_faithful (name : String) (codec : Codec α) (get : ρ → Option α)
    (faithful : codec.Faithful) (present : ∀ value, codec.write value ≠ .null) :
    (nullableInPlace name codec get).Faithful :=
  ⟨codec.optional_faithful faithful present, nofun⟩

namespace Fields

def Faithful : Fields ρ κ → Prop
  | .done => True
  | .more field rest => field.Faithful ∧ rest.Faithful

def names (fields : Fields ρ κ) : List String :=
  fields.slots.flatMap Slot.names

theorem placed_faithful (fields : Fields ρ κ) (place : Nat) (field : Field ρ α)
    (placed : fields.At place field) (faithful : fields.Faithful) : field.Faithful := by
  induction placed with
  | first => exact faithful.1
  | later _ _ ih => exact ih faithful.2

theorem placed_names (fields : Fields ρ κ) (place : Nat) (field : Field ρ α)
    (placed : fields.At place field) : ∀ name ∈ field.names, name ∈ fields.names := by
  induction placed with
  | first => exact fun _ own => List.mem_append_left _ own
  | later _ _ ih => exact fun name own => List.mem_append_right _ (ih name own)

theorem member_named (fields : Fields ρ κ) (record : ρ) (member : String × Json)
    (among : member ∈ fields.members record) : member.1 ∈ fields.names := by
  induction fields with
  | done => cases among
  | more field rest ih =>
      rw [names, slots, List.flatMap_cons, List.mem_append]
      rcases List.mem_append.mp among with own | other
      · rw [field.member_own record member own]
        exact .inl List.mem_cons_self
      · exact .inr (ih other)

/-- The members that name a field are its own. -/
theorem members_own (fields : Fields ρ κ) (place : Nat) (field : Field ρ α)
    (placed : fields.At place field) (record : ρ) (distinct : fields.names.Nodup) :
    (fields.members record).filter (fun member => field.Named member) = field.member record := by
  induction placed with
  | first field rest =>
      rw [names, slots, List.flatMap_cons] at distinct
      have separate := (List.nodup_append.mp distinct).2.2
      have own : (field.member record).filter (fun member => field.Named member) =
          field.member record := by
        refine List.filter_eq_self.mpr fun member among => ?_
        rw [field.member_own record member among]
        exact decide_eq_true List.mem_cons_self
      have others : (rest.members record).filter (fun member => field.Named member) = [] := by
        refine List.filter_eq_nil_iff.mpr fun member among named => ?_
        have known := rest.member_named record member among
        exact separate _ (of_decide_eq_true named) _ known rfl
      rw [members, List.filter_append, own, others, List.append_nil]
  | @later _ _ _ other rest place field placed ih =>
      rw [names, slots, List.flatMap_cons] at distinct
      obtain ⟨_, behind, separate⟩ := List.nodup_append.mp distinct
      have foreign : (other.member record).filter (fun member => field.Named member) = [] := by
        refine List.filter_eq_nil_iff.mpr fun member among named => ?_
        rw [other.member_own record member among] at named
        have known := placed_names _ _ _ placed _ (of_decide_eq_true named)
        exact separate _ List.mem_cons_self _ known rfl
      rw [members, List.filter_append, foreign, List.nil_append]
      exact ih behind

theorem codec_faithful (fields : Fields ρ κ) (make : κ) (faithful : fields.Faithful)
    (distinct : fields.names.Nodup) (rebuilt : ∀ record, fields.rebuild make record = record) :
    (fields.codec make).Faithful := by
  intro record
  have own := fun {α : Type} place (field : Field ρ α) placed =>
    members_own fields place field placed record distinct
  refine .object (rebuilt record) ?_ ?_ ?_
  · intro _ place field placed
    rw [List.countP_eq_length_filter, own place field placed]
    exact field.member_alone record
  · intro _ place field placed member among named
    have mine : member ∈ field.member record := by
      rw [← own place field placed]
      exact List.mem_filter.mpr ⟨among, decide_eq_true named⟩
    rw [field.member_own record member mine]
    exact (placed_faithful fields place field placed faithful).codec (field.get record)
  · intro _ place field placed unnamed
    refine (placed_faithful fields place field placed faithful).omitted _ ?_
    by_contra written
    have mine : (field.name, field.codec.write (field.get record)) ∈ field.member record := by
      rw [Field.member, if_neg written]
      exact List.mem_singleton_self _
    rw [← own place field placed] at mine
    obtain ⟨among, named⟩ := List.mem_filter.mp mine
    exact unnamed _ among (of_decide_eq_true named)

end Fields

theorem texts_faithful : texts.Faithful := Codec.text.list_faithful Codec.text_faithful

theorem relationship_type_faithful : relationshipType.Faithful := by
  refine Fields.codec_faithful _ _ ⟨?_, ?_, ?_, trivial⟩ (by decide) (fun _ => rfl)
  · exact required_faithful _ _ _ Codec.text_faithful
  · exact defaulted_faithful _ _ _ _ texts_faithful
  · exact defaulted_faithful _ _ _ _ texts_faithful

theorem relationship_descriptor_faithful : relationshipDescriptor.Faithful := by
  refine Fields.codec_faithful _ _ ⟨?_, ?_, ?_, ?_, trivial⟩ (by decide) (fun _ => rfl)
  · exact required_faithful _ _ _ relationship_type_faithful
  · exact required_faithful _ _ _ Codec.text_faithful
  · exact nullable_in_place_faithful _ _ _ Codec.text_faithful nofun
  · exact required_faithful _ _ _ Codec.text_faithful

theorem outcome_faithful (result : Codec α) (faithful : result.Faithful) :
    (outcome result).Faithful := by
  intro value
  cases value with
  | closed value => exact .closed (faithful value)
  | dismissed reason => exact .dismissed result reason

/-- A document on a line of its own is decoded to the value that it was printed for. -/
theorem decode_indented_line (codec : Codec α) (faithful : codec.Faithful) (value : α) :
    codec.decode? (codec.encodeIndented value ++ "\n") = some value := by
  rw [Codec.decode?, Codec.encodeIndented, Json.read_indented_line]
  exact gives_read codec _ value (faithful value)

end Wiring.Document
