/-!
Values kept under names. The entries stand in the order of their names, by code
points, and no name occurs twice, so two maps with the same look-ups are equal.
-/

namespace Wiring

def insertEntry (name : String) (value : α) : List (String × α) → List (String × α)
  | [] => [(name, value)]
  | (other, kept) :: rest =>
      if name < other then (name, value) :: (other, kept) :: rest
      else if name = other then (name, value) :: rest
      else (other, kept) :: insertEntry name value rest

def InNameOrder (entries : List (String × α)) : Prop :=
  entries.Pairwise fun left right => left.1 < right.1

theorem mem_insert_entry (name : String) (value : α) (entries : List (String × α))
    (entry : String × α) (member : entry ∈ insertEntry name value entries) :
    entry = (name, value) ∨ entry ∈ entries := by
  induction entries with
  | nil => simpa [insertEntry] using member
  | cons first rest ih =>
      obtain ⟨other, kept⟩ := first
      simp only [insertEntry] at member
      split at member
      · simpa using member
      · split at member
        · rcases List.mem_cons.mp member with same | old
          · exact Or.inl same
          · exact Or.inr (List.mem_cons_of_mem _ old)
        · rcases List.mem_cons.mp member with same | deeper
          · exact Or.inr (List.mem_cons.mpr (Or.inl same))
          · exact (ih deeper).imp id (List.mem_cons_of_mem _)

theorem insert_entry_ordered (name : String) (value : α) (entries : List (String × α))
    (ordered : InNameOrder entries) : InNameOrder (insertEntry name value entries) := by
  induction entries with
  | nil => simp [insertEntry, InNameOrder]
  | cons first rest ih =>
      obtain ⟨other, kept⟩ := first
      obtain ⟨below, tail⟩ := List.pairwise_cons.mp ordered
      simp only [insertEntry]
      split
      · rename_i before
        refine List.pairwise_cons.mpr ⟨?_, ordered⟩
        intro entry member
        rcases List.mem_cons.mp member with same | old
        · exact same ▸ before
        · exact String.lt_trans before (below entry old)
      · split
        · rename_i same
          exact List.pairwise_cons.mpr ⟨fun entry old => same ▸ below entry old, tail⟩
        · rename_i notBefore different
          refine List.pairwise_cons.mpr ⟨?_, ih tail⟩
          intro entry member
          rcases mem_insert_entry name value rest entry member with same | old
          · have reached : other ≤ name := String.not_lt.mp notBefore
            rw [same]
            exact Decidable.byContradiction fun notAfter =>
              different (String.le_antisymm (String.not_lt.mp notAfter) reached)
          · exact below entry old

/-- Lists in the strict order of some key are equal if they have the same members. -/
theorem eq_of_key_order (key : α → String) {left right : List α}
    (leftOrdered : left.Pairwise fun before after => key before < key after)
    (rightOrdered : right.Pairwise fun before after => key before < key after)
    (same : ∀ value, value ∈ left ↔ value ∈ right) : left = right := by
  -- The least members agree, and then the rests do.
  induction left generalizing right with
  | nil =>
      cases right with
      | nil => rfl
      | cons first rest => exact absurd ((same first).mpr (by simp)) (by simp)
  | cons first rest ih =>
      cases right with
      | nil => exact absurd ((same first).mp (by simp)) (by simp)
      | cons other others =>
          obtain ⟨below, tail⟩ := List.pairwise_cons.mp leftOrdered
          obtain ⟨beyond, tails⟩ := List.pairwise_cons.mp rightOrdered
          have head : first = other := by
            rcases List.mem_cons.mp ((same first).mp (by simp)) with equal | later
            · exact equal
            · rcases List.mem_cons.mp ((same other).mpr (by simp)) with equal | sooner
              · exact equal.symm
              · exact absurd (String.lt_trans (below other sooner) (beyond first later))
                  (String.lt_irrefl _)
          subst head
          refine congrArg (first :: ·) (ih tail tails fun value => ?_)
          constructor
          · intro member
            rcases List.mem_cons.mp ((same value).mp (List.mem_cons_of_mem _ member)) with
              equal | later
            · exact absurd (equal ▸ below value member) (String.lt_irrefl _)
            · exact later
          · intro member
            rcases List.mem_cons.mp ((same value).mpr (List.mem_cons_of_mem _ member)) with
              equal | sooner
            · exact absurd (equal ▸ beyond value member) (String.lt_irrefl _)
            · exact sooner

theorem lookup_below (name : String) (entries : List (String × α))
    (below : ∀ entry ∈ entries, name < entry.1) : entries.lookup name = none := by
  refine List.lookup_eq_none_iff.mpr fun entry member => ?_
  have different : name ≠ entry.1 := fun same =>
    String.lt_irrefl name (same ▸ below entry member)
  simpa using different

structure NameMap (α : Type) where
  entries : List (String × α)
  ordered : InNameOrder entries

namespace NameMap

def empty : NameMap α := ⟨[], List.Pairwise.nil⟩

instance : Inhabited (NameMap α) := ⟨empty⟩

instance [DecidableEq α] : DecidableEq (NameMap α) := fun left right =>
  if same : left.entries = right.entries then
    isTrue (by cases left; cases right; simp_all)
  else
    isFalse fun equal => same (congrArg entries equal)

instance [Repr α] : Repr (NameMap α) where
  reprPrec map depth := reprPrec map.entries depth

def insert (map : NameMap α) (name : String) (value : α) : NameMap α :=
  ⟨insertEntry name value map.entries, insert_entry_ordered name value map.entries map.ordered⟩

/-- Of several values for one name the last is kept. -/
def ofList (entries : List (String × α)) : NameMap α :=
  entries.foldl (fun map entry => map.insert entry.1 entry.2) empty

def find? (map : NameMap α) (name : String) : Option α :=
  map.entries.lookup name

def contains (map : NameMap α) (name : String) : Bool :=
  (map.find? name).isSome

def names (map : NameMap α) : List String :=
  map.entries.map Prod.fst

def values (map : NameMap α) : List α :=
  map.entries.map Prod.snd

theorem find_empty (name : String) : (empty : NameMap α).find? name = none := rfl

theorem find_insert (map : NameMap α) (name : String) (value : α) (wanted : String) :
    (map.insert name value).find? wanted =
      if wanted = name then some value else map.find? wanted := by
  simp only [find?, insert]
  induction map.entries with
  | nil =>
      by_cases same : wanted = name
      · simp [insertEntry, same]
      · simp [insertEntry, List.lookup_cons, beq_false_of_ne same, same]
  | cons first rest ih =>
      obtain ⟨other, kept⟩ := first
      simp only [insertEntry]
      by_cases here : wanted = name
      · subst here
        split
        · simp
        · split
          · simp
          · rename_i different
            rw [List.lookup_cons, beq_false_of_ne different]
            simpa using ih
      · split
        · simp [List.lookup_cons, beq_false_of_ne here]
        · split
          · rename_i same
            subst same
            simp [List.lookup_cons, beq_false_of_ne here]
          · simp only [List.lookup_cons, ih, here, if_false]

/-- The entries are the names that are found, with what is found under them. -/
theorem mem_entries_iff (map : NameMap α) (name : String) (value : α) :
    (name, value) ∈ map.entries ↔ map.find? name = some value := by
  obtain ⟨entries, ordered⟩ := map
  simp only [find?]
  induction entries with
  | nil => simp
  | cons first rest ih =>
      obtain ⟨other, kept⟩ := first
      obtain ⟨below, tail⟩ := List.pairwise_cons.mp ordered
      by_cases same : name = other
      · subst same
        have absent : (name, value) ∉ rest := fun member =>
          String.lt_irrefl name (below (name, value) member)
        simp [absent, eq_comm]
      · simp [List.lookup_cons, beq_false_of_ne same, same, ih tail]

/-- What can be found decides a map. -/
theorem ext_find (left right : NameMap α) (same : ∀ name, left.find? name = right.find? name) :
    left = right := by
  have entries : left.entries = right.entries :=
    eq_of_key_order Prod.fst left.ordered right.ordered fun (name, value) => by
      rw [mem_entries_iff, mem_entries_iff, same]
  obtain ⟨leftEntries, leftOrdered⟩ := left
  subst entries
  rfl

theorem find_foldl_insert (entries : List (String × α)) (ordered : InNameOrder entries)
    (map : NameMap α) (wanted : String) :
    (entries.foldl (fun map entry => map.insert entry.1 entry.2) map).find? wanted =
      (entries.lookup wanted).or (map.find? wanted) := by
  induction entries generalizing map with
  | nil => rfl
  | cons first rest ih =>
      obtain ⟨name, value⟩ := first
      obtain ⟨below, tail⟩ := List.pairwise_cons.mp ordered
      rw [List.foldl_cons, ih tail, find_insert]
      by_cases same : wanted = name
      · subst same
        rw [lookup_below wanted rest below, if_pos rfl, List.lookup_cons_self]
        rfl
      · rw [if_neg same, List.lookup_cons, beq_false_of_ne same]

theorem of_list_entries (map : NameMap α) : ofList map.entries = map :=
  ext_find _ _ fun name => by
    rw [ofList, find_foldl_insert map.entries map.ordered, find_empty, Option.or_none, find?]

end NameMap

end Wiring
