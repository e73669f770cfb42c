import TaskGraph.Config.Option
import TaskGraph.Proofs.FieldWrites
set_option autoImplicit false

/-! Stored values. A value that was stored once is stored as it is from then on, so copying a
configuration whose values are in stored form changes nothing. What reads as a configuration below
an option is in stored form, and it is less deep than the configuration it was read from. -/

namespace TaskGraph

/-! ### Integers and their texts -/

theorem isWritable_of_lt {number : Int} (small : number.natAbs < 10) :
    isWritable number = true := by
  have wide : mostDigits ≠ 0 := by decide
  rw [isWritable]
  generalize mostDigits = digits at wide ⊢
  exact decide_eq_true (Nat.lt_of_lt_of_le small (Nat.le_self_pow wide 10))

def overlong : Int := Int.ofNat (Nat.pow 10 mostDigits)

theorem isWritable_overlong : isWritable overlong = false := by
  rw [isWritable, overlong]
  generalize Nat.pow 10 mostDigits = most
  exact decide_eq_false (Nat.lt_irrefl most)

namespace Value

theorem normaliseList_eq_map (items : List Value) : normaliseList items = items.map normalise := by
  induction items with
  | nil => rfl
  | cons item rest ih => rw [normaliseList, ih, List.map_cons]

theorem normaliseFields_eq_map (fields : List (String × Value)) :
    normaliseFields fields = fields.map fun field => (field.1, field.2.normalise) := by
  induction fields with
  | nil => rfl
  | cons field rest ih => rw [normaliseFields, ih, List.map_cons]

theorem normaliseEntries_eq_map (entries : List (Value × Value)) :
    normaliseEntries entries = entries.map fun entry => (entry.1.plainText, entry.2.normalise) := by
  induction entries with
  | nil => rfl
  | cons entry rest ih => rw [normaliseEntries, ih, List.map_cons]

theorem normaliseEntries_entriesOf (fields : List (String × Value)) :
    normaliseEntries (entriesOf fields) = normaliseFields fields := by
  rw [normaliseEntries_eq_map, normaliseFields_eq_map, entriesOf, List.map_map]
  rfl

theorem normaliseFields_eq_self {fields : List (String × Value)}
    (stored : ∀ field ∈ fields, field.2.normalise = field.2) : normaliseFields fields = fields := by
  rw [normaliseFields_eq_map]
  conv_rhs => rw [← List.map_id fields]
  apply List.map_congr_left
  intro field member
  rw [stored field member]
  rfl

theorem normalise_ofFields {fields : Fields Value} (distinct : fields.Distinct)
    (stored : ∀ field ∈ fields, field.2.normalise = field.2) :
    (ofFields fields).normalise = ofFields fields := by
  rw [ofFields, normalise, normaliseEntries_entriesOf, normaliseFields_eq_self stored,
    Fields.ofWrites_eq_self distinct, ofFields]

theorem normalise_normalise (value : Value) : value.normalise.normalise = value.normalise := by
  induction value with
  | list items each =>
      rw [normalise, normalise, normaliseList_eq_map, normaliseList_eq_map, List.map_map]
      exact congrArg list (List.map_congr_left each)
  | mapping entries _ each =>
      rw [normalise, normaliseEntries_eq_map]
      refine normalise_ofFields (Fields.distinct_ofWrites _) fun field member => ?_
      obtain ⟨entry, inside, rfl⟩ := List.mem_map.mp (Fields.mem_of_mem_ofWrites member)
      exact each entry inside
  | config fields _ each =>
      rw [normalise, normaliseFields_eq_map]
      refine normalise_ofFields (Fields.distinct_ofWrites _) fun field member => ?_
      obtain ⟨inner, inside, rfl⟩ := List.mem_map.mp (Fields.mem_of_mem_ofWrites member)
      exact each inner inside
  | _ => rfl

theorem normalise_of_mem_entries (entries : List (Value × Value)) :
    ∀ field ∈ normaliseEntries entries, field.2.normalise = field.2 := by
  rw [normaliseEntries_eq_map, List.forall_mem_map]
  exact fun entry _ => entry.2.normalise_normalise

theorem normalise_of_mem_fields (fields : List (String × Value)) :
    ∀ field ∈ normaliseFields fields, field.2.normalise = field.2 := by
  rw [normaliseFields_eq_map, List.forall_mem_map]
  exact fun field _ => field.2.normalise_normalise

/-! ### Texts -/

theorem areWritable_iff (items : List Value) :
    areWritable items = true ↔ ∀ item ∈ items, item.isWritable = true := by
  induction items with
  | nil => simp [areWritable]
  | cons item rest ih => rw [areWritable, Bool.and_eq_true, ih, List.forall_mem_cons]

theorem areEntriesWritable_iff (entries : List (Value × Value)) :
    areEntriesWritable entries = true ↔ ∀ entry ∈ entries, entry.1.isWritable = true ∧
      entry.2.isWritable = true := by
  induction entries with
  | nil => simp [areEntriesWritable]
  | cons entry rest ih =>
      rw [areEntriesWritable, Bool.and_eq_true, Bool.and_eq_true, ih, List.forall_mem_cons]

theorem areFieldsWritable_iff (fields : List (String × Value)) :
    areFieldsWritable fields = true ↔ ∀ field ∈ fields, field.2.isWritable = true := by
  induction fields with
  | nil => simp [areFieldsWritable]
  | cons field rest ih => rw [areFieldsWritable, Bool.and_eq_true, ih, List.forall_mem_cons]

theorem isWritable_ofFields (fields : List (String × Value)) :
    (ofFields fields).isWritable = true ↔ ∀ field ∈ fields, field.2.isWritable = true := by
  rw [ofFields, isWritable, areEntriesWritable_iff, entriesOf, List.forall_mem_map]
  exact forall₂_congr fun field _ => and_iff_right (rfl : (text field.1).isWritable = true)

/-! ### Keys -/

theorem areItemKeysWritable_iff (items : List Value) :
    areItemKeysWritable items = true ↔ ∀ item ∈ items, item.areKeysWritable = true := by
  induction items with
  | nil => exact iff_of_true rfl (List.forall_mem_nil _)
  | cons item rest ih => rw [areItemKeysWritable, Bool.and_eq_true, ih, List.forall_mem_cons]

theorem areEntryKeysWritable_iff (entries : List (Value × Value)) :
    areEntryKeysWritable entries = true ↔
      ∀ entry ∈ entries, entry.1.isWritable = true ∧ entry.2.areKeysWritable = true := by
  induction entries with
  | nil => exact iff_of_true rfl (List.forall_mem_nil _)
  | cons entry rest ih =>
      rw [areEntryKeysWritable, Bool.and_eq_true, Bool.and_eq_true, ih, List.forall_mem_cons]

theorem areFieldKeysWritable_iff (fields : List (String × Value)) :
    areFieldKeysWritable fields = true ↔ ∀ field ∈ fields, field.2.areKeysWritable = true := by
  induction fields with
  | nil => exact iff_of_true rfl (List.forall_mem_nil _)
  | cons field rest ih => rw [areFieldKeysWritable, Bool.and_eq_true, ih, List.forall_mem_cons]

theorem areKeysWritable_ofFields (fields : List (String × Value)) :
    (ofFields fields).areKeysWritable = true ↔
      ∀ field ∈ fields, field.2.areKeysWritable = true := by
  rw [ofFields, areKeysWritable, areEntryKeysWritable_iff, entriesOf, List.forall_mem_map]
  exact forall₂_congr fun field _ => and_iff_right rfl

/-- The keys of what is stored are texts. -/
theorem areKeysWritable_normalise (value : Value) : value.normalise.areKeysWritable = true := by
  induction value with
  | list items each =>
      rw [normalise, normaliseList_eq_map, areKeysWritable, areItemKeysWritable_iff,
        List.forall_mem_map]
      exact each
  | mapping entries _ each =>
      rw [normalise, normaliseEntries_eq_map, areKeysWritable_ofFields]
      intro field member
      obtain ⟨entry, inside, rfl⟩ := List.mem_map.mp (Fields.mem_of_mem_ofWrites member)
      exact each entry inside
  | config fields _ each =>
      rw [normalise, normaliseFields_eq_map, areKeysWritable_ofFields]
      intro field member
      obtain ⟨inner, inside, rfl⟩ := List.mem_map.mp (Fields.mem_of_mem_ofWrites member)
      exact each inner inside
  | _ => rfl

end Value

namespace Config

def Stored (config : Config) : Prop := ∀ field ∈ config.fields, field.2.normalise = field.2

theorem stored_empty : Stored empty := fun _ member => by cases member

theorem stored_ofWrites {writes : List (String × Value)}
    (stored : ∀ field ∈ writes, field.2.normalise = field.2) : Stored (ofWrites writes) :=
  fun field member => stored field (Fields.mem_of_mem_ofWrites member)

theorem stored_ofFields (fields : List (String × Value)) : Stored (ofFields fields) :=
  stored_ofWrites (Value.normalise_of_mem_fields fields)

theorem checked_eq_ok_iff {value : Value} {found : Option Config} {config : Config} :
    checked value found = .ok config ↔ found = some config ∧ value.areKeysWritable = true := by
  cases found with
  | none => simp [checked]
  | some held => cases writable : value.areKeysWritable <;> simp [checked, writable]

theorem ofValue_mapping {entries : List (Value × Value)}
    (writable : (Value.mapping entries).areKeysWritable = true) :
    ofValue (.mapping entries) = .ok (ofWrites (Value.normaliseEntries entries)) := if_pos writable

theorem writesOf_mapping {entries : List (Value × Value)}
    (writable : (Value.mapping entries).areKeysWritable = true) :
    writesOf (.mapping entries) = .ok (Value.normaliseEntries entries) := if_pos writable

theorem of_checked_eq_error {value : Value} {found : Option Config} {cause : Error}
    (refused : checked value found = .error cause) : cause = .notObject value ∨
      cause = .tooLong := by
  cases found with
  | none => exact Or.inl (Except.error.inj refused).symm
  | some config =>
      rw [checked] at refused
      split at refused
      · cases refused
      · exact Or.inr (Except.error.inj refused).symm

theorem ofDefinition_of_root? {definition : Value} {config : Config}
    (isRoot : root? definition = some config) :
    ofDefinition definition =
      if definition.areKeysWritable then .ok config else .error .tooLong := by
  rw [ofDefinition, isRoot]
  rfl

/-- Every configuration that a definition gives is in stored form. -/
theorem stored_of_root? {definition : Value} {config : Config}
    (isRoot : root? definition = some config) :
    config.Stored := by
  cases definition with
  | config fields frozen =>
      cases isRoot
      exact stored_ofFields fields
  | mapping entries =>
      cases isRoot
      exact stored_ofWrites (Value.normalise_of_mem_entries entries)
  | null =>
      cases isRoot
      exact stored_empty
  | _ => cases isRoot

theorem stored_ofDefinition {definition : Value} {config : Config}
    (read : ofDefinition definition = .ok config) : config.Stored :=
  stored_of_root? (checked_eq_ok_iff.mp read).1

theorem Stored.areKeysWritable {config : Config} (stored : config.Stored) :
    Value.areFieldKeysWritable config.fields = true := by
  rw [Value.areFieldKeysWritable_iff]
  intro field member
  rw [← stored field member]
  exact field.2.areKeysWritable_normalise

theorem fields_deepCopy {config : Config} (stored : config.Stored) :
    config.deepCopy.fields = config.fields := by
  change Fields.ofWrites (Value.normaliseFields config.fields) = config.fields
  rw [Value.normaliseFields_eq_self stored, Fields.ofWrites_eq_self config.distinct]

theorem fields_freeze {config : Config} (stored : config.Stored) :
    config.freeze.fields = config.fields := fields_deepCopy stored

end Config
end TaskGraph
