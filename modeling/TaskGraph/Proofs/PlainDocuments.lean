import TaskGraph.Json.Basic
import TaskGraph.Proofs.JsonDocument
import TaskGraph.Proofs.WritableValues
set_option autoImplicit false

/-! Values that are documents already. Whatever is made of nulls, truth values, integers, texts,
lists, and mappings with texts as keys is stored in a form that neither the plain form of a value
nor its JSON document changes. -/

namespace TaskGraph

namespace Value

/-- A value made of nulls, truth values, integers, texts, lists, and
mappings and configurations with texts as keys. -/
inductive IsDocument : Value → Prop
  | null : IsDocument null
  | bool (truth : Bool) : IsDocument (bool truth)
  | int (number : Int) : IsDocument (int number)
  | text (content : String) : IsDocument (text content)
  | list {items : List Value} (each : ∀ item ∈ items, IsDocument item) : IsDocument (list items)
  | mapping {entries : List (Value × Value)} (named : ∀ entry ∈ entries, ∃ name,
      entry.1 = .text name) (each : ∀ entry ∈ entries, IsDocument entry.2) :
      IsDocument (mapping entries)
  | config {fields : List (String × Value)} (frozen : Bool)
      (each : ∀ field ∈ fields, IsDocument field.2) :
      IsDocument (config fields frozen)

theorem IsDocument.ofFields {fields : List (String × Value)}
    (each : ∀ field ∈ fields, field.2.IsDocument) :
    (ofFields fields).IsDocument := by
  refine .mapping (fun entry member => ?_) (fun entry member => ?_)
  · obtain ⟨field, _, same⟩ := List.mem_map.mp member
    exact ⟨field.1, same ▸ rfl⟩
  · obtain ⟨field, inside, same⟩ := List.mem_map.mp member
    exact same ▸ each field inside

inductive IsData : Value → Prop
  | null : IsData null
  | bool (truth : Bool) : IsData (bool truth)
  | int (number : Int) : IsData (int number)
  | text (content : String) : IsData (text content)
  | list {items : List Value} (each : ∀ item ∈ items, IsData item) : IsData (list items)
  | ofFields {fields : Fields Value} (distinct : fields.Distinct)
      (each : ∀ field ∈ fields, IsData field.2) :
      IsData (ofFields fields)

theorem isData_ofWrites {writes : List (String × Value)} (each : ∀ field ∈ writes, field.2.IsData) :
    (ofFields (Fields.ofWrites writes)).IsData :=
  .ofFields (Fields.distinct_ofWrites writes) fun field member =>
    each field (Fields.mem_of_mem_ofWrites member)

theorem isData_normalise {value : Value} (document : value.IsDocument) :
    value.normalise.IsData := by
  induction document with
  | null => exact .null
  | bool truth => exact .bool truth
  | int number => exact .int number
  | text content => exact .text content
  | list _ ih =>
      rw [normalise, normaliseList_eq_map]
      exact .list (List.forall_mem_map.mpr ih)
  | mapping _ _ ih =>
      rw [normalise, normaliseEntries_eq_map]
      exact isData_ofWrites (List.forall_mem_map.mpr ih)
  | config _ _ ih =>
      rw [normalise, normaliseFields_eq_map]
      exact isData_ofWrites (List.forall_mem_map.mpr ih)

theorem IsData.isDocument {value : Value} (data : value.IsData) : value.IsDocument := by
  induction data with
  | null => exact .null
  | bool truth => exact .bool truth
  | int number => exact .int number
  | text content => exact .text content
  | list _ ih => exact .list ih
  | ofFields _ _ ih => exact .ofFields ih

/-- The parts of a document and its stored form are documents. -/
theorem hereditary_isDocument : Hereditary IsDocument where
  normalise := fun _ document => (isData_normalise document).isDocument
  entries := fun entries document entry member => by
    cases document with
    | mapping _ each => exact each entry member
  fields := fun fields frozen document field member => by
    cases document with
    | config _ each => exact each field member
  items := fun items document item member => by
    cases document with
    | list each => exact each item member

/-! ### Levels -/

theorem levelsList_le_iff {items : List Value} {room : Nat} :
    levelsList items ≤ room ↔ ∀ item ∈ items, item.levels ≤ room := by
  induction items with
  | nil => exact iff_of_true (Nat.zero_le room) (List.forall_mem_nil _)
  | cons item rest ih => rw [levelsList, Nat.max_le, List.forall_mem_cons, ih]

theorem levelsEntries_le_iff {entries : List (Value × Value)} {room : Nat} :
    levelsEntries entries ≤ room ↔ ∀ entry ∈ entries, entry.2.levels ≤ room := by
  induction entries with
  | nil => exact iff_of_true (Nat.zero_le room) (List.forall_mem_nil _)
  | cons entry rest ih => rw [levelsEntries, Nat.max_le, List.forall_mem_cons, ih]

theorem levels_ofFields_le_iff {fields : List (String × Value)} {room : Nat} :
    (ofFields fields).levels ≤ room + 1 ↔ ∀ field ∈ fields, field.2.levels ≤ room := by
  rw [ofFields, levels, Nat.add_le_add_iff_right, levelsEntries_le_iff, entriesOf,
    List.forall_mem_map]

theorem levels_pos (value : Value) : 0 < value.levels := by
  cases value <;> exact Nat.succ_pos _

theorem plain_zero (value : Value) : value.plain 0 = .error .tooDeep := by
  cases value <;> rfl

/-! ### Plain form -/

theorem plainList_of_each {items : List Value} {room : Nat}
    (each : ∀ item ∈ items,
      item.plain room = if item.levels ≤ room then .ok item else .error .tooDeep) :
    plainList items room = if levelsList items ≤ room then .ok items else .error .tooDeep := by
  induction items with
  | nil => exact (if_pos (Nat.zero_le room)).symm
  | cons item rest ih =>
      obtain ⟨first, others⟩ := List.forall_mem_cons.mp each
      rw [plainList, first, ih others, levelsList]
      simp only [Nat.max_le]
      by_cases here : item.levels ≤ room <;> by_cases later : levelsList rest ≤ room <;>
        simp [here, later, Except.map]

theorem plainEntries_of_each {fields : List (String × Value)} {room : Nat}
    (each : ∀ field ∈ fields,
      field.2.plain room = if field.2.levels ≤ room then .ok field.2 else .error .tooDeep) :
    plainEntries (entriesOf fields) room =
      if levelsEntries (entriesOf fields) ≤ room then .ok fields else .error .tooDeep := by
  induction fields with
  | nil => exact (if_pos (Nat.zero_le room)).symm
  | cons field rest ih =>
      obtain ⟨first, others⟩ := List.forall_mem_cons.mp each
      rw [entriesOf] at ih ⊢
      rw [List.map_cons, plainEntries, plainKey, first, ih others, levelsEntries]
      simp only [Nat.max_le]
      by_cases here : field.2.levels ≤ room <;>
        by_cases later : levelsEntries (rest.map fun field => (text field.1, field.2)) ≤ room <;>
          simp [here, later, Except.map]

/-- Data is its own plain form as far as there is room for its levels. -/
theorem plain_of_isData {value : Value} (data : value.IsData) (room : Nat) :
    value.plain room = if value.levels ≤ room then .ok value else .error .tooDeep := by
  induction data generalizing room with
  | null | bool _ | int _ | text _ =>
      cases room with
      | zero => rfl
      | succ room => exact (if_pos (Nat.succ_le_succ (Nat.zero_le room))).symm
  | list _ ih =>
      cases room with
      | zero => rfl
      | succ room =>
          rw [plain, plainList_of_each fun item member => ih item member room, levels]
          simp only [Nat.add_le_add_iff_right]
          split <;> rfl
  | ofFields distinct _ ih =>
      cases room with
      | zero => rfl
      | succ room =>
          rw [ofFields, plain, plainEntries_of_each fun field member => ih field member room,
            levels]
          simp only [Nat.add_le_add_iff_right]
          split
          · change Except.ok (ofFields (Fields.ofWrites _)) = _
            rw [Fields.ofWrites_eq_self distinct, ofFields]
          · rfl

end Value

namespace Json

/-! ### Documents -/

theorem exists_ofList {items : List Value}
    (each : ∀ item ∈ items, ∃ document, ofValue item = .ok document ∧ document.isExact = true ∧
      document.toValue = item) :
    ∃ documents, ofList items = .ok documents ∧ areExact documents = true ∧
      toValues documents = items := by
  induction items with
  | nil => exact ⟨[], rfl, rfl, rfl⟩
  | cons item rest ih =>
      obtain ⟨⟨first, ofFirst, exactFirst, valueFirst⟩, others⟩ := List.forall_mem_cons.mp each
      obtain ⟨documents, ofRest, exactRest, valuesRest⟩ := ih others
      refine ⟨first :: documents, ?_, ?_, ?_⟩
      · rw [ofList, ofFirst, ofRest]
        rfl
      · rw [areExact, exactFirst, exactRest, Bool.and_self]
      · rw [toValues, valueFirst, valuesRest]

theorem exists_ofEntries {fields : Fields Value}
    (each : ∀ field ∈ fields,
      ∃ document, ofValue field.2 = .ok document ∧ document.isExact = true ∧
        document.toValue = field.2) :
    ∃ members, ofEntries (Value.entriesOf fields) = .ok members ∧ areMembersExact members = true ∧
      toFields members = fields := by
  induction fields with
  | nil => exact ⟨[], rfl, rfl, rfl⟩
  | cons field rest ih =>
      obtain ⟨⟨first, ofFirst, exactFirst, valueFirst⟩, others⟩ := List.forall_mem_cons.mp each
      obtain ⟨members, ofRest, exactRest, fieldsRest⟩ := ih others
      rw [Value.entriesOf] at ofRest ⊢
      refine ⟨(field.1, first) :: members, ?_, ?_, ?_⟩
      · rw [List.map_cons, ofEntries, nameOf, ofFirst, ofRest]
        rfl
      · rw [areMembersExact, exactFirst, exactRest, Bool.and_self]
      · rw [toFields, valueFirst, fieldsRest]

/-- Data whose integers can be written has a document whose text says exactly what it holds. -/
theorem exists_ofValue {value : Value} (data : value.IsData) (writable : value.isWritable = true) :
    ∃ document, ofValue value = .ok document ∧ document.isExact = true ∧
      document.toValue = value := by
  induction data with
  | null => exact ⟨null, rfl, rfl, rfl⟩
  | bool truth => exact ⟨bool truth, rfl, rfl, rfl⟩
  | int number =>
      refine ⟨int number, ?_, writable, rfl⟩
      rw [ofValue]
      exact if_pos writable
  | text content => exact ⟨text content, rfl, rfl, rfl⟩
  | list _ ih =>
      rw [Value.isWritable, Value.areWritable_iff] at writable
      obtain ⟨documents, ofItems, exactItems, values⟩ := exists_ofList fun item member =>
        ih item member (writable item member)
      refine ⟨list documents, ?_, ?_, ?_⟩
      · rw [ofValue, ofItems]
        rfl
      · rw [isExact, exactItems]
      · rw [toValue, values]
  | ofFields distinct _ ih =>
      rw [Value.isWritable_ofFields] at writable
      obtain ⟨members, ofMembers, exactMembers, fields⟩ :=
        exists_ofEntries fun field member => ih field member (writable field member)
      refine ⟨object members, ?_, ?_, ?_⟩
      · rw [Value.ofFields, ofValue, ofMembers]
        rfl
      · rw [isExact, exactMembers]
      · rw [toValue, fields, Fields.ofWrites_eq_self distinct]

/-- The text of data whose integers can be written is read as the data. -/
theorem exists_read_write (ascii : Bool) {value : Value} (data : value.IsData)
    (writable : value.isWritable = true) :
    ∃ document, ofValue value = .ok document ∧ read (write ascii document) = .ok document ∧
      document.toValue = value := by
  obtain ⟨document, ofData, exact_, same⟩ := exists_ofValue data writable
  exact ⟨document, ofData, read_write ascii exact_, same⟩

theorem ofList_eq_error {items : List Value} (data : ∀ item ∈ items, item.IsData)
    (each : ∀ item ∈ items, item.isWritable = false → ofValue item = .error .tooLong)
    (long : Value.areWritable items = false) : ofList items = .error .tooLong := by
  induction items with
  | nil => cases long
  | cons item rest ih =>
      obtain ⟨dataFirst, dataRest⟩ := List.forall_mem_cons.mp data
      obtain ⟨first, others⟩ := List.forall_mem_cons.mp each
      rw [ofList]
      cases writable : item.isWritable with
      | false => rw [first writable]
      | true =>
          obtain ⟨document, ofFirst, _⟩ := exists_ofValue dataFirst writable
          rw [Value.areWritable, writable, Bool.true_and] at long
          rw [ofFirst, ih dataRest others long]
          rfl

theorem ofEntries_eq_error {fields : Fields Value} (data : ∀ field ∈ fields, field.2.IsData)
    (each : ∀ field ∈ fields, field.2.isWritable = false → ofValue field.2 = .error .tooLong)
    (long : ¬∀ field ∈ fields, field.2.isWritable = true) :
    ofEntries (Value.entriesOf fields) = .error .tooLong := by
  induction fields with
  | nil => exact absurd (List.forall_mem_nil _) long
  | cons field rest ih =>
      obtain ⟨dataFirst, dataRest⟩ := List.forall_mem_cons.mp data
      obtain ⟨first, others⟩ := List.forall_mem_cons.mp each
      rw [Value.entriesOf] at ih ⊢
      rw [List.map_cons, ofEntries, nameOf]
      cases writable : field.2.isWritable with
      | false => rw [first writable]
      | true =>
          obtain ⟨document, ofFirst, _⟩ := exists_ofValue dataFirst writable
          rw [List.forall_mem_cons, not_and] at long
          rw [ofFirst, ih dataRest others (long writable)]
          rfl

/-- Data with an integer that is too long to be written has no document. -/
theorem ofValue_eq_error {value : Value} (data : value.IsData) (long : value.isWritable = false) :
    ofValue value = .error .tooLong := by
  induction data with
  | int number =>
      rw [ofValue]
      exact if_neg (Bool.eq_false_iff.mp long)
  | list each ih =>
      rw [Value.isWritable] at long
      rw [ofValue, ofList_eq_error each ih long]
      rfl
  | ofFields _ each ih =>
      rw [Bool.eq_false_iff, ne_eq, Value.isWritable_ofFields] at long
      rw [Value.ofFields, ofValue, ofEntries_eq_error each ih long]
      rfl
  | null | bool _ | text _ => cases long

end Json
end TaskGraph
