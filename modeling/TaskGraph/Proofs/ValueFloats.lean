import TaskGraph.Proofs.PlainForms
import TaskGraph.Proofs.WrittenJson
set_option autoImplicit false

/-! The floats of a value, of its plain form and of its document. A plain form keeps the finite
ones; a document has all of them as numbers but those that stand in sets. -/

namespace TaskGraph.Value

variable {holds : Binary64 → Prop}

/-- Whether a property holds of every float that a value is made of, those in its keys apart. -/
inductive EachFloat (holds : Binary64 → Prop) : Value → Prop
  | null : EachFloat holds null
  | bool (truth : Bool) : EachFloat holds (bool truth)
  | int (number : Int) : EachFloat holds (int number)
  | float {number : Binary64} : holds number → EachFloat holds (float number)
  | text (content : String) : EachFloat holds (text content)
  | bytes (content : List UInt8) : EachFloat holds (bytes content)
  | date (day : Date) : EachFloat holds (date day)
  | moment (time : DateTime) : EachFloat holds (moment time)
  | list {items : List Value} : (∀ item ∈ items, EachFloat holds item) →
      EachFloat holds (list items)
  | tuple {items : List Value} : (∀ item ∈ items, EachFloat holds item) →
      EachFloat holds (tuple items)
  | set {members : List Value} : (∀ item ∈ members, EachFloat holds item) →
      EachFloat holds (set members)
  | mapping {entries : List (Value × Value)} : (∀ entry ∈ entries, EachFloat holds entry.2) →
      EachFloat holds (mapping entries)
  | config {fields : List (String × Value)} {frozen : Bool} :
      (∀ field ∈ fields, EachFloat holds field.2) →
      EachFloat holds (config fields frozen)

/-- Whether a property holds of every float of a value that its document
has as a number. What a set holds is text there. -/
inductive EachNumber (holds : Binary64 → Prop) : Value → Prop
  | null : EachNumber holds null
  | bool (truth : Bool) : EachNumber holds (bool truth)
  | int (number : Int) : EachNumber holds (int number)
  | float {number : Binary64} : holds number → EachNumber holds (float number)
  | text (content : String) : EachNumber holds (text content)
  | bytes (content : List UInt8) : EachNumber holds (bytes content)
  | date (day : Date) : EachNumber holds (date day)
  | moment (time : DateTime) : EachNumber holds (moment time)
  | list {items : List Value} : (∀ item ∈ items, EachNumber holds item) →
      EachNumber holds (list items)
  | tuple {items : List Value} : (∀ item ∈ items, EachNumber holds item) →
      EachNumber holds (tuple items)
  | set (members : List Value) : EachNumber holds (set members)
  | mapping {entries : List (Value × Value)} : (∀ entry ∈ entries, EachNumber holds entry.2) →
      EachNumber holds (mapping entries)
  | config (fields : List (String × Value)) (frozen : Bool) :
      EachNumber holds (config fields frozen)

theorem eachNumber_float_iff {number : Binary64} :
    (float number).EachNumber holds ↔ holds number := by
  refine ⟨fun each => ?_, .float⟩
  cases each with
  | float here => exact here

theorem eachNumber_list_iff {items : List Value} :
    (list items).EachNumber holds ↔ ∀ item ∈ items, item.EachNumber holds := by
  refine ⟨fun each => ?_, .list⟩
  cases each with
  | list each => exact each

theorem eachNumber_tuple_iff {items : List Value} :
    (tuple items).EachNumber holds ↔ ∀ item ∈ items, item.EachNumber holds := by
  refine ⟨fun each => ?_, .tuple⟩
  cases each with
  | tuple each => exact each

theorem eachNumber_mapping_iff {entries : List (Value × Value)} :
    (mapping entries).EachNumber holds ↔ ∀ entry ∈ entries, entry.2.EachNumber holds := by
  refine ⟨fun each => ?_, .mapping⟩
  cases each with
  | mapping each => exact each

theorem eachNumber_ofFields (fields : List (String × Value)) :
    (ofFields fields).EachNumber holds ↔ ∀ field ∈ fields, field.2.EachNumber holds := by
  rw [ofFields, eachNumber_mapping_iff, entriesOf, List.forall_mem_map]

theorem EachFloat.eachNumber {value : Value} (each : value.EachFloat holds) :
    value.EachNumber holds := by
  induction each with
  | null => exact .null
  | bool truth => exact .bool truth
  | int number => exact .int number
  | float here => exact .float here
  | text content => exact .text content
  | bytes content => exact .bytes content
  | date day => exact .date day
  | moment time => exact .moment time
  | list _ ih => exact .list ih
  | tuple _ ih => exact .tuple ih
  | set _ _ => exact .set _
  | mapping _ ih => exact .mapping ih
  | config _ _ => exact .config _ _

theorem EachFloat.imp {also : Binary64 → Prop} (implies : ∀ number, holds number → also number)
    {value : Value} (each : value.EachFloat holds) : value.EachFloat also := by
  induction each with
  | null => exact .null
  | bool truth => exact .bool truth
  | int number => exact .int number
  | float here => exact .float (implies _ here)
  | text content => exact .text content
  | bytes content => exact .bytes content
  | date day => exact .date day
  | moment time => exact .moment time
  | list _ ih => exact .list ih
  | tuple _ ih => exact .tuple ih
  | set _ ih => exact .set ih
  | mapping _ ih => exact .mapping ih
  | config _ ih => exact .config ih

theorem EachFloat.ofFields {fields : List (String × Value)}
    (each : ∀ field ∈ fields, field.2.EachFloat holds) :
    (ofFields fields).EachFloat holds := .mapping (by rwa [entriesOf, List.forall_mem_map])

theorem EachFloat.ofWrites {writes : List (String × Value)}
    (each : ∀ field ∈ writes, field.2.EachFloat holds) :
    (Value.ofFields (Fields.ofWrites writes)).EachFloat holds :=
  .ofFields fun field member => each field (Fields.mem_of_mem_ofWrites member)

theorem EachFloat.normalise {value : Value} (each : value.EachFloat holds) :
    value.normalise.EachFloat holds := by
  induction each with
  | null => exact .null
  | bool truth => exact .bool truth
  | int number => exact .int number
  | float here => exact .float here
  | text content => exact .text content
  | bytes content => exact .bytes content
  | date day => exact .date day
  | moment time => exact .moment time
  | list _ ih =>
      rw [Value.normalise, normaliseList_eq_map]
      exact .list (List.forall_mem_map.mpr ih)
  | tuple each _ => exact .tuple each
  | set each _ => exact .set each
  | mapping _ ih =>
      rw [Value.normalise, normaliseEntries_eq_map]
      exact .ofWrites (List.forall_mem_map.mpr ih)
  | config _ ih =>
      rw [Value.normalise, normaliseFields_eq_map]
      exact .ofWrites (List.forall_mem_map.mpr ih)

/-- The parts of a value and its stored form have no other floats. -/
theorem hereditary_eachFloat (holds : Binary64 → Prop) : Hereditary (EachFloat holds) where
  normalise := fun _ => EachFloat.normalise
  entries := fun _ whole => by
    cases whole with
    | mapping each => exact each
  fields := fun _ _ whole => by
    cases whole with
    | config each => exact each
  items := fun _ whole => by
    cases whole with
    | list each => exact each

/-- The floats of a plain form are the finite ones of the value. -/
theorem eachFloat_of_plain {value form : Value} {room : Nat} (whole : value.EachFloat holds)
    (plain : value.plain room = .ok form) :
    form.EachFloat fun number => holds number ∧ number.isFinite = true := by
  induction whole generalizing room form with obtain ⟨less, rfl⟩ := exists_room_of_plain plain
  | null =>
      cases plain
      exact .null
  | bool truth =>
      cases plain
      exact .bool truth
  | int number =>
      cases plain
      exact .int number
  | float here =>
      cases plain
      split
      · exact .float ⟨here, ‹_›⟩
      · exact .null
  | text content =>
      cases plain
      exact .text content
  | bytes content =>
      rw [Value.plain] at plain
      split at plain <;> cases plain
      exact .text _
  | date _ | moment _ =>
      cases plain
      exact .text _
  | list _ each | tuple _ each | set _ each =>
      obtain ⟨forms, made, rfl⟩ := map_eq_ok_iff.mp plain
      rw [plainList_eq_mapM] at made
      refine .list fun form member => ?_
      obtain ⟨item, inside, same⟩ := exists_of_mem_mapM made member
      exact each item inside same
  | mapping _ each =>
      obtain ⟨writes, made, rfl⟩ := map_eq_ok_iff.mp plain
      rw [plainEntries_eq_mapM] at made
      refine .ofWrites fun field member => ?_
      obtain ⟨entry, inside, same⟩ := exists_of_mem_mapM made member
      exact each entry inside (onBoth_eq_ok_iff.mp same).2
  | config _ _ => cases plain

/-- The numbers of a document are the floats of the value, those in its sets apart. -/
theorem eachFloat_document_iff (value : Value) (document : Json)
    (written : Json.ofValue value = .ok document) :
    document.EachFloat holds ↔ value.EachNumber holds := by
  induction value generalizing document with
  | null =>
      cases written
      exact iff_of_true .null .null
  | bool truth =>
      cases written
      exact iff_of_true (.bool truth) (.bool truth)
  | int number =>
      rw [Json.ofValue] at written
      split at written <;> cases written
      exact iff_of_true (.int number) (.int number)
  | float number =>
      cases written
      rw [Json.eachFloat_float_iff, eachNumber_float_iff]
  | text content =>
      cases written
      exact iff_of_true (.text content) (.text content)
  | bytes content =>
      cases written
      exact iff_of_true (.text _) (.bytes content)
  | date day =>
      cases written
      exact iff_of_true (.text _) (.date day)
  | moment time =>
      cases written
      exact iff_of_true (.text _) (.moment time)
  | list items each =>
      obtain ⟨documents, made, rfl⟩ := map_eq_ok_iff.mp written
      rw [Json.ofList_eq_mapM, mapM_eq_ok_iff_forall₂] at made
      rw [Json.eachFloat_list_iff, eachNumber_list_iff]
      exact forall_mem_iff_of_forall₂ made each
  | tuple items each =>
      obtain ⟨documents, made, rfl⟩ := map_eq_ok_iff.mp written
      rw [Json.ofList_eq_mapM, mapM_eq_ok_iff_forall₂] at made
      rw [Json.eachFloat_list_iff, eachNumber_tuple_iff]
      exact forall_mem_iff_of_forall₂ made each
  | set members _ =>
      obtain ⟨_, rfl⟩ := ofValue_shown rfl written
      exact iff_of_true (.text _) (.set members)
  | mapping entries _ each =>
      obtain ⟨members, made, rfl⟩ := map_eq_ok_iff.mp written
      rw [Json.ofEntries_eq_mapM, mapM_eq_ok_iff_forall₂] at made
      rw [Json.eachFloat_object_iff, eachNumber_mapping_iff]
      refine forall_mem_iff_of_forall₂ made fun entry inside member both => ?_
      exact each entry inside member.2 (onBoth_eq_ok_iff.mp both).2
  | config fields frozen _ =>
      obtain ⟨_, rfl⟩ := ofValue_shown rfl written
      exact iff_of_true (.text _) (.config fields frozen)

end TaskGraph.Value
