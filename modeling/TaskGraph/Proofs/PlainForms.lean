import TaskGraph.Proofs.PlainDocuments
import TaskGraph.Proofs.Results
set_option autoImplicit false

/-! Which values have a plain form, and which have a document. The two differ in the keys that they
can name and in what they make of bytes, sets and moments; a plain form always has a document unless
it holds an integer that is too long. -/

namespace TaskGraph

/-! ### Rows -/

theorem Value.plainKeys_eq_mapM (items : List Value) : plainKeys items = items.mapM plainKey := by
  refine eq_mapM (g := plainKeys) rfl (fun item rest => ?_) items
  rw [plainKeys]
  cases item.plainKey <;> rfl

theorem Value.plainList_eq_mapM (room : Nat) (items : List Value) :
    plainList items room = items.mapM (plain · room) := by
  refine eq_mapM (g := (plainList · room)) rfl (fun item rest => ?_) items
  rw [plainList]
  cases item.plain room <;> rfl

theorem Value.plainEntries_eq_mapM (room : Nat) (entries : List (Value × Value)) :
    plainEntries entries room = entries.mapM (onBoth plainKey (plain · room)) := by
  refine eq_mapM (g := (plainEntries · room)) rfl (fun entry rest => ?_) entries
  rw [plainEntries, onBoth]
  cases entry.1.plainKey <;> cases entry.2.plain room <;> rfl

theorem Json.ofList_eq_mapM (items : List Value) : ofList items = items.mapM ofValue := by
  refine eq_mapM (g := ofList) rfl (fun item rest => ?_) items
  rw [ofList]
  cases ofValue item <;> rfl

theorem Json.ofEntries_eq_mapM (entries : List (Value × Value)) :
    ofEntries entries = entries.mapM (onBoth nameOf ofValue) := by
  refine eq_mapM (g := ofEntries) rfl (fun entry rest => ?_) entries
  rw [ofEntries, onBoth]
  cases nameOf entry.1 <;> cases ofValue entry.2 <;> rfl

theorem Value.plainList_cons_iff {room : Nat} {item : Value} {rest forms : List Value} :
    plainList (item :: rest) room = .ok forms ↔
      ∃ first, item.plain room = .ok first ∧
        ∃ others, plainList rest room = .ok others ∧ first :: others = forms := by
  rw [plainList_eq_mapM, plainList_eq_mapM, mapM_cons_eq_ok_iff]

theorem Json.ofList_cons_iff {item : Value} {rest : List Value} {documents : List Json} :
    ofList (item :: rest) = .ok documents ↔
      ∃ first, ofValue item = .ok first ∧
        ∃ others, ofList rest = .ok others ∧ first :: others = documents := by
  rw [ofList_eq_mapM, ofList_eq_mapM, mapM_cons_eq_ok_iff]

/-! ### What can be written -/

namespace Value

inductive IsPlainKey : Value → Prop
  | null : IsPlainKey null
  | bool (truth : Bool) : IsPlainKey (bool truth)
  | int {number : Int} : TaskGraph.isWritable number = true → IsPlainKey (int number)
  | float (number : Binary64) : IsPlainKey (float number)
  | text (content : String) : IsPlainKey (text content)
  | bytes {content : List UInt8} : Text.decodeUtf8? content ≠ none → IsPlainKey (bytes content)
  | date (day : Date) : IsPlainKey (date day)
  | moment (time : DateTime) : IsPlainKey (moment time)
  | tuple {items : List Value} : (∀ item ∈ items, IsPlainKey item) → IsPlainKey (tuple items)

/-- The values that have a plain form: bytes must be a text, and
the keys of mappings must have names. -/
inductive HasPlain : Value → Prop
  | null : HasPlain null
  | bool (truth : Bool) : HasPlain (bool truth)
  | int (number : Int) : HasPlain (int number)
  | float (number : Binary64) : HasPlain (float number)
  | text (content : String) : HasPlain (text content)
  | bytes {content : List UInt8} : Text.decodeUtf8? content ≠ none → HasPlain (bytes content)
  | date (day : Date) : HasPlain (date day)
  | moment (time : DateTime) : HasPlain (moment time)
  | list {items : List Value} : (∀ item ∈ items, HasPlain item) → HasPlain (list items)
  | tuple {items : List Value} : (∀ item ∈ items, HasPlain item) → HasPlain (tuple items)
  | set {members : List Value} : (∀ item ∈ members, HasPlain item) → HasPlain (set members)
  | mapping {entries : List (Value × Value)} : (∀ entry ∈ entries, IsPlainKey entry.1) →
      (∀ entry ∈ entries, HasPlain entry.2) → HasPlain (mapping entries)

inductive IsName : Value → Prop
  | null : IsName null
  | bool (truth : Bool) : IsName (bool truth)
  | int {number : Int} : TaskGraph.isWritable number = true → IsName (int number)
  | float (number : Binary64) : IsName (float number)
  | text (content : String) : IsName (text content)

/-- The values that have a document: integers must not be too long,
and the keys of mappings must have names. -/
inductive HasDocument : Value → Prop
  | null : HasDocument null
  | bool (truth : Bool) : HasDocument (bool truth)
  | int {number : Int} : TaskGraph.isWritable number = true → HasDocument (int number)
  | float (number : Binary64) : HasDocument (float number)
  | text (content : String) : HasDocument (text content)
  | bytes (content : List UInt8) : HasDocument (bytes content)
  | date (day : Date) : HasDocument (date day)
  | moment (time : DateTime) : HasDocument (moment time)
  | list {items : List Value} : (∀ item ∈ items, HasDocument item) → HasDocument (list items)
  | tuple {items : List Value} : (∀ item ∈ items, HasDocument item) → HasDocument (tuple items)
  | set {members : List Value} : (set members).isWritable = true → HasDocument (set members)
  | mapping {entries : List (Value × Value)} : (∀ entry ∈ entries, IsName entry.1) →
      (∀ entry ∈ entries, HasDocument entry.2) → HasDocument (mapping entries)
  | config {fields : List (String × Value)} {frozen : Bool} :
      (config fields frozen).isWritable = true →
      HasDocument (config fields frozen)

theorem hasDocument_int_iff {number : Int} :
    (int number).HasDocument ↔ TaskGraph.isWritable number = true := by
  refine ⟨fun document => ?_, .int⟩
  cases document with
  | int writable => exact writable

theorem hasDocument_list_iff {items : List Value} :
    (list items).HasDocument ↔ ∀ item ∈ items, item.HasDocument := by
  refine ⟨fun document => ?_, .list⟩
  cases document with
  | list each => exact each

theorem hasDocument_ofFields (fields : List (String × Value)) :
    (ofFields fields).HasDocument ↔ ∀ field ∈ fields, field.2.HasDocument := by
  constructor
  · intro document
    cases document with
    | mapping _ each => rwa [entriesOf, List.forall_mem_map] at each
  · intro each
    exact .mapping (List.forall_mem_map.mpr fun field _ => .text field.1)
      (List.forall_mem_map.mpr each)

theorem exists_decoded_iff {α : Type} {content : List UInt8} {make : List Char → α} :
    (∃ form, (match Text.decodeUtf8? content with
        | some characters => Except.ok (make characters)
        | none => .error (SerialError.undecodable content)) = .ok form) ↔
      Text.decodeUtf8? content ≠ none := by
  cases Text.decodeUtf8? content with
  | none => exact iff_of_false not_exists_error_eq_ok fun isText => isText rfl
  | some characters => exact iff_of_true ⟨_, rfl⟩ (Option.some_ne_none characters)

theorem exists_plainKey_iff (key : Value) : (∃ name, key.plainKey = .ok name) ↔ key.IsPlainKey := by
  induction key with
  | null => exact iff_of_true ⟨_, rfl⟩ .null
  | bool truth => exact iff_of_true ⟨_, rfl⟩ (.bool truth)
  | int number =>
      rw [plainKey, exists_ite_eq_ok_iff]
      refine ⟨.int, fun named => ?_⟩
      cases named with
      | int writable => exact writable
  | float number => exact iff_of_true ⟨_, rfl⟩ (.float number)
  | text content => exact iff_of_true ⟨_, rfl⟩ (.text content)
  | bytes content =>
      refine exists_decoded_iff.trans ⟨.bytes, fun named => ?_⟩
      cases named with
      | bytes isText => exact isText
  | date day => exact iff_of_true ⟨_, rfl⟩ (.date day)
  | moment time => exact iff_of_true ⟨_, rfl⟩ (.moment time)
  | tuple items each =>
      rw [plainKey, exists_map_eq_ok_iff, plainKeys_eq_mapM, exists_mapM_iff, forall₂_congr each]
      refine ⟨.tuple, fun named => ?_⟩
      cases named with
      | tuple each => exact each
  | list _ _ | set _ _ | mapping _ _ _ | config _ _ _ =>
      refine iff_of_false not_exists_error_eq_ok fun named => ?_
      cases named

theorem exists_plainList_iff {items : List Value} {room : Nat}
    (each : ∀ item ∈ items, ∀ room,
      (∃ form, item.plain room = .ok form) ↔ item.HasPlain ∧ item.levels ≤ room) :
    (∃ forms, plainList items room = .ok forms) ↔
      (∀ item ∈ items, item.HasPlain) ∧ levelsList items ≤ room := by
  rw [plainList_eq_mapM, exists_mapM_iff, levelsList_le_iff, ← forall₂_and]
  exact forall₂_congr fun item member => each item member room

theorem exists_plain_iff_of_room {value : Value} {room : Nat}
    (fits : ∀ {less : Nat}, (∃ form, value.plain (less + 1) = .ok form) ↔
      value.HasPlain ∧ value.levels ≤ less + 1) :
    (∃ form, value.plain room = .ok form) ↔ value.HasPlain ∧ value.levels ≤ room := by
  cases room with
  | zero =>
      rw [plain_zero]
      exact iff_of_false not_exists_error_eq_ok fun both => Nat.not_lt.mpr both.2 value.levels_pos
  | succ room => exact fits

/-- A value has a plain form if there is room for its levels, all of its bytes are texts and all of
its keys have names, and only then. -/
theorem exists_plain_iff (value : Value) (room : Nat) :
    (∃ form, value.plain room = .ok form) ↔ value.HasPlain ∧ value.levels ≤ room := by
  have one {less : Nat} : 1 ≤ less + 1 := Nat.succ_le_succ (Nat.zero_le less)
  induction value generalizing room with
  | null => exact exists_plain_iff_of_room (iff_of_true ⟨_, rfl⟩ ⟨.null, one⟩)
  | bool truth => exact exists_plain_iff_of_room (iff_of_true ⟨_, rfl⟩ ⟨.bool truth, one⟩)
  | int number => exact exists_plain_iff_of_room (iff_of_true ⟨_, rfl⟩ ⟨.int number, one⟩)
  | float number => exact exists_plain_iff_of_room (iff_of_true ⟨_, rfl⟩ ⟨.float number, one⟩)
  | text content => exact exists_plain_iff_of_room (iff_of_true ⟨_, rfl⟩ ⟨.text content, one⟩)
  | bytes content =>
      refine exists_plain_iff_of_room (exists_decoded_iff.trans ?_)
      refine ⟨fun isText => ⟨.bytes isText, one⟩, fun both => ?_⟩
      cases both.1 with
      | bytes isText => exact isText
  | date day => exact exists_plain_iff_of_room (iff_of_true ⟨_, rfl⟩ ⟨.date day, one⟩)
  | moment time => exact exists_plain_iff_of_room (iff_of_true ⟨_, rfl⟩ ⟨.moment time, one⟩)
  | list items each =>
      refine exists_plain_iff_of_room fun {less} => ?_
      rw [plain, exists_map_eq_ok_iff, exists_plainList_iff each, levels, Nat.add_le_add_iff_right]
      refine and_congr_left fun _ => ⟨.list, fun plain => ?_⟩
      cases plain with
      | list each => exact each
  | tuple items each =>
      refine exists_plain_iff_of_room fun {less} => ?_
      rw [plain, exists_map_eq_ok_iff, exists_plainList_iff each, levels, Nat.add_le_add_iff_right]
      refine and_congr_left fun _ => ⟨.tuple, fun plain => ?_⟩
      cases plain with
      | tuple each => exact each
  | set members each =>
      refine exists_plain_iff_of_room fun {less} => ?_
      rw [plain, exists_map_eq_ok_iff, exists_plainList_iff each, levels, Nat.add_le_add_iff_right]
      refine and_congr_left fun _ => ⟨.set, fun plain => ?_⟩
      cases plain with
      | set each => exact each
  | mapping entries _ each =>
      refine exists_plain_iff_of_room fun {less} => ?_
      rw [plain, exists_map_eq_ok_iff, plainEntries_eq_mapM, exists_mapM_onBoth_iff, levels,
        Nat.add_le_add_iff_right, levelsEntries_le_iff]
      simp only [exists_plainKey_iff]
      rw [forall₂_congr fun entry member => each entry member less, forall₂_and, ← and_assoc]
      refine and_congr_left fun _ => ⟨fun both => .mapping both.1 both.2, fun plain => ?_⟩
      cases plain with
      | mapping named each => exact ⟨named, each⟩
  | config fields frozen =>
      refine exists_plain_iff_of_room (iff_of_false not_exists_error_eq_ok fun both => ?_)
      cases both.1

theorem exists_nameOf_iff (key : Value) : (∃ name, Json.nameOf key = .ok name) ↔ key.IsName := by
  cases key with
  | null => exact iff_of_true ⟨_, rfl⟩ .null
  | bool truth => exact iff_of_true ⟨_, rfl⟩ (.bool truth)
  | int number =>
      rw [Json.nameOf, exists_ite_eq_ok_iff]
      refine ⟨.int, fun named => ?_⟩
      cases named with
      | int writable => exact writable
  | float number => exact iff_of_true ⟨_, rfl⟩ (.float number)
  | text content => exact iff_of_true ⟨_, rfl⟩ (.text content)
  | bytes _ | date _ | moment _ | list _ | tuple _ | set _ | mapping _ | config _ _ =>
      refine iff_of_false not_exists_error_eq_ok fun named => ?_
      cases named

/-- A value has a document if its integers can be written and all
of its keys have names, and only then. -/
theorem exists_document_iff (value : Value) :
    (∃ document, Json.ofValue value = .ok document) ↔ value.HasDocument := by
  induction value with
  | null => exact iff_of_true ⟨_, rfl⟩ .null
  | bool truth => exact iff_of_true ⟨_, rfl⟩ (.bool truth)
  | int number =>
      rw [Json.ofValue, exists_ite_eq_ok_iff, hasDocument_int_iff]
  | float number => exact iff_of_true ⟨_, rfl⟩ (.float number)
  | text content => exact iff_of_true ⟨_, rfl⟩ (.text content)
  | bytes content => exact iff_of_true ⟨_, rfl⟩ (.bytes content)
  | date day => exact iff_of_true ⟨_, rfl⟩ (.date day)
  | moment time => exact iff_of_true ⟨_, rfl⟩ (.moment time)
  | list items each =>
      rw [Json.ofValue, exists_map_eq_ok_iff, Json.ofList_eq_mapM, exists_mapM_iff,
        forall₂_congr each, hasDocument_list_iff]
  | tuple items each =>
      rw [Json.ofValue, exists_map_eq_ok_iff, Json.ofList_eq_mapM, exists_mapM_iff,
        forall₂_congr each]
      refine ⟨.tuple, fun written => ?_⟩
      cases written with
      | tuple each => exact each
  | set members =>
      refine exists_ite_eq_ok_iff.trans ⟨.set, fun written => ?_⟩
      cases written with
      | set writable => exact writable
  | mapping entries _ each =>
      rw [Json.ofValue, exists_map_eq_ok_iff, Json.ofEntries_eq_mapM, exists_mapM_onBoth_iff,
        forall₂_congr each]
      simp only [exists_nameOf_iff]
      refine ⟨fun both => .mapping both.1 both.2, fun written => ?_⟩
      cases written with
      | mapping named each => exact ⟨named, each⟩
  | config fields frozen =>
      refine exists_ite_eq_ok_iff.trans ⟨.config, fun written => ?_⟩
      cases written with
      | config writable => exact writable

theorem ofValue_shown {value : Value} {document : Json}
    (shown : Json.ofValue value = if value.isWritable then .ok (.text value.plainText)
      else .error .tooLong)
    (written : Json.ofValue value = .ok document) :
    value.isWritable = true ∧ document = .text value.plainText := by
  rw [shown] at written
  split at written
  · cases written
    exact ⟨‹_›, rfl⟩
  · cases written

/-! ### Plain values -/

/-- A value in plain form: nulls, truth values, numbers, texts, lists,
and mappings with each of their names once. -/
inductive IsPlain : Value → Prop
  | null : IsPlain null
  | bool (truth : Bool) : IsPlain (bool truth)
  | int (number : Int) : IsPlain (int number)
  | float (number : Binary64) : IsPlain (float number)
  | text (content : String) : IsPlain (text content)
  | list {items : List Value} : (∀ item ∈ items, IsPlain item) → IsPlain (list items)
  | ofFields {fields : Fields Value} : fields.Distinct → (∀ field ∈ fields, IsPlain field.2) →
      IsPlain (ofFields fields)

theorem exists_room_of_plain {value form : Value} {room : Nat}
    (plain : value.plain room = .ok form) :
    ∃ less, room = less + 1 := by
  cases room with
  | zero =>
      rw [plain_zero] at plain
      cases plain
  | succ less => exact ⟨less, rfl⟩

theorem isPlain_of_plain {value form : Value} {room : Nat} (plain : value.plain room = .ok form) :
    form.IsPlain := by
  induction value generalizing room form with obtain ⟨less, rfl⟩ := exists_room_of_plain plain
  | null =>
      cases plain
      exact .null
  | bool truth =>
      cases plain
      exact .bool truth
  | int number =>
      cases plain
      exact .int number
  | float number =>
      cases plain
      split
      · exact .float number
      · exact .null
  | text content =>
      cases plain
      exact .text content
  | bytes content =>
      rw [Value.plain] at plain
      split at plain <;> cases plain
      exact .text _
  | date _ | moment _ =>
      cases plain
      exact .text _
  | list items each | tuple items each | set items each =>
      obtain ⟨forms, made, rfl⟩ := map_eq_ok_iff.mp plain
      rw [plainList_eq_mapM] at made
      refine .list fun form member => ?_
      obtain ⟨item, inside, same⟩ := exists_of_mem_mapM made member
      exact each item inside same
  | mapping entries _ each =>
      obtain ⟨writes, made, rfl⟩ := map_eq_ok_iff.mp plain
      rw [plainEntries_eq_mapM] at made
      refine .ofFields (Fields.distinct_ofWrites writes) fun field member => ?_
      obtain ⟨entry, inside, same⟩ := exists_of_mem_mapM made (Fields.mem_of_mem_ofWrites member)
      exact each entry inside (onBoth_eq_ok_iff.mp same).2
  | config _ _ _ => cases plain

/-- A plain value has a document as soon as its integers can be written. -/
theorem IsPlain.hasDocument_iff {form : Value} (plain : form.IsPlain) :
    form.HasDocument ↔ form.isWritable = true := by
  induction plain with
  | null => exact iff_of_true .null rfl
  | bool truth => exact iff_of_true (.bool truth) rfl
  | int number => exact hasDocument_int_iff
  | float number => exact iff_of_true (.float number) rfl
  | text content => exact iff_of_true (.text content) rfl
  | list _ ih =>
      rw [isWritable, areWritable_iff, ← forall₂_congr ih, hasDocument_list_iff]
  | ofFields _ _ ih => rw [hasDocument_ofFields, isWritable_ofFields, forall₂_congr ih]

end Value

namespace Json

theorem toValues_eq_map (documents : List Json) : toValues documents = documents.map toValue := by
  induction documents with
  | nil => rfl
  | cons document rest ih => rw [toValues, ih, List.map_cons]

theorem toFields_eq_map (members : List (String × Json)) :
    toFields members = members.map fun member => (member.1, member.2.toValue) := by
  induction members with
  | nil => rfl
  | cons member rest ih => rw [toFields, ih, List.map_cons]

theorem toValues_of_ofList {items : List Value} {documents : List Json}
    (each : ∀ item ∈ items, ∀ document, ofValue item = .ok document → document.toValue = item)
    (written : ofList items = .ok documents) : toValues documents = items := by
  rw [ofList_eq_mapM] at written
  rw [toValues_eq_map]
  refine map_eq_of_mapM written (mapM_ok SerialError items) ?_
  rintro item member document _ made ⟨⟩
  exact each item member document made

theorem toFields_of_ofEntries {fields : List (String × Value)} {members : List (String × Json)}
    (each : ∀ field ∈ fields, ∀ document, ofValue field.2 = .ok document →
      document.toValue = field.2)
    (written : ofEntries (Value.entriesOf fields) = .ok members) : toFields members = fields := by
  rw [ofEntries_eq_mapM, Value.entriesOf, List.mapM_map] at written
  rw [toFields_eq_map]
  refine map_eq_of_mapM written (mapM_ok SerialError fields) ?_
  rintro field inside member _ made ⟨⟩
  obtain ⟨named, document⟩ := onBoth_eq_ok_iff.mp made
  exact Prod.ext (Except.ok.inj named).symm (each field inside _ document)

/-- The document of a plain value holds this value. -/
theorem toValue_of_isPlain {form : Value} (plain : form.IsPlain) {document : Json}
    (written : ofValue form = .ok document) :
    document.toValue = form := by
  induction plain generalizing document with
  | null | bool _ | float _ | text _ =>
      cases written
      rfl
  | int number =>
      rw [ofValue] at written
      split at written
      · cases written
        rfl
      · cases written
  | list _ ih =>
      rw [ofValue] at written
      obtain ⟨documents, ofItems, rfl⟩ := map_eq_ok_iff.mp written
      rw [toValue, toValues_of_ofList (fun item member _ => ih item member) ofItems]
  | ofFields distinct _ ih =>
      rw [Value.ofFields, ofValue] at written
      obtain ⟨members, ofMembers, rfl⟩ := map_eq_ok_iff.mp written
      rw [toValue, toFields_of_ofEntries (fun field member _ => ih field member) ofMembers,
        Fields.ofWrites_eq_self distinct]

end Json
end TaskGraph
