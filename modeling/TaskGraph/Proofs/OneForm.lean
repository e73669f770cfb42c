import TaskGraph.Proofs.PlainForms
set_option autoImplicit false

/-! Values whose plain form is what their document holds. A value is written in two ways: as it is,
or in plain form first. Dates are written alike, and so is what nulls, truth values, texts and
finite numbers are made into lists and mappings. Moments, bytes, sets and numbers that are not
finite are written in two forms, and so are some keys. -/

namespace TaskGraph

/-! ### Bytes and moments -/

namespace Text

theorem length_decodeFrom_le {need value least : Nat} {bytes : List UInt8} {characters : List Char}
    (decoded : decodeFrom need value least bytes = some characters) :
    characters.length ≤ bytes.length := by
  induction bytes generalizing need value least characters with
  | nil =>
      rw [decodeFrom] at decoded
      split at decoded
      · cases decoded
        exact Nat.le_refl 0
      · cases decoded
  | cons byte rest ih =>
      have more {need value least : Nat} {later : List Char}
          (found : decodeFrom need value least rest = some later) :
          later.length ≤ (byte :: rest).length := Nat.le_succ_of_le (ih found)
      have single {c : Char} {later : List Char}
          (found : (decodeFrom 0 0 0 rest).map (c :: ·) = some later) :
          later.length ≤ (byte :: rest).length := by
        obtain ⟨others, decodedRest, rfl⟩ := Option.map_eq_some_iff.mp found
        exact Nat.succ_le_succ (ih decodedRest)
      rw [decodeFrom] at decoded
      dsimp only at decoded
      repeat' split at decoded
      all_goals first | exact single decoded | exact more decoded | cases decoded

theorem length_quoteByte_pos (quote : Char) (byte : UInt8) : 0 < (quoteByte quote byte).length := by
  unfold quoteByte quoteChar numericEscape
  repeat' split
  all_goals exact Nat.succ_pos _

theorem length_le_flatMap_quoteByte (quote : Char) (bytes : List UInt8) :
    bytes.length ≤ (bytes.flatMap (quoteByte quote)).length := by
  induction bytes with
  | nil => exact Nat.le_refl 0
  | cons byte rest ih =>
      have here := length_quoteByte_pos quote byte
      rw [List.flatMap_cons, List.length_append, List.length_cons]
      omega

/-- Bytes between quotes are longer than the text that they encode. -/
theorem quotedBytes_ne_of_decodeUtf8? {bytes : List UInt8} {characters : List Char}
    (decoded : decodeUtf8? bytes = some characters) :
    quotedBytes bytes ≠ String.ofList characters := by
  intro same
  have short := length_decodeFrom_le decoded
  unfold quotedBytes at same
  have lengths := congrArg List.length (String.ofList_injective same)
  have long := length_le_flatMap_quoteByte
    (quoteFor (bytes.map fun byte => Char.ofNat byte.toNat)) bytes
  simp only [List.length_cons, List.length_append, List.length_nil] at lengths
  omega

end Text

/-- A moment has a blank between its day and its time, and in plain form the letter `T`. -/
theorem DateTime.textWith_ne_zulu (time : DateTime) : time.textWith ' ' ≠ time.zulu := by
  intro same
  unfold textWith zulu clockChars at same
  have characters := String.ofList_injective same
  simp only [List.append_assoc, List.cons_append] at characters
  exact absurd (List.cons.inj (List.append_cancel_left characters)).1 (by decide)

/-! ### One form -/

namespace Value

inductive HasOneName : Value → Prop
  | bool (truth : Bool) : HasOneName (bool truth)
  | int (number : Int) : HasOneName (int number)
  | float {number : Binary64} : number.isFinite = true → HasOneName (float number)
  | text (content : String) : HasOneName (text content)

/-- The values that are written in one form. -/
inductive HasOneForm : Value → Prop
  | null : HasOneForm null
  | bool (truth : Bool) : HasOneForm (bool truth)
  | int (number : Int) : HasOneForm (int number)
  | float {number : Binary64} : number.isFinite = true → HasOneForm (float number)
  | text (content : String) : HasOneForm (text content)
  | date (day : Date) : HasOneForm (date day)
  | list {items : List Value} : (∀ item ∈ items, HasOneForm item) → HasOneForm (list items)
  | tuple {items : List Value} : (∀ item ∈ items, HasOneForm item) → HasOneForm (tuple items)
  | mapping {entries : List (Value × Value)} : (∀ entry ∈ entries, HasOneName entry.1) →
      (∀ entry ∈ entries, HasOneForm entry.2) → HasOneForm (mapping entries)

theorem HasOneName.plainKey_eq {key : Value} (one : key.HasOneName) {name : String}
    (named : Json.nameOf key = .ok name) :
    key.plainKey = .ok name := by
  cases one with
  | bool truth => exact named
  | int number => exact named
  | @float number isFinite =>
      cases number with
      | finite _ _ _ => exact named
      | infinite _ => cases isFinite
      | nan _ => cases isFinite
  | text content => exact named

theorem toValues_of_plainList {items : List Value} {documents : List Json} {forms : List Value}
    {room : Nat}
    (each : ∀ item ∈ items, ∀ document form, Json.ofValue item = .ok document →
      item.plain room = .ok form → document.toValue = form)
    (written : Json.ofList items = .ok documents) (plain : plainList items room = .ok forms) :
    Json.toValues documents = forms := by
  rw [Json.ofList_eq_mapM] at written
  rw [plainList_eq_mapM] at plain
  rw [Json.toValues_eq_map]
  exact map_eq_of_mapM written plain each

theorem toFields_of_plainEntries {entries : List (Value × Value)} {members : List (String × Json)}
    {writes : List (String × Value)} {room : Nat}
    (named : ∀ entry ∈ entries, entry.1.HasOneName)
    (each : ∀ entry ∈ entries, ∀ document form, Json.ofValue entry.2 = .ok document →
      entry.2.plain room = .ok form → document.toValue = form)
    (written : Json.ofEntries entries = .ok members)
    (plain : plainEntries entries room = .ok writes) : Json.toFields members = writes := by
  rw [Json.ofEntries_eq_mapM] at written
  rw [plainEntries_eq_mapM] at plain
  rw [Json.toFields_eq_map]
  refine map_eq_of_mapM written plain fun entry inside member write made made' => ?_
  obtain ⟨isName, document⟩ := onBoth_eq_ok_iff.mp made
  obtain ⟨isPlainName, form⟩ := onBoth_eq_ok_iff.mp made'
  have same : member.1 = write.1 :=
    Except.ok.inj (((named entry inside).plainKey_eq isName).symm.trans isPlainName)
  exact Prod.ext same (each entry inside _ _ document form)

/-- The document of a value with one form holds its plain form. -/
theorem HasOneForm.toValue_eq {value : Value} (one : value.HasOneForm) {document : Json}
    {form : Value} {room : Nat} (written : Json.ofValue value = .ok document)
    (plain : value.plain room = .ok form) : document.toValue = form := by
  induction one generalizing document form room with obtain ⟨less, rfl⟩ :=
    exists_room_of_plain plain
  | null | bool _ | text _ | date _ =>
      cases written
      cases plain
      rfl
  | int number =>
      rw [Json.ofValue] at written
      split at written <;> cases written
      cases plain
      rfl
  | float isFinite =>
      cases written
      rw [Value.plain, if_pos isFinite] at plain
      cases plain
      rfl
  | list _ ih | tuple _ ih =>
      obtain ⟨documents, ofItems, rfl⟩ := map_eq_ok_iff.mp written
      obtain ⟨forms, plainItems, rfl⟩ := map_eq_ok_iff.mp plain
      rw [Json.toValue, toValues_of_plainList (fun item member _ _ => ih item member)
        ofItems plainItems]
  | mapping named _ ih =>
      obtain ⟨members, ofMembers, rfl⟩ := map_eq_ok_iff.mp written
      obtain ⟨writes, plainWrites, rfl⟩ := map_eq_ok_iff.mp plain
      rw [Json.toValue, toFields_of_plainEntries named (fun entry member _ _ => ih entry member)
        ofMembers plainWrites]

end Value

/-! ### Rows of fields -/

namespace Fields

variable {α β : Type} {related : α → β → Prop} {fields : Fields α} {parts : Fields β}

def Related (related : α → β → Prop) (fields : Fields α) (parts : Fields β) : Prop :=
  List.Forall₂ (fun field part => part.1 = field.1 ∧ related field.2 part.2) fields parts

theorem Related.keys_eq (rows : Related related fields parts) : parts.keys = fields.keys := by
  induction rows with
  | nil => rfl
  | cons both _ ih => rw [keys_cons, keys_cons, both.1, ih]

theorem Related.distinct (rows : Related related fields parts) (once : fields.Distinct) :
    parts.Distinct := by
  rw [Distinct, rows.keys_eq]
  exact once

theorem Related.exists_get? (rows : Related related fields parts) {key : String} {value : α}
    (found : fields.get? key = some value) :
    ∃ part, related value part ∧ parts.get? key = some part := by
  induction rows with
  | nil => cases found
  | @cons field part _ _ both _ ih =>
      rw [get?_cons] at found
      rw [get?_cons, both.1]
      split at found
      · rename_i here
        cases found
        exact ⟨part.2, both.2, if_pos here⟩
      · rename_i notHere
        rw [if_neg notHere]
        exact ih found

end Fields

/-- Steps that keep texts as names make a row that is related to the fields. -/
theorem Fields.related_of_mapM {ε β : Type} {f : Value → Except ε String} {g : Value → Except ε β}
    (keeps : ∀ name, f (.text name) = .ok name) {fields : Fields Value} {row : Fields β}
    (made : (Value.entriesOf fields).mapM (onBoth f g) = .ok row) :
    Related (fun value part => g value = .ok part) fields row := by
  rw [Value.entriesOf, mapM_eq_ok_iff_forall₂, List.forall₂_map_left_iff] at made
  refine made.imp fun field part both => ?_
  obtain ⟨named, here⟩ := onBoth_eq_ok_iff.mp both
  exact ⟨Except.ok.inj (named.symm.trans (keeps field.1)), here⟩

theorem Value.related_of_plainEntries {fields : Fields Value} {writes : List (String × Value)}
    {room : Nat} (plain : Value.plainEntries (Value.entriesOf fields) room = .ok writes) :
    Fields.Related (fun value form => value.plain room = .ok form) fields writes := by
  rw [plainEntries_eq_mapM] at plain
  exact Fields.related_of_mapM (fun _ => rfl) plain

theorem Json.related_of_ofEntries {fields : Fields Value} {members : List (String × Json)}
    (written : Json.ofEntries (Value.entriesOf fields) = .ok members) :
    Fields.Related (fun value document => Json.ofValue value = .ok document) fields members := by
  rw [ofEntries_eq_mapM] at written
  exact Fields.related_of_mapM (fun _ => rfl) written

theorem Json.keys_toFields (members : List (String × Json)) :
    Fields.keys (Json.toFields members) = Fields.keys members := by
  rw [Json.toFields_eq_map, Fields.keys, List.map_map]
  rfl

/-! ### Two forms -/

namespace Value

/-- A value whose mappings, also those within tuples, have texts as keys. -/
inductive IsTextKeyed : Value → Prop
  | null : IsTextKeyed null
  | bool (truth : Bool) : IsTextKeyed (bool truth)
  | int (number : Int) : IsTextKeyed (int number)
  | float (number : Binary64) : IsTextKeyed (float number)
  | text (content : String) : IsTextKeyed (text content)
  | bytes (content : List UInt8) : IsTextKeyed (bytes content)
  | date (day : Date) : IsTextKeyed (date day)
  | moment (time : DateTime) : IsTextKeyed (moment time)
  | list {items : List Value} : (∀ item ∈ items, IsTextKeyed item) → IsTextKeyed (list items)
  | tuple {items : List Value} : (∀ item ∈ items, IsTextKeyed item) → IsTextKeyed (tuple items)
  | set (members : List Value) : IsTextKeyed (set members)
  | ofFields {fields : Fields Value} : fields.Distinct → (∀ field ∈ fields, IsTextKeyed field.2) →
      IsTextKeyed (ofFields fields)

theorem eq_of_same_text {left right : String} (equal : same (text left) (text right) = true) :
    left = right :=
  eq_of_beq equal

theorem same_of_sameEntries {entries others : List (Value × Value)}
    (all : sameEntries entries others = true) :
    ∀ entry ∈ entries, ∃ other, others.find? (fun other => same entry.1 other.1) = some other ∧
      same entry.2 other.2 = true := by
  induction entries with
  | nil => exact List.forall_mem_nil _
  | cons entry rest ih =>
      rw [sameEntries, Bool.and_eq_true] at all
      obtain ⟨here, later⟩ := all
      refine List.forall_mem_cons.mpr ⟨?_, ih later⟩
      split at here
      · rename_i other found
        exact ⟨other, found, here⟩
      · cases here

theorem find?_entriesOf (name : String) (fields : Fields Value) :
    (entriesOf fields).find? (fun other => same (text name) other.1) =
      (fields.get? name).map fun value => (text name, value) := by
  induction fields with
  | nil => rfl
  | cons field rest ih =>
      rw [entriesOf] at ih ⊢
      rw [List.map_cons, List.find?_cons, Fields.get?_cons]
      by_cases here : field.1 = name
      · have found : same (text name) (text field.1) = true := beq_iff_eq.mpr here.symm
        rw [if_pos here, found, here]
        rfl
      · have notHere : same (text name) (text field.1) = false := by
          rw [Bool.eq_false_iff]
          exact fun equal => here (eq_of_same_text equal).symm
        rw [if_neg here, notHere, ih]

theorem hasOneForm_of_sameList {items : List Value} {documents : List Json} {forms : List Value}
    {room : Nat}
    (each : ∀ item ∈ items, ∀ document form, Json.ofValue item = .ok document →
      item.plain room = .ok form → same document.toValue form = true → item.HasOneForm)
    (written : Json.ofList items = .ok documents) (plain : plainList items room = .ok forms)
    (equal : sameList (Json.toValues documents) forms = true) :
    ∀ item ∈ items, item.HasOneForm := by
  induction items generalizing documents forms with
  | nil => exact List.forall_mem_nil _
  | cons item rest ih =>
      obtain ⟨here, later⟩ := List.forall_mem_cons.mp each
      obtain ⟨first, ofItem, others, ofRest, rfl⟩ := Json.ofList_cons_iff.mp written
      obtain ⟨form, plainItem, forms, plainRest, rfl⟩ := plainList_cons_iff.mp plain
      rw [Json.toValues, sameList, Bool.and_eq_true] at equal
      exact List.forall_mem_cons.mpr ⟨here first form ofItem plainItem equal.1,
        ih later ofRest plainRest equal.2⟩

theorem hasOneForm_of_sameFields {fields : Fields Value} (distinct : fields.Distinct)
    {members : List (String × Json)} {writes : List (String × Value)} {room : Nat}
    (each : ∀ field ∈ fields, ∀ document form, Json.ofValue field.2 = .ok document →
      field.2.plain room = .ok form → same document.toValue form = true → field.2.HasOneForm)
    (written : Json.ofEntries (entriesOf fields) = .ok members)
    (plain : plainEntries (entriesOf fields) room = .ok writes)
    (equal : sameEntries (entriesOf (Json.toFields members)) (entriesOf writes) = true) :
    ∀ field ∈ fields, field.2.HasOneForm := by
  intro field member
  have found := Fields.get?_of_mem distinct member
  obtain ⟨document, ofField, isMember⟩ := (Json.related_of_ofEntries written).exists_get? found
  obtain ⟨form, plainField, isWrite⟩ := (related_of_plainEntries plain).exists_get? found
  have inside : (text field.1, document.toValue) ∈ entriesOf (Json.toFields members) := by
    rw [Json.toFields_eq_map, entriesOf, List.map_map]
    exact List.mem_map.mpr ⟨(field.1, document), Fields.mem_of_get?_eq_some isMember, rfl⟩
  obtain ⟨other, isOther, alike⟩ := same_of_sameEntries equal _ inside
  rw [find?_entriesOf, isWrite] at isOther
  cases isOther
  exact each field member document form ofField plainField alike

/-- A value with texts as keys is in its document what it is in
plain form only if it has one form. -/
theorem IsTextKeyed.hasOneForm {value : Value} (keyed : value.IsTextKeyed) {document : Json}
    {form : Value} {room : Nat} (written : Json.ofValue value = .ok document)
    (plain : value.plain room = .ok form) (equal : same document.toValue form = true) :
    value.HasOneForm := by
  -- What has two forms is refuted by a difference of the two; the rest goes by the parts.
  induction keyed generalizing document form room with
    obtain ⟨less, rfl⟩ := exists_room_of_plain plain
  | null => exact .null
  | bool truth => exact .bool truth
  | int number => exact .int number
  | float number =>
      cases number with
      | finite negative significand exponent => exact .float rfl
      | infinite _ | nan _ =>
          cases written
          cases plain
          cases equal
  | text content => exact .text content
  | bytes content =>
      cases written
      rw [Value.plain] at plain
      split at plain
      · rename_i characters decoded
        cases plain
        exact absurd (eq_of_same_text equal) (Text.quotedBytes_ne_of_decodeUtf8? decoded)
      · cases plain
  | date day => exact .date day
  | moment time =>
      cases written
      cases plain
      exact absurd (eq_of_same_text equal) time.textWith_ne_zulu
  | set members =>
      obtain ⟨forms, _, rfl⟩ := map_eq_ok_iff.mp plain
      obtain ⟨_, rfl⟩ := ofValue_shown rfl written
      cases equal
  | list _ ih =>
      obtain ⟨documents, ofItems, rfl⟩ := map_eq_ok_iff.mp written
      obtain ⟨forms, plainItems, rfl⟩ := map_eq_ok_iff.mp plain
      exact .list (hasOneForm_of_sameList (fun item member _ _ => ih item member) ofItems plainItems
        equal)
  | tuple _ ih =>
      obtain ⟨documents, ofItems, rfl⟩ := map_eq_ok_iff.mp written
      obtain ⟨forms, plainItems, rfl⟩ := map_eq_ok_iff.mp plain
      exact .tuple (hasOneForm_of_sameList (fun item member _ _ => ih item member)
        ofItems plainItems
        equal)
  | @ofFields fields distinct _ ih =>
      obtain ⟨members, ofMembers, rfl⟩ := map_eq_ok_iff.mp written
      obtain ⟨writes, plainWrites, rfl⟩ := map_eq_ok_iff.mp plain
      have names : Fields.Distinct (Json.toFields members) := by
        rw [Fields.Distinct, Json.keys_toFields]
        exact (Json.related_of_ofEntries ofMembers).distinct distinct
      have writesOnce : Fields.Distinct writes :=
        (related_of_plainEntries plainWrites).distinct distinct
      rw [Json.toValue, Fields.ofWrites_eq_self names, Fields.ofWrites_eq_self writesOnce,
        Value.ofFields, Value.ofFields, same, Bool.and_eq_true] at equal
      have each := hasOneForm_of_sameFields distinct (fun field member _ _ => ih field member)
        ofMembers plainWrites equal.2
      exact .mapping (List.forall_mem_map.mpr fun field _ => .text field.1)
        (List.forall_mem_map.mpr each)

end Value
end TaskGraph
