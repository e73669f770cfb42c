import TaskGraph.Proofs.ConfigChanges
import TaskGraph.Proofs.HereditaryValues
set_option autoImplicit false

/-! Configurations that operations build one from another. Each of them stores nothing but parts of
the values that the operations were given, each in its stored form; so it is in stored form as a
whole, and every copy of it is exact. -/

namespace TaskGraph

/-! ### What a value holds -/

namespace Value

/-- The values that a list, a mapping or a configuration holds; tuples and sets are taken whole. -/
def parts : Value → List Value
  | list items => items
  | mapping entries => entries.map (·.2)
  | config fields _ => fields.map (·.2)
  | _ => []

theorem parts_ofFields (fields : Fields Value) : (ofFields fields).parts = fields.map (·.2) := by
  rw [ofFields, parts, entriesOf, List.map_map]
  rfl

theorem exists_of_mem_normaliseEntries {entries : List (Value × Value)} {field : String × Value}
    (member : field ∈ normaliseEntries entries) : ∃ inner ∈ (mapping entries).parts,
      field.2 = inner.normalise := by
  rw [normaliseEntries_eq_map] at member
  obtain ⟨entry, inside, rfl⟩ := List.mem_map.mp member
  exact ⟨entry.2, List.mem_map_of_mem inside, rfl⟩

theorem exists_of_mem_normaliseFields {fields : List (String × Value)} {frozen : Bool}
    {field : String × Value} (member : field ∈ normaliseFields fields) :
    ∃ inner ∈ (config fields frozen).parts, field.2 = inner.normalise := by
  rw [normaliseFields_eq_map] at member
  obtain ⟨inner, inside, rfl⟩ := List.mem_map.mp member
  exact ⟨inner.2, List.mem_map_of_mem inside, rfl⟩

/-- What the stored form of a value holds are stored forms of what the value holds. -/
theorem exists_of_mem_parts_normalise {value part : Value} (member : part ∈ value.normalise.parts) :
    ∃ inner ∈ value.parts, part = inner.normalise := by
  cases value with
  | list items =>
      rw [normalise, normaliseList_eq_map] at member
      obtain ⟨inner, inside, rfl⟩ := List.mem_map.mp member
      exact ⟨inner, inside, rfl⟩
  | mapping entries =>
      rw [normalise, parts_ofFields] at member
      obtain ⟨field, written, rfl⟩ := List.mem_map.mp member
      exact exists_of_mem_normaliseEntries (Fields.mem_of_mem_ofWrites written)
  | config fields frozen =>
      rw [normalise, parts_ofFields] at member
      obtain ⟨field, written, rfl⟩ := List.mem_map.mp member
      exact exists_of_mem_normaliseFields (Fields.mem_of_mem_ofWrites written)
  | _ => cases member

end Value

namespace Config

theorem parts_toMapping (config : Config) : config.toMapping.parts = config.fields.map (·.2) :=
  Value.parts_ofFields config.fields

theorem toMapping_of_ofValue {value : Value} {config : Config} (made : ofValue value = .ok config) :
    config = empty ∨ config.toMapping = value.normalise := by
  have found := (checked_eq_ok_iff.mp made).1
  cases value with
  | null =>
      cases found
      exact Or.inl rfl
  | mapping entries | config fields frozen =>
      cases found
      exact Or.inr rfl
  | _ => cases found

/-! ### What a call is given and what it writes -/

namespace Source

def values : Source → List Value
  | config _ => []
  | mapping entries => [.mapping entries]

def configs : Source → List Config
  | config other => [other]
  | mapping _ => []

end Source

namespace Change

def values : Change → List Value
  | set _ value => [value]
  | remove _ => []
  | setAll source => source.values
  | setAllMissing source => source.values

def configs : Change → List Config
  | set _ _ => []
  | remove _ => []
  | setAll source => source.configs
  | setAllMissing source => source.configs

def writes : Change → List (String × Value)
  | set key value => [(key, value.normalise)]
  | remove _ => []
  | setAll source => source.writes
  | setAllMissing source => source.writes

theorem mem_of_apply {config result : Config} {change : Change}
    (applied : change.apply config = .ok result) {field : String × Value}
    (member : field ∈ result.fields) : field ∈ config.fields ∨ field ∈ change.writes := by
  have mutable : config.frozen = false := by
    rw [Bool.eq_false_iff]
    intro frozen
    rw [apply_of_frozen frozen] at applied
    cases applied
  rw [apply_of_mutable mutable] at applied
  split at applied
  case isFalse => cases applied
  cases applied
  cases change with
  | set key value =>
      have written : field ∈ config.fields.overlay [(key, value.normalise)] := member
      exact Fields.mem_of_mem_overlay config.distinct written
  | remove key => exact Or.inl (List.mem_of_mem_filter member)
  | setAll source => exact Fields.mem_of_mem_overlay config.distinct member
  | setAllMissing source => exact Fields.mem_of_mem_fill config.distinct member

end Change

/-! ### Building -/

/-- The configurations that operations build from given values. -/
inductive Built (given : Value → Prop) : Config → Prop
  | empty : Built given empty
  | new {value : Value} {config : Config} : given value → ofValue value = .ok config →
      Built given config
  | change {config result : Config} (change : Change) : Built given config →
      (∀ value ∈ change.values, given value) →
      (∀ other ∈ change.configs, Built given other) → change.apply config = .ok result →
        Built given result
  | nested {config below : Config} {key : String} : Built given config →
      config.nested key = .ok below →
      Built given below
  | deepCopy {config : Config} : Built given config → Built given config.deepCopy
  | freeze {config : Config} : Built given config → Built given config.freeze

inductive PartOf (given : Value → Prop) : Value → Prop
  | given {value : Value} : given value → PartOf given value
  | inner {whole part : Value} : PartOf given whole → part ∈ whole.parts → PartOf given part

def StoredPart (given : Value → Prop) (value : Value) : Prop :=
  ∃ part, PartOf given part ∧ value = part.normalise

section
variable {given : Value → Prop}

theorem StoredPart.normalise_eq {value : Value} (stored : StoredPart given value) :
    value.normalise = value := by
  obtain ⟨part, _, rfl⟩ := stored
  exact part.normalise_normalise

theorem PartOf.storedPart {whole part : Value} (isPart : PartOf given whole)
    (member : part ∈ whole.normalise.parts) :
    StoredPart given part := by
  obtain ⟨inner, inside, same⟩ := Value.exists_of_mem_parts_normalise member
  exact ⟨inner, isPart.inner inside, same⟩

theorem StoredPart.inner {whole part : Value} (stored : StoredPart given whole)
    (member : part ∈ whole.parts) :
    StoredPart given part := by
  obtain ⟨source, isPart, rfl⟩ := stored
  exact isPart.storedPart member

theorem storedPart_writes {change : Change} (values : ∀ value ∈ change.values, given value)
    (configs : ∀ other ∈ change.configs, ∀ field ∈ other.fields, StoredPart given field.2)
    {field : String × Value} (member : field ∈ change.writes) : StoredPart given field.2 := by
  have copied {source : Source} (values : ∀ value ∈ source.values, given value)
      (configs : ∀ other ∈ source.configs, ∀ field ∈ other.fields, StoredPart given field.2)
      (member : field ∈ source.writes) : StoredPart given field.2 := by
    cases source with
    | config other => exact configs other List.mem_cons_self field member
    | mapping entries =>
        obtain ⟨inner, inside, same⟩ := Value.exists_of_mem_normaliseEntries member
        exact ⟨inner, .inner (.given (values _ List.mem_cons_self)) inside, same⟩
  cases change with
  | set key value =>
      obtain rfl := List.mem_singleton.mp member
      exact ⟨value, .given (values value List.mem_cons_self), rfl⟩
  | remove key => cases member
  | setAll source => exact copied values configs member
  | setAllMissing source => exact copied values configs member

/-- Every operation that builds a configuration stores parts
of the given values and nothing else. -/
theorem Built.storedPart {config : Config} (built : Built given config) :
    ∀ field ∈ config.fields, StoredPart given field.2 := by
  have copied {config : Config} (each : ∀ field ∈ config.fields, StoredPart given field.2) :
      ∀ field ∈ config.deepCopy.fields, StoredPart given field.2 := by
    rw [fields_deepCopy fun field member => (each field member).normalise_eq]
    exact each
  induction built with
  | empty => exact List.forall_mem_nil _
  | @new value config isGiven made =>
      intro field member
      rcases toMapping_of_ofValue made with rfl | same
      · cases member
      · refine PartOf.storedPart (.given isGiven) ?_
        rw [← same, parts_toMapping]
        exact List.mem_map_of_mem member
  | change change _ values _ applied ih configs =>
      intro field member
      rcases Change.mem_of_apply applied member with kept | written
      · exact ih field kept
      · exact storedPart_writes values configs written
  | @nested config below key _ read ih =>
      obtain ⟨_, rfl⟩ := (config.nested_eq_ok_iff key below).mp read
      intro field member
      unfold Config.below at member
      split at member
      · rename_i entries found
        -- What is stored below the name is in stored form already, and it is what the configuration
        -- below holds.
        have whole : StoredPart given (.mapping entries) := ih _ (Fields.mem_of_get?_eq_some found)
        have same : (ofWrites (Value.normaliseEntries entries)).toMapping = .mapping entries :=
          whole.normalise_eq
        refine whole.inner ?_
        rw [← same, parts_toMapping]
        exact List.mem_map_of_mem member
      · cases member
  | deepCopy _ ih => exact copied ih
  | freeze _ ih => exact copied ih

theorem Built.stored {config : Config} (built : Built given config) : config.Stored :=
  fun field member => (built.storedPart field member).normalise_eq

end

/-! ### Copies -/

/-- What copies of a configuration hold: a rebuilt, a mutable and a read-only one, the value that it
is stored as, and the configurations of the mappings below it. -/
structure CopiesExactly (config : Config) : Prop where
  rebuilt : ∃ copy, ofValue config.toMapping = .ok copy ∧ copy.fields = config.fields ∧
    copy.frozen = false
  copied : config.deepCopy.fields = config.fields ∧ config.deepCopy.frozen = false
  frozen : config.freeze.fields = config.fields ∧ config.freeze.frozen = true
  unwrapped : config.toMapping.normalise = config.toMapping ∧
    config.toValue.normalise = config.toMapping
  below : ∀ key entries, config.get? key = some (.mapping entries) →
    ∃ inner, config.nested key = .ok inner ∧ inner.toMapping = .mapping entries

theorem copiesExactly_of_stored {config : Config} (stored : config.Stored) :
    config.CopiesExactly where
  rebuilt := by
    refine ⟨config.deepCopy, ?_, fields_deepCopy stored, rfl⟩
    have writable : config.toMapping.areKeysWritable = true :=
      (Value.areKeysWritable_ofFields config.fields).mpr
        ((Value.areFieldKeysWritable_iff config.fields).mp stored.areKeysWritable)
    have made := ofValue_mapping writable
    rw [Value.normaliseEntries_entriesOf] at made
    exact made
  copied := ⟨fields_deepCopy stored, rfl⟩
  frozen := ⟨fields_freeze stored, rfl⟩
  unwrapped := ⟨Value.normalise_ofFields config.distinct stored,
    congrArg Value.ofFields (fields_deepCopy stored)⟩
  below := fun key entries found => by
    refine ⟨ofWrites (Value.normaliseEntries entries), ?_,
      stored _ (Fields.mem_of_get?_eq_some found)⟩
    rw [nested, found]

/-- Storing a value twice stores it as once, and every copy of a
configuration that operations built is exact. -/
theorem copiesExactly_of_built {given : Value → Prop} {config : Config}
    (built : Built given config) :
    (∀ value : Value, value.normalise.normalise = value.normalise) ∧ config.CopiesExactly :=
  ⟨Value.normalise_normalise, copiesExactly_of_stored built.stored⟩

/-- A mapping below a name: two of its entries become one, and the
last one has a mapping within a tuple. -/
def shifts : Value :=
  .mapping [(.text "night",
    .mapping [(.int 1, .text "early"), (.text "1", .tuple [.mapping [(.int 2, .null)]])])]

theorem areKeysWritable_shifts : shifts.areKeysWritable = true := by
  have one : isWritable 1 = true := isWritable_of_lt (by decide)
  simp [shifts, Value.areKeysWritable, Value.areEntryKeysWritable, Value.isWritable, one]

theorem copiesExactly_of_built_shifts :
    ∃ config : Config, Built (fun value => value = shifts ∨ value = .int 3) config ∧
      config.frozen = true ∧
      config.fields = [("1", .tuple [.mapping [(.int 2, .null)]]), ("retry", .int 3)] ∧
      (∀ value : Value, value.normalise.normalise = value.normalise) ∧ config.CopiesExactly := by
  have whole : Built (fun value => value = shifts ∨ value = .int 3) _ :=
    .new (.inl rfl) (ofValue_mapping areKeysWritable_shifts)
  have below := @Built.nested _ _ _ "night" whole rfl
  have changed := below.change (.set "retry" (.int 3)) (by simp [Change.values])
    (by simp [Change.configs]) rfl
  exact ⟨_, changed.freeze, rfl, rfl, copiesExactly_of_built changed.freeze⟩

end Config
end TaskGraph
