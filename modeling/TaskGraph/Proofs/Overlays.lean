import TaskGraph.Proofs.Inheritance
set_option autoImplicit false

/-! The two overlays of configurations. Both leave the names of the first configuration and behind
them those that only the second one has; they differ in whose values win. So copying over is
associative with the empty configuration as identity, a second time changes nothing, and filling
gaps holds the same fields as copying over in the other direction. A plain mapping makes its writes
one by one: copying it over takes the last of several entries under one name, as its configuration
does, while filling gaps takes the first. -/

namespace TaskGraph

namespace Fields

variable {α : Type}

/-! ### Names -/

def joinKeys (names others : List String) : List String := names ++ others.filter fun key =>
  !names.contains key

theorem joinKeys_of_subset {names others : List String} (present : ∀ key ∈ others, key ∈ names) :
    joinKeys names others = names := by
  have nothing : (others.filter fun key => !names.contains key) = [] :=
    List.filter_eq_nil_iff.mpr fun key member => by simpa using present key member
  rw [joinKeys, nothing, List.append_nil]

theorem mem_joinKeys (key : String) (names others : List String) :
    key ∈ joinKeys names others ↔ key ∈ names ∨ key ∈ others := by
  rw [joinKeys, List.mem_append, List.mem_filter]
  by_cases present : key ∈ names <;> simp [present]

theorem joinKeys_assoc (first second third : List String) :
    joinKeys (joinKeys first second) third = joinKeys first (joinKeys second third) := by
  have same : (third.filter fun key => !(joinKeys first second).contains key) =
      (third.filter fun key => !second.contains key).filter fun key => !first.contains key := by
    rw [List.filter_filter]
    apply List.filter_congr
    intro key _
    have joined := mem_joinKeys key first second
    by_cases inFirst : key ∈ first <;> by_cases inSecond : key ∈ second <;>
      simp [joined, inFirst, inSecond]
  rw [joinKeys, same, joinKeys, joinKeys, joinKeys, List.filter_append, List.append_assoc]

theorem eraseDups_append_eq {names others : List String} (distinct : names.Nodup) :
    (names ++ others).eraseDups = joinKeys names others.eraseDups := by
  have later : (others.removeAll names).eraseDups = others.eraseDups.filter fun key =>
    !names.contains key := by
    rw [← Compiler.eraseDups_filter]
    rfl
  rw [List.eraseDups_append, eraseDups_eq_self distinct, later, joinKeys]

theorem keys_overlay_of_distinct {fields other : Fields α} (distinct : fields.Distinct)
    (distinct' : other.Distinct) :
    (fields.overlay other).keys = joinKeys fields.keys other.keys := by
  rw [keys_overlay distinct, eraseDups_append_eq distinct, eraseDups_eq_self distinct']

theorem keys_fill_of_distinct {fields other : Fields α} (distinct : fields.Distinct)
    (distinct' : other.Distinct) :
    (fields.fill other).keys = joinKeys fields.keys other.keys := by
  rw [keys_fill distinct, eraseDups_append_eq distinct, eraseDups_eq_self distinct']

/-! ### Overlays of overlays -/

theorem overlay_assoc {first second third : Fields α} (distinct : first.Distinct)
    (distinct' : second.Distinct) (distinct'' : third.Distinct) :
    (first.overlay second).overlay third = first.overlay (second.overlay third) := by
  have left := distinct_overlay second distinct
  have right := distinct_overlay third distinct'
  refine eq_of_keys_of_get? (distinct_overlay third left) (distinct_overlay _ distinct) ?_ ?_
  · rw [keys_overlay_of_distinct left distinct'', keys_overlay_of_distinct distinct distinct',
      keys_overlay_of_distinct distinct right, keys_overlay_of_distinct distinct' distinct'',
        joinKeys_assoc]
  · intro key
    rw [get?_overlay_of_distinct distinct'', get?_overlay_of_distinct distinct',
      get?_overlay_of_distinct right, get?_overlay_of_distinct distinct'', Option.or_assoc]

theorem overlay_eq_self {fields other : Fields α} (distinct : fields.Distinct)
    (distinct' : other.Distinct) (same : ∀ field ∈ other, get? field.1 fields = some field.2) :
    fields.overlay other = fields := by
  have present : ∀ key ∈ other.keys, key ∈ fields.keys := by
    intro key member
    obtain ⟨field, isMember, named⟩ := List.mem_map.mp member
    rw [← get?_ne_none_iff, ← named, same field isMember]
    exact Option.some_ne_none _
  refine eq_of_keys_of_get? (distinct_overlay other distinct) distinct ?_ ?_
  · rw [keys_overlay_of_distinct distinct distinct', joinKeys_of_subset present]
  · intro key
    rw [get?_overlay_of_distinct distinct']
    cases found : get? key other with
    | none => rfl
    | some value => exact (same _ (mem_of_get?_eq_some found)).symm

theorem fill_eq_self {fields other : Fields α} (distinct : fields.Distinct)
    (distinct' : other.Distinct) (present : ∀ key ∈ other.keys, key ∈ fields.keys) :
    fields.fill other = fields := by
  refine eq_of_keys_of_get? (distinct_fill other distinct) distinct ?_ ?_
  · rw [keys_fill_of_distinct distinct distinct', joinKeys_of_subset present]
  · intro key
    rw [get?_fill]
    cases found : get? key fields with
    | some value => rfl
    | none =>
        have absent : get? key other = none := (get?_eq_none_iff key other).mpr fun member =>
          (get?_eq_none_iff key fields).mp found (present key member)
        rw [absent, Option.or_none]

theorem overlay_overlay_self {fields other : Fields α} (distinct : fields.Distinct)
    (distinct' : other.Distinct) :
    (fields.overlay other).overlay other = fields.overlay other := by
  refine overlay_eq_self (distinct_overlay other distinct) distinct' fun field member => ?_
  rw [get?_overlay_of_distinct distinct', get?_of_mem distinct' member, Option.some_or]

theorem fill_fill_self {fields other : Fields α} (distinct : fields.Distinct)
    (distinct' : other.Distinct) :
    (fields.fill other).fill other = fields.fill other := by
  refine fill_eq_self (distinct_fill other distinct) distinct' fun key member => ?_
  rw [keys_fill_of_distinct distinct distinct', mem_joinKeys]
  exact Or.inr member

theorem perm_of_get? {fields other : Fields α} (distinct : fields.Distinct)
    (distinct' : other.Distinct) (same : ∀ key, get? key fields = get? key other) :
    fields.Perm other := by
  refine (List.perm_ext_iff_of_nodup (List.Nodup.of_map _ distinct)
    (List.Nodup.of_map _ distinct')).mpr fun field => ?_
  constructor
  · intro member
    exact mem_of_get?_eq_some ((same field.1).symm.trans (get?_of_mem distinct member))
  · intro member
    exact mem_of_get?_eq_some ((same field.1).trans (get?_of_mem distinct' member))

/-- Filling the gaps of fields holds what copying them over the others holds, in another order. -/
theorem fill_perm_overlay {fields other : Fields α} (distinct : fields.Distinct)
    (distinct' : other.Distinct) :
    (fields.fill other).Perm (other.overlay fields) := by
  refine perm_of_get? (distinct_fill other distinct) (distinct_overlay fields distinct') fun key =>
    ?_
  rw [get?_fill, get?_overlay_of_distinct distinct]

/-! ### Rows of writes with repeated names -/

/-- Copying a row of writes over fields and copying what the row leaves is the same. -/
theorem overlay_ofWrites {fields : Fields α} (distinct : fields.Distinct) (writes : Fields α) :
    fields.overlay (ofWrites writes) = fields.overlay writes := by
  refine eq_of_keys_of_get? (distinct_overlay _ distinct) (distinct_overlay _ distinct) ?_ ?_
  · rw [keys_overlay_of_distinct distinct (distinct_ofWrites writes), keys_overlay distinct,
      eraseDups_append_eq distinct, keys_ofWrites]
  · intro key
    rw [get?_overlay_of_distinct (distinct_ofWrites writes), get?_ofWrites, get?_overlay]

theorem keys_fill_ofWrites {fields : Fields α} (distinct : fields.Distinct) (writes : Fields α) :
    (fields.fill (ofWrites writes)).keys = (fields.fill writes).keys := by
  rw [keys_fill_of_distinct distinct (distinct_ofWrites writes), keys_fill distinct,
    eraseDups_append_eq distinct, keys_ofWrites]

/-- Filling gaps with a row of writes takes the first value under a name, and filling them with what
the row leaves takes the last one; so they agree exactly if these are the same under every name that
was missing. -/
theorem fill_ofWrites_iff {fields : Fields α} (distinct : fields.Distinct) (writes : Fields α) :
    fields.fill writes = fields.fill (ofWrites writes) ↔
      ∀ key, get? key fields = none → get? key writes = get? key writes.reverse := by
  constructor
  · intro same key absent
    have values : get? key (fields.fill writes) = get? key (fields.fill (ofWrites writes)) := by
      rw [same]
    rw [get?_fill, get?_fill, get?_ofWrites, absent] at values
    exact values
  · intro same
    refine eq_of_keys_of_get? (distinct_fill _ distinct) (distinct_fill _ distinct)
      (keys_fill_ofWrites distinct writes).symm fun key => ?_
    rw [get?_fill, get?_fill, get?_ofWrites]
    cases found : get? key fields with
    | some value => rfl
    | none => rw [same key found]

end Fields

namespace Config

/-! ### Configurations -/

theorem setAll_of_mutable {config : Config} (mutable : config.frozen = false)
    (writes : List (String × Value)) :
    config.setAll writes = .ok (config.overlay writes) := by
  rw [setAll, Config.mutable, mutable]
  rfl

theorem setAllMissing_of_mutable {config : Config} (mutable : config.frozen = false)
    (writes : List (String × Value)) :
    config.setAllMissing writes = .ok (config.fill writes) := by
  rw [setAllMissing, Config.mutable, mutable]
  rfl

/-- The laws of the two overlays for three configurations: what each leaves, copying over as a
monoid, repetition, and the two against each other. -/
structure OverlayLaws (first second third : Config) : Prop where
  copying : ∃ result, first.setAll second.fields = .ok result ∧
    result.keys = Fields.joinKeys first.keys second.keys ∧
      ∀ key, result.get? key = (second.get? key).or (first.get? key)
  filling : ∃ result, first.setAllMissing second.fields = .ok result ∧
    result.keys = Fields.joinKeys first.keys second.keys ∧
      ∀ key, result.get? key = (first.get? key).or (second.get? key)
  assoc : ∃ left right result, first.setAll second.fields = .ok left ∧
    second.setAll third.fields = .ok right ∧
    left.setAll third.fields = .ok result ∧ first.setAll right.fields = .ok result
  identity : first.setAll empty.fields = .ok first ∧ empty.setAll first.fields = .ok first
  overTwice : ∃ result, first.setAll second.fields = .ok result ∧
    result.setAll second.fields = .ok result
  gapsTwice : ∃ result, first.setAllMissing second.fields = .ok result ∧
    result.setAllMissing second.fields = .ok result
  itself : first.setAll first.fields = .ok first ∧ first.setAllMissing first.fields = .ok first
  converse : ∃ filled copied, first.setAllMissing second.fields = .ok filled ∧
    second.setAll first.fields = .ok copied ∧
    filled.fields.Perm copied.fields

/-- The overlays obey their laws for all configurations that can be changed. -/
theorem overlayLaws_of_mutable {first second : Config} (mutable : first.frozen = false)
    (mutable' : second.frozen = false) (third : Config) : OverlayLaws first second third where
  copying := ⟨first.overlay second.fields, setAll_of_mutable mutable _,
    Fields.keys_overlay_of_distinct first.distinct second.distinct,
    fun key => Fields.get?_overlay_of_distinct second.distinct key first.fields⟩
  filling := ⟨first.fill second.fields, setAllMissing_of_mutable mutable _,
    Fields.keys_fill_of_distinct first.distinct second.distinct,
    fun key => Fields.get?_fill key first.fields second.fields⟩
  assoc := by
    have regrouped : (first.overlay second.fields).overlay third.fields =
        first.overlay (second.overlay third.fields).fields :=
      eq_of_fields (Fields.overlay_assoc first.distinct second.distinct third.distinct) rfl
    have stays : (first.overlay second.fields).frozen = false := mutable
    refine ⟨first.overlay second.fields, second.overlay third.fields, _,
      setAll_of_mutable mutable _, setAll_of_mutable mutable' _, setAll_of_mutable stays _, ?_⟩
    rw [regrouped]
    exact setAll_of_mutable mutable _
  identity := by
    have written : empty.overlay first.fields = first :=
      eq_of_fields (Fields.ofWrites_eq_self first.distinct) mutable.symm
    refine ⟨setAll_of_mutable mutable _, ?_⟩
    rw [setAll_of_mutable rfl, written]
  overTwice := by
    have again : (first.overlay second.fields).overlay second.fields =
        first.overlay second.fields :=
      eq_of_fields (Fields.overlay_overlay_self first.distinct second.distinct) rfl
    have stays : (first.overlay second.fields).frozen = false := mutable
    refine ⟨first.overlay second.fields, setAll_of_mutable mutable _, ?_⟩
    rw [setAll_of_mutable stays, again]
  gapsTwice := by
    have again : (first.fill second.fields).fill second.fields = first.fill second.fields :=
      eq_of_fields (Fields.fill_fill_self first.distinct second.distinct) rfl
    have stays : (first.fill second.fields).frozen = false := mutable
    refine ⟨first.fill second.fields, setAllMissing_of_mutable mutable _, ?_⟩
    rw [setAllMissing_of_mutable stays, again]
  itself := by
    have copied : first.overlay first.fields = first :=
      eq_of_fields (Fields.overlay_eq_self first.distinct first.distinct fun _ =>
        Fields.get?_of_mem first.distinct) rfl
    have filled : first.fill first.fields = first :=
      eq_of_fields (Fields.fill_eq_self first.distinct first.distinct fun _ member => member) rfl
    rw [setAll_of_mutable mutable, setAllMissing_of_mutable mutable, copied, filled]
    exact ⟨rfl, rfl⟩
  converse := ⟨first.fill second.fields, second.overlay first.fields,
    setAllMissing_of_mutable mutable _, setAll_of_mutable mutable' _,
    Fields.fill_perm_overlay first.distinct second.distinct⟩

/-- Options with a null value, an option that they share with others, and one of their own. -/
def evening : Config := ofWrites [("retry", .null), ("pool", .text "small"), ("after", .list [])]

def night : Config := ofWrites [("queue", .text "slow"), ("retry", .int 2)]

theorem overlayLaws_of_mutable_evening :
    evening.frozen = false ∧ night.frozen = false ∧
      OverlayLaws evening night (ofWrites [("pool", .text "large")]) :=
  ⟨rfl, rfl, overlayLaws_of_mutable rfl rfl _⟩

end Config

/-! ### Mappings -/

/-- The stored values of the entries whose keys have a text, in order. -/
def Value.under (key : String) (entries : List (Value × Value)) : List Value :=
  (entries.filter fun entry => entry.1.plainText = key).map fun entry => entry.2.normalise

namespace Config

theorem get?_normaliseEntries (key : String) (entries : List (Value × Value)) :
    Fields.get? key (Value.normaliseEntries entries) = (Value.under key entries).head? := by
  induction entries with
  | nil => rfl
  | cons entry rest ih =>
      rw [Value.normaliseEntries, Fields.get?_cons, Value.under, List.filter_cons]
      by_cases here : entry.1.plainText = key
      · rw [if_pos here, if_pos (decide_eq_true here)]
        rfl
      · rw [if_neg here, if_neg (by simpa using here), ih]
        rfl

theorem get?_reverse_normaliseEntries (key : String) (entries : List (Value × Value)) :
    Fields.get? key (Value.normaliseEntries entries).reverse =
      (Value.under key entries).getLast? := by
  have reversed : (Value.normaliseEntries entries).reverse =
      Value.normaliseEntries entries.reverse := by
    rw [Value.normaliseEntries_eq_map, Value.normaliseEntries_eq_map, List.map_reverse]
  rw [reversed, get?_normaliseEntries, Value.under, Value.under, List.filter_reverse,
    List.map_reverse, List.head?_reverse]

theorem copyAll_of_mutable {config : Config} (mutable : config.frozen = false) (source : Value) :
    config.copyAll source = (writesOf source).map config.overlay := by
  have changes : config.mutable = .ok config := by
    rw [Config.mutable, mutable]
    rfl
  rw [copyAll, changes]
  cases writesOf source with
  | error cause => rfl
  | ok writes => exact setAll_of_mutable mutable writes

theorem copyMissing_of_mutable {config : Config} (mutable : config.frozen = false)
    (source : Value) :
    config.copyMissing source = (writesOf source).map config.fill := by
  have changes : config.mutable = .ok config := by
    rw [Config.mutable, mutable]
    rfl
  rw [copyMissing, changes]
  cases writesOf source with
  | error cause => rfl
  | ok writes => exact setAllMissing_of_mutable mutable writes

/-- Copying over a plain mapping and copying over its configuration leave the same. Filling gaps
with them leaves the same names in the same order, and the same values unless the first and the last
entry under a name that was missing differ. A mapping with a key that cannot be written is refused
by all. -/
theorem overlays_of_mapping {config : Config} (mutable : config.frozen = false)
    (entries : List (Value × Value)) :
    ((Value.mapping entries).areKeysWritable = true ∧
      ∃ built copied direct filled, ofValue (.mapping entries) = .ok built ∧
        config.copyAll (.mapping entries) = .ok copied ∧ config.copyAll built.toValue = .ok copied ∧
        config.copyMissing (.mapping entries) = .ok direct ∧
        config.copyMissing built.toValue = .ok filled ∧
        direct.keys = filled.keys ∧
        (∀ key, direct.get? key = (config.get? key).or (Value.under key entries).head?) ∧
        (∀ key, filled.get? key = (config.get? key).or (Value.under key entries).getLast?) ∧
        (direct = filled ↔ ∀ key, config.get? key = none →
          (Value.under key entries).head? = (Value.under key entries).getLast?)) ∨
      ((Value.mapping entries).areKeysWritable = false ∧
        ofValue (.mapping entries) = .error .tooLong ∧
        config.copyAll (.mapping entries) = .error .tooLong ∧
        config.copyMissing (.mapping entries) = .error .tooLong) := by
  let writes := Value.normaliseEntries entries
  cases keys : Value.areEntryKeysWritable entries with
  | false =>
      have row : writesOf (.mapping entries) = .error .tooLong := if_neg (by simp [keys])
      refine Or.inr ⟨keys, if_neg (by simp [Value.areKeysWritable, keys]), ?_, ?_⟩
      · rw [copyAll_of_mutable mutable, row]
        rfl
      · rw [copyMissing_of_mutable mutable, row]
        rfl
  | true =>
      have row : writesOf (.mapping entries) = .ok writes := writesOf_mapping keys
      have copied : config.overlay (ofWrites writes).fields = config.overlay writes :=
        eq_of_fields (Fields.overlay_ofWrites config.distinct writes) rfl
      refine Or.inl ⟨keys, ofWrites writes, config.overlay writes, config.fill writes,
        config.fill (ofWrites writes).fields, ofValue_mapping keys, ?_, ?_, ?_, ?_,
        (Fields.keys_fill_ofWrites config.distinct writes).symm, ?_, ?_, ?_⟩
      · rw [copyAll_of_mutable mutable, row]
        rfl
      · rw [copyAll_of_mutable mutable, ← copied]
        rfl
      · rw [copyMissing_of_mutable mutable, row]
        rfl
      · rw [copyMissing_of_mutable mutable]
        rfl
      · intro key
        rw [← get?_normaliseEntries]
        exact Fields.get?_fill key config.fields writes
      · intro key
        rw [← get?_reverse_normaliseEntries, ← Fields.get?_ofWrites]
        exact Fields.get?_fill key config.fields (Fields.ofWrites writes)
      · have values : config.fill writes = config.fill (ofWrites writes).fields ↔
            config.fields.fill writes = config.fields.fill (Fields.ofWrites writes) :=
          ⟨fun same => congrArg Config.fields same, fun same => eq_of_fields same rfl⟩
        rw [values, Fields.fill_ofWrites_iff config.distinct]
        refine forall_congr' fun key => ?_
        rw [get?_normaliseEntries, get?_reverse_normaliseEntries]
        rfl

def clash : List (Value × Value) := [(.int 1, .text "first"), (.text "1", .text "last")]

theorem areKeysWritable_clash : (Value.mapping clash).areKeysWritable = true := by
  have one : isWritable 1 = true := isWritable_of_lt (by decide)
  simp [clash, Value.areKeysWritable, Value.areEntryKeysWritable, Value.isWritable, one]

theorem overlays_of_mapping_clash :
    night.frozen = false ∧
      ∃ built copied direct filled, ofValue (.mapping clash) = .ok built ∧
        night.copyAll (.mapping clash) = .ok copied ∧ night.copyAll built.toValue = .ok copied ∧
        night.copyMissing (.mapping clash) = .ok direct ∧
        night.copyMissing built.toValue = .ok filled ∧ direct.keys = filled.keys ∧
          ¬direct = filled := by
  have mutable : night.frozen = false := rfl
  rcases overlays_of_mapping mutable clash with
    ⟨_, built, copied, direct, filled, isBuilt, isCopied, same, gaps, others, names, _, _, agree⟩ |
      ⟨unwritable, _⟩
  · refine ⟨mutable, built, copied, direct, filled, isBuilt, isCopied, same, gaps,
      others, names, ?_⟩
    intro equal
    have clashing : some (Value.text "first") = some (.text "last") := agree.mp equal "1" rfl
    simp at clashing
  · rw [areKeysWritable_clash] at unwritable
    cases unwritable

/-- Filling gaps with a mapping and with its configuration can leave different values. -/
theorem first_of_clash_fills :
    ∃ built direct filled, ofValue (.mapping clash) = .ok built ∧
      empty.copyMissing (.mapping clash) = .ok direct ∧
      empty.copyMissing built.toValue = .ok filled ∧
      direct.get? "1" = some (.text "first") ∧ filled.get? "1" = some (.text "last") ∧
      direct ≠ filled := by
  let writes := Value.normaliseEntries clash
  have built : ofValue (.mapping clash) = .ok (ofWrites writes) :=
    ofValue_mapping areKeysWritable_clash
  have row : writesOf (.mapping clash) = .ok writes := writesOf_mapping areKeysWritable_clash
  have direct : empty.copyMissing (.mapping clash) = .ok (empty.fill writes) := by
    rw [copyMissing_of_mutable rfl, row]
    rfl
  have filled : empty.copyMissing (ofWrites writes).toValue = .ok
      (empty.fill (ofWrites writes).fields) :=
    copyMissing_of_mutable rfl _
  refine ⟨_, _, _, built, direct, filled, rfl, rfl, fun equal => ?_⟩
  have clashing : some (Value.text "first") = some (.text "last") :=
    congrArg (Config.get? · "1") equal
  simp at clashing

end Config
end TaskGraph
