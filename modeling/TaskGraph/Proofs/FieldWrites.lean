import Mathlib.Data.List.Basic
import TaskGraph.Fields
set_option autoImplicit false

/-! What a row of writes leaves in named fields. A lookup decides the values, the list of names
decides the order, and together they decide the fields: `overlay` and `fill` leave the names in the
same order and differ only in which of two values wins. -/

namespace TaskGraph.Fields

variable {α : Type}

/-! ### Lookups and names -/

@[simp] theorem keys_nil : keys ([] : Fields α) = [] := rfl

@[simp] theorem keys_cons (field : String × α) (rest : Fields α) :
    keys (field :: rest) = field.1 :: keys rest := rfl

@[simp] theorem keys_append (fields other : Fields α) :
    keys (fields ++ other) = fields.keys ++ other.keys := List.map_append

@[simp] theorem keys_reverse (fields : Fields α) : keys fields.reverse = fields.keys.reverse :=
  List.map_reverse

@[simp] theorem get?_nil (key : String) : get? key ([] : Fields α) = none := rfl

theorem get?_cons (key : String) (field : String × α) (rest : Fields α) :
    get? key (field :: rest) = if field.1 = key then some field.2 else get? key rest := by
  rcases field with ⟨name, value⟩
  rfl

theorem get?_append (key : String) (fields other : Fields α) :
    get? key (fields ++ other) = (get? key fields).or (get? key other) := by
  induction fields with
  | nil => rfl
  | cons field rest ih =>
      rw [List.cons_append, get?_cons, get?_cons]
      by_cases same : field.1 = key
      · simp only [if_pos same, Option.some_or]
      · simp only [if_neg same, ih]

theorem get?_eq_none_iff (key : String) (fields : Fields α) :
    get? key fields = none ↔ key ∉ fields.keys := by
  induction fields with
  | nil => simp
  | cons field rest ih =>
      rw [get?_cons]
      by_cases same : field.1 = key
      · simp [same]
      · rw [if_neg same, ih]
        simp [Ne.symm same]

theorem has_eq_true_iff (key : String) (fields : Fields α) :
    fields.has key = true ↔ key ∈ fields.keys := by
  simp [has]

theorem get?_ne_none_iff (key : String) (fields : Fields α) :
    get? key fields ≠ none ↔ key ∈ fields.keys := by
  rw [ne_eq, get?_eq_none_iff, not_not]

theorem mem_of_get?_eq_some {key : String} {value : α} {fields : Fields α}
    (found : get? key fields = some value) : (key, value) ∈ fields := by
  induction fields with
  | nil => cases found
  | cons field rest ih =>
      rw [get?_cons] at found
      by_cases same : field.1 = key
      · rw [if_pos same, Option.some.injEq] at found
        rw [← same, ← found]
        exact List.mem_cons_self
      · rw [if_neg same] at found
        exact List.mem_cons_of_mem _ (ih found)

theorem get?_of_mem {field : String × α} {fields : Fields α} (distinct : fields.Distinct)
    (member : field ∈ fields) : get? field.1 fields = some field.2 := by
  induction fields with
  | nil => cases member
  | cons head rest ih =>
      have parts := List.nodup_cons.mp distinct
      rw [get?_cons]
      rcases List.mem_cons.mp member with same | later
      · rw [same, if_pos rfl]
      · have different : head.1 ≠ field.1 := by
          intro same
          exact parts.1 (List.mem_map.mpr ⟨field, later, same.symm⟩)
        rw [if_neg different]
        exact ih parts.2 later

theorem get?_filter (keep : String → Bool) (key : String) (fields : Fields α) :
    get? key (fields.filter fun field => keep field.1) = if keep key then get? key fields
      else none := by
  induction fields with
  | nil => simp
  | cons field rest ih =>
      rw [List.filter_cons]
      by_cases kept : keep field.1 = true
      · rw [if_pos kept, get?_cons, get?_cons, ih]
        by_cases same : field.1 = key
        · simp [← same, kept]
        · simp [same]
      · rw [if_neg kept, ih, get?_cons]
        by_cases same : field.1 = key
        · simp [← same, kept]
        · simp [same]

theorem keys_filter (keep : String → Bool) (fields : Fields α) :
    keys (fields.filter fun field => keep field.1) = fields.keys.filter keep := by
  simp [keys, List.filter_map, Function.comp_def]

/-- The names in order and the value of each are all there is to fields. -/
theorem eq_filterMap_keys {fields : Fields α} (distinct : fields.Distinct) :
    fields = fields.keys.filterMap fun key => (get? key fields).map (key, ·) := by
  have each : ∀ field ∈ fields, (get? field.1 fields).map (field.1, ·) = some field := by
    intro field member
    rw [get?_of_mem distinct member]
    rfl
  rw [keys, List.filterMap_map]
  calc fields = fields.filterMap some := by simp
    _ = fields.filterMap ((fun key => (get? key fields).map (key, ·)) ∘ (·.1)) :=
        List.filterMap_congr fun field member => (each field member).symm

theorem eq_of_keys_of_get? {fields other : Fields α} (distinct : fields.Distinct)
    (distinct' : other.Distinct) (names : fields.keys = other.keys)
    (values : ∀ key, get? key fields = get? key other) : fields = other := by
  rw [eq_filterMap_keys distinct, eq_filterMap_keys distinct', names]
  simp only [values]

/-! ### One write -/

theorem get?_put (key other : String) (value : α) (fields : Fields α) :
    get? other (fields.put key value) = if key = other then some value else get? other fields := by
  induction fields with
  | nil => rfl
  | cons field rest ih =>
      by_cases same : field.1 = key
      · rw [put, if_pos same, get?_cons, get?_cons, same]
        by_cases here : key = other
        · rw [if_pos here, if_pos here]
        · rw [if_neg here, if_neg here, if_neg here]
      · rw [put, if_neg same, get?_cons, get?_cons, ih]
        by_cases here : key = other
        · rw [if_pos here, if_pos here, if_neg (fun found => same (found.trans here.symm))]
        · rw [if_neg here, if_neg here]

theorem keys_put (key : String) (value : α) (fields : Fields α) :
    (fields.put key value).keys = if key ∈ fields.keys then fields.keys
      else fields.keys ++ [key] := by
  induction fields with
  | nil => rfl
  | cons field rest ih =>
      by_cases same : field.1 = key
      · simp [put, same]
      · rw [put, if_neg same, keys_cons, keys_cons, ih]
        by_cases present : key ∈ keys rest
        · rw [if_pos present, if_pos (List.mem_cons_of_mem _ present)]
        · have fresh : key ∉ field.1 :: keys rest := by simp [Ne.symm same, present]
          rw [if_neg present, if_neg fresh, List.cons_append]

theorem get?_putMissing (key other : String) (value : α) (fields : Fields α) :
    get? other (fields.putMissing key value) =
      (get? other fields).or (if key = other then some value else none) := by
  unfold putMissing
  by_cases present : fields.has key = true
  · rw [if_pos present]
    by_cases here : key = other
    · obtain ⟨stored, found⟩ := Option.ne_none_iff_exists'.mp
        ((get?_ne_none_iff key fields).mpr ((has_eq_true_iff key fields).mp present))
      simp [← here, found]
    · simp [here]
  · rw [if_neg present, get?_append]
    rfl

theorem keys_putMissing (key : String) (value : α) (fields : Fields α) :
    (fields.putMissing key value).keys = if key ∈ fields.keys then fields.keys
      else fields.keys ++ [key] := by
  unfold putMissing
  by_cases present : key ∈ fields.keys
  · rw [if_pos ((has_eq_true_iff key fields).mpr present), if_pos present]
  · rw [if_neg (fun found => present ((has_eq_true_iff key fields).mp found)), if_neg present]
    simp

/-! ### A row of writes -/

/-- Of several writes under one name the last one stays. -/
theorem get?_overlay (key : String) (fields other : Fields α) :
    get? key (fields.overlay other) = (get? key other.reverse).or (get? key fields) := by
  induction other generalizing fields with
  | nil => rfl
  | cons field rest ih =>
      rw [overlay, List.foldl_cons, ← overlay, ih, get?_put, List.reverse_cons,
        get?_append, get?_cons]
      cases get? key rest.reverse <;> by_cases here : field.1 = key <;> simp [here]

theorem get?_reverse {fields : Fields α} (distinct : fields.Distinct) (key : String) :
    get? key fields.reverse = get? key fields := by
  have reversed : Distinct fields.reverse := by
    rw [Distinct, keys_reverse]
    exact (List.reverse_perm _).nodup_iff.mpr distinct
  cases found : get? key fields with
  | none =>
      rw [get?_eq_none_iff] at found ⊢
      simpa using found
  | some value =>
      exact get?_of_mem reversed (List.mem_reverse.mpr (mem_of_get?_eq_some found))

theorem get?_overlay_of_distinct {other : Fields α} (distinct : other.Distinct) (key : String)
    (fields : Fields α) :
    get? key (fields.overlay other) = (get? key other).or (get? key fields) := by
  rw [get?_overlay, get?_reverse distinct]

/-- Of several writes under one name that is absent the first one stays. -/
theorem get?_fill (key : String) (fields other : Fields α) :
    get? key (fields.fill other) = (get? key fields).or (get? key other) := by
  induction other generalizing fields with
  | nil => simp [fill]
  | cons field rest ih =>
      rw [fill, List.foldl_cons, ← fill, ih, get?_putMissing, get?_cons]
      cases get? key fields <;> by_cases here : field.1 = key <;> simp [here]

/-- Adding one name to a list of names without repetition, unless it is there. -/
private theorem eraseDups_append_cons (names rest : List String) (key : String) :
    ((if key ∈ names then names else names ++ [key]) ++ rest).eraseDups =
      (names ++ key :: rest).eraseDups := by
  split
  · rename_i present
    simp [List.eraseDups_append, List.removeAll, present]
  · simp

theorem eraseDups_eq_self {names : List String} (distinct : names.Nodup) :
    names.eraseDups = names := by
  induction names with
  | nil => rfl
  | cons name rest ih =>
      have parts := List.nodup_cons.mp distinct
      have others : rest.filter (fun other => !other == name) = rest :=
        List.filter_eq_self.mpr fun other member => by
          have different : other ≠ name := fun same => parts.1 (same ▸ member)
          simpa using different
      rw [List.eraseDups_cons, others, ih parts.2]

/-- Names stand in the order in which they were first written. -/
theorem keys_overlay {fields : Fields α} (distinct : fields.Distinct) (other : Fields α) :
    (fields.overlay other).keys = (fields.keys ++ other.keys).eraseDups := by
  induction other generalizing fields with
  | nil => simpa [overlay] using (eraseDups_eq_self distinct).symm
  | cons field rest ih =>
      rw [overlay, List.foldl_cons, ← overlay, ih (distinct_put _ _ distinct), keys_put]
      exact eraseDups_append_cons fields.keys (keys rest) field.1

/-- Filling gaps and writing over leave the same names in the same order. -/
theorem keys_fill {fields : Fields α} (distinct : fields.Distinct) (other : Fields α) :
    (fields.fill other).keys = (fields.keys ++ other.keys).eraseDups := by
  induction other generalizing fields with
  | nil => simpa [fill] using (eraseDups_eq_self distinct).symm
  | cons field rest ih =>
      rw [fill, List.foldl_cons, ← fill, ih (distinct_putMissing _ _ distinct), keys_putMissing]
      exact eraseDups_append_cons fields.keys (keys rest) field.1

theorem get?_ofWrites (key : String) (writes : Fields α) :
    get? key (ofWrites writes) = get? key writes.reverse := by
  rw [ofWrites, get?_overlay, get?_nil, Option.or_none]

theorem keys_ofWrites (writes : Fields α) : (ofWrites writes).keys = writes.keys.eraseDups := by
  rw [ofWrites, keys_overlay distinct_nil]
  rfl

theorem ofWrites_eq_self {fields : Fields α} (distinct : fields.Distinct) :
    ofWrites fields = fields := by
  refine eq_of_keys_of_get? (distinct_ofWrites fields) distinct ?_ ?_
  · rw [keys_ofWrites]
    exact eraseDups_eq_self distinct
  · intro key
    rw [get?_ofWrites, get?_reverse distinct]

theorem mem_of_mem_ofWrites {field : String × α} {writes : Fields α}
    (member : field ∈ ofWrites writes) :
    field ∈ writes := by
  have found := get?_of_mem (distinct_ofWrites writes) member
  rw [get?_ofWrites] at found
  exact List.mem_reverse.mp (mem_of_get?_eq_some found)

end TaskGraph.Fields
