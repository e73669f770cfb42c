set_option autoImplicit false

/-! Named fields in order. Writing a present name keeps its place and a new name goes to the end, so
every operation keeps the names distinct. -/

namespace TaskGraph

abbrev Fields (α : Type) := List (String × α)

namespace Fields

variable {α : Type}

def keys (fields : Fields α) : List String := fields.map (·.1)

def get? (key : String) : Fields α → Option α
  | [] => none
  | (name, value) :: rest => if name = key then some value else get? key rest

def has (key : String) (fields : Fields α) : Bool := fields.keys.contains key

def put (key : String) (value : α) : Fields α → Fields α
  | [] => [(key, value)]
  | field :: rest =>
      if field.1 = key then (key, value) :: rest else field :: put key value rest

def putMissing (key : String) (value : α) (fields : Fields α) : Fields α :=
  if fields.has key then fields else fields ++ [(key, value)]

def erase (key : String) (fields : Fields α) : Fields α :=
  fields.filter fun field => field.1 != key

def overlay (fields other : Fields α) : Fields α :=
  other.foldl (fun result field => result.put field.1 field.2) fields

def fill (fields other : Fields α) : Fields α :=
  other.foldl (fun result field => result.putMissing field.1 field.2) fields

def ofWrites (writes : List (String × α)) : Fields α := overlay [] writes

def Distinct (fields : Fields α) : Prop := fields.keys.Nodup

instance (fields : Fields α) : Decidable fields.Distinct :=
  inferInstanceAs (Decidable fields.keys.Nodup)

theorem distinct_nil : Distinct ([] : Fields α) := List.nodup_nil

theorem mem_keys_put (key other : String) (value : α) (fields : Fields α) :
    other ∈ (fields.put key value).keys ↔ other = key ∨ other ∈ fields.keys := by
  induction fields with
  | nil => simp [put, keys]
  | cons field rest ih =>
      by_cases same : field.1 = key
      · simp [put, keys, same]
      · simp only [keys] at ih
        simp only [put, keys, same, if_false, List.map_cons, List.mem_cons, ih]
        constructor <;> intro member <;> rcases member with h | h | h <;> simp [h]

theorem distinct_put (key : String) (value : α) {fields : Fields α} (distinct : fields.Distinct) :
    (fields.put key value).Distinct := by
  induction fields with
  | nil => simp [put, Distinct, keys]
  | cons field rest ih =>
      have parts := List.nodup_cons.mp distinct
      by_cases same : field.1 = key
      · simpa [put, Distinct, keys, same] using distinct
      · simp only [put, same, if_false]
        refine List.nodup_cons.mpr ⟨?_, ih parts.2⟩
        intro member
        rcases (mem_keys_put key field.1 value rest).mp member with h | h
        · exact same h
        · exact parts.1 h

theorem distinct_putMissing (key : String) (value : α) {fields : Fields α}
    (distinct : fields.Distinct) : (fields.putMissing key value).Distinct := by
  unfold putMissing
  split
  · exact distinct
  · rename_i absent
    have fresh : key ∉ fields.keys := by simpa [has] using absent
    simp only [Distinct, keys, List.map_append, List.map_cons, List.map_nil]
    refine List.nodup_append.mpr ⟨distinct, by simp, ?_⟩
    intro name member other single same
    simp only [List.mem_singleton] at single
    exact fresh (by rw [← single, ← same]; exact member)

theorem distinct_erase (key : String) {fields : Fields α} (distinct : fields.Distinct) :
    (fields.erase key).Distinct :=
  List.Nodup.sublist (List.Sublist.map _ (List.filter_sublist)) distinct

theorem distinct_overlay (other : Fields α) {fields : Fields α} (distinct : fields.Distinct) :
    (fields.overlay other).Distinct := by
  induction other generalizing fields with
  | nil => exact distinct
  | cons field rest ih => exact ih (distinct_put field.1 field.2 distinct)

theorem distinct_fill (other : Fields α) {fields : Fields α} (distinct : fields.Distinct) :
    (fields.fill other).Distinct := by
  induction other generalizing fields with
  | nil => exact distinct
  | cons field rest ih => exact ih (distinct_putMissing field.1 field.2 distinct)

theorem distinct_ofWrites (writes : List (String × α)) : (ofWrites writes).Distinct :=
  distinct_overlay writes distinct_nil

end Fields
end TaskGraph
