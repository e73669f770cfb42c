import TaskGraph.Compiler.Resolved
import TaskGraph.Proofs.StoredValues
set_option autoImplicit false

/-! What the typed reading of an option accepts and gives: a mapping, a truth value, a list of
names. Each is said of the value alone, an absent and a null option counting as empty, false or no
names, and the reader gives a result exactly for the values that have one. -/

namespace TaskGraph

/-! ### Mappings -/

def ReadsAsMapping : Option Value → Prop
  | none => True
  | some .null => True
  | some (.mapping _) => True
  | some _ => False

namespace Config

/-- The configuration below an option; what is no mapping counts as empty. -/
def below (config : Config) (key : String) : Config :=
  match config.get? key with
  | some (.mapping entries) => ofWrites (Value.normaliseEntries entries)
  | _ => empty

theorem nested_eq_ok_iff (config : Config) (key : String) (found : Config) :
    config.nested key = .ok found ↔ ReadsAsMapping (config.get? key) ∧
      found = config.below key := by
  unfold nested below
  cases config.get? key with
  | none => simp [ReadsAsMapping, eq_comm]
  | some value => cases value <;> simp [ReadsAsMapping, eq_comm]

theorem nested_eq_below {config : Config} {key : String}
    (readable : ReadsAsMapping (config.get? key)) :
    config.nested key = .ok (config.below key) :=
  (nested_eq_ok_iff config key _).mpr ⟨readable, rfl⟩

theorem below_congr {config other : Config} {key : String}
    (same : config.get? key = other.get? key) :
    config.below key = other.below key := by
  unfold below
  rw [same]

theorem stored_below (config : Config) (key : String) : (config.below key).Stored := by
  unfold below
  split
  · exact stored_ofWrites (Value.normalise_of_mem_entries _)
  · exact stored_empty

end Config

/-! ### Depth -/

namespace Value

theorem depthFields_le_iff (fields : List (String × Value)) (bound : Nat) :
    depthFields fields ≤ bound ↔ ∀ field ∈ fields, field.2.depth ≤ bound := by
  induction fields with
  | nil => simp [depthFields]
  | cons field rest ih => simp only [depthFields, Nat.max_le, ih, List.forall_mem_cons]

theorem depthEntries_entriesOf (fields : List (String × Value)) :
    depthEntries (entriesOf fields) = depthFields fields := by
  induction fields with
  | nil => rfl
  | cons field rest ih =>
      have key : (text field.1).depth = 0 := by simp only [depth]
      rw [entriesOf, List.map_cons, depthEntries, ← entriesOf, ih, depthFields, key, Nat.zero_max]

theorem depthFields_ofWrites_le (writes : List (String × Value)) :
    depthFields (Fields.ofWrites writes) ≤ depthFields writes := by
  apply (depthFields_le_iff _ _).mpr
  intro field member
  exact (depthFields_le_iff writes _).mp (Nat.le_refl _) field (Fields.mem_of_mem_ofWrites member)

theorem depth_ofFields (fields : List (String × Value)) :
    (ofFields fields).depth = depthFields fields + 1 := by
  rw [ofFields, depth, depthEntries_entriesOf]

mutual

theorem depth_normalise_le : (value : Value) → value.normalise.depth ≤ value.depth
  | mapping entries => by
      rw [normalise, depth_ofFields, depth]
      exact Nat.succ_le_succ
        (Nat.le_trans (depthFields_ofWrites_le _) (depthFields_normaliseEntries_le entries))
  | config fields _ => by
      rw [normalise, depth_ofFields, depth]
      exact Nat.succ_le_succ
        (Nat.le_trans (depthFields_ofWrites_le _) (depthFields_normaliseFields_le fields))
  | list items => by
      rw [normalise, depth, depth]
      exact Nat.succ_le_succ (depthList_normaliseList_le items)
  | null | bool _ | int _ | float _ | text _ | bytes _ | date _ | moment _ | tuple _ | set _ =>
      Nat.le_refl _

theorem depthList_normaliseList_le : (items : List Value) →
    depthList (normaliseList items) ≤ depthList items
  | [] => Nat.le_refl _
  | item :: rest => by
      have first := depth_normalise_le item
      have others := depthList_normaliseList_le rest
      simp only [normaliseList, depthList]
      omega

theorem depthFields_normaliseEntries_le :
    (entries : List (Value × Value)) → depthFields (normaliseEntries entries) ≤ depthEntries entries
  | [] => Nat.le_refl _
  | (key, value) :: rest => by
      have first := depth_normalise_le value
      have others := depthFields_normaliseEntries_le rest
      simp only [normaliseEntries, depthFields, depthEntries]
      omega

theorem depthFields_normaliseFields_le :
    (fields : List (String × Value)) → depthFields (normaliseFields fields) ≤ depthFields fields
  | [] => Nat.le_refl _
  | (key, value) :: rest => by
      have first := depth_normalise_le value
      have others := depthFields_normaliseFields_le rest
      simp only [normaliseFields, depthFields]
      omega

end

end Value

namespace Config

/-- How often one can go on to a configuration below: not at all where there is no option. -/
def height (config : Config) : Nat :=
  if config.fields.isEmpty then 0 else Value.depthFields config.fields + 1

theorem height_le (config : Config) : config.height ≤ Value.depthFields config.fields + 1 := by
  unfold height
  split <;> omega

theorem height_below_lt {config : Config} {key : String} (present : key ∈ config.keys) :
    (config.below key).height < config.height := by
  have inhabited : config.fields.isEmpty = false := by
    cases shape : config.fields with
    | nil => simp [keys, shape] at present
    | cons field rest => rfl
  rw [height.eq_1 config, if_neg (by simp [inhabited])]
  unfold below
  split
  · rename_i entries found
    have member : (key, Value.mapping entries) ∈ config.fields := Fields.mem_of_get?_eq_some found
    have bound : (Value.mapping entries).depth ≤ Value.depthFields config.fields :=
      (Value.depthFields_le_iff config.fields _).mp (Nat.le_refl _) _ member
    have inner : Value.depthFields (ofWrites (Value.normaliseEntries entries)).fields ≤
        Value.depthEntries entries :=
      Nat.le_trans (Value.depthFields_ofWrites_le _) (Value.depthFields_normaliseEntries_le entries)
    have reached := height_le (ofWrites (Value.normaliseEntries entries))
    rw [Value.depth] at bound
    omega
  · exact Nat.succ_pos _

/-! ### Truth values -/

end Config

def ReadsAs (truth : Bool) : Option Value → Prop
  | none => truth = false
  | some .null => truth = false
  | some (.bool found) => found = truth
  | some (.text content) => content.toLower = if truth then "true" else "false"
  | some _ => False

theorem ReadsAs.unique {value : Option Value} {truth other : Bool} (reads : ReadsAs truth value)
    (readsOther : ReadsAs other value) : truth = other := by
  unfold ReadsAs at reads readsOther
  split at reads
  · exact reads.trans readsOther.symm
  · exact reads.trans readsOther.symm
  · exact reads.symm.trans readsOther
  · have same := reads.symm.trans readsOther
    cases truth <;> cases other <;> first | rfl | exact absurd same (by decide)
  · exact reads.elim

namespace Config

theorem truthOf?_eq_some_iff (content : String) (truth : Bool) :
    truthOf? content = some truth ↔ content.toLower = if truth then "true" else "false" := by
  have lowered : content.toLower.toList = content.toList.map Char.toLower := String.toList_map
  have spelled (word : String) :
      content.toLower = word ↔ content.toList.map Char.toLower = word.toList := by
    rw [← String.toList_inj, lowered]
  have yes : "true".toList = ['t', 'r', 'u', 'e'] := by decide
  have no : "false".toList = ['f', 'a', 'l', 's', 'e'] := by decide
  unfold truthOf?
  cases truth with
  | true =>
      rw [if_pos rfl, spelled, yes]
      by_cases affirmed : content.toList.map Char.toLower = ['t', 'r', 'u', 'e'] <;> simp [affirmed]
  | false =>
      rw [if_neg Bool.false_ne_true, spelled, no]
      by_cases affirmed : content.toList.map Char.toLower = ['t', 'r', 'u', 'e'] <;> simp [affirmed]

theorem bool_eq_ok_iff (config : Config) (key : String) (truth : Bool) :
    config.bool key false = .ok truth ↔ ReadsAs truth (config.get? key) := by
  unfold bool ReadsAs
  cases config.get? key with
  | none => simp [eq_comm]
  | some value =>
      cases value with
      | text content =>
          simp only [← truthOf?_eq_some_iff]
          cases truthOf? content <;> simp
      | _ => simp [eq_comm]

/-! ### Names -/

end Config

def ListsNames (names : List String) : Option Value → Prop
  | none => names = []
  | some .null => names = []
  | some (.list items) => items = names.map .text
  | some _ => False

def DependsOn (known : List String) (value : Option Value) : Prop :=
  ∃ names, ListsNames names value ∧ ∀ name ∈ names, name ∈ known

theorem isSubtaskKey_toString (number : Int) : isSubtaskKey (toString number) = false := by
  have first (n : Nat) : isSubtaskKey n.repr = false := by
    rw [isSubtaskKey, Nat.toList_repr, beq_eq_false_iff_ne]
    intro found
    have digit := Nat.isDigit_of_mem_toDigits (by decide) (by decide) (List.mem_of_mem_head? found)
    exact absurd digit (by decide)
  rw [Int.toString_eq_repr, Int.repr_eq_if]
  split
  · exact first _
  · simp [isSubtaskKey]

end TaskGraph
