import Mathlib.Data.List.Induction
import TaskGraph.Compiler.Walk
import TaskGraph.Proofs.Upstreams
set_option autoImplicit false

/-! What a node inherits. A node hands down what it inherits overlaid by its own `default`, and its
options are its own with the gaps filled from what it hands down. Along a line of nodes the nearest
`default` that has an option decides its value, and the order of first appearance decides its
place. -/

namespace TaskGraph

namespace Config

def subtaskKeys (config : Config) : List String := config.keys.filter isSubtaskKey

theorem mem_subtaskKeys (config : Config) (key : String) :
    key ∈ config.subtaskKeys ↔ key ∈ config.keys ∧ isSubtaskKey key = true := List.mem_filter

theorem subtaskKeys_nodup (config : Config) : config.subtaskKeys.Nodup :=
  List.Nodup.sublist List.filter_sublist config.distinct

theorem get?_ne_none_iff (config : Config) (key : String) :
    config.get? key ≠ none ↔ key ∈ config.keys :=
  Fields.get?_ne_none_iff key config.fields

theorem subtaskKeys_eq_nil_iff (config : Config) :
    config.subtaskKeys = [] ↔ ∀ key, isSubtaskKey key = true → config.get? key = none := by
  constructor
  · intro bare key isSubtask
    by_contra present
    have member := (mem_subtaskKeys config key).mpr
      ⟨(get?_ne_none_iff config key).mp present, isSubtask⟩
    rw [bare] at member
    cases member
  · intro absent
    apply List.eq_nil_iff_forall_not_mem.mpr
    intro key member
    obtain ⟨present, isSubtask⟩ := (mem_subtaskKeys config key).mp member
    exact (get?_ne_none_iff config key).mpr present (absent key isSubtask)

def withoutSubtasks (config : Config) : Config :=
  ⟨config.fields.filter fun field => !isSubtaskKey field.1, config.frozen,
    List.Nodup.sublist (List.Sublist.map _ List.filter_sublist) config.distinct⟩

theorem eq_of_fields {config other : Config} (fields : config.fields = other.fields)
    (frozen : config.frozen = other.frozen) : config = other := by
  obtain ⟨own, isFrozen, distinct⟩ := config
  cases fields
  cases frozen
  rfl

/-! ### Changes to a copy -/

/-- A copy takes every change, whatever was copied. -/
theorem setAll_deepCopy (config : Config) (writes : List (String × Value)) :
    config.deepCopy.setAll writes = .ok (config.deepCopy.overlay writes) := rfl

theorem setAllMissing_deepCopy (config : Config) (writes : List (String × Value)) :
    config.deepCopy.setAllMissing writes = .ok (config.deepCopy.fill writes) := rfl

theorem exists_removeAll {config : Config} (mutable : config.frozen = false) (names : List String) :
    ∃ others, config.removeAll names = .ok others ∧ others.frozen = false ∧
      others.fields = config.fields.filter fun field => !names.contains field.1 := by
  induction names generalizing config with
  | nil => exact ⟨config, rfl, mutable, by simp⟩
  | cons name rest ih =>
      have removed : config.remove name = .ok (config.erase name) := by
        rw [remove, Config.mutable, mutable]
        rfl
      have mutableRest : (config.erase name).frozen = false := mutable
      obtain ⟨others, found, stays, fields⟩ := ih mutableRest
      refine ⟨others, ?_, stays, ?_⟩
      · rw [removeAll, removed]
        exact found
      · have erased : (config.erase name).fields = config.fields.filter fun field =>
          field.1 != name := rfl
        rw [fields, erased, List.filter_filter]
        apply List.filter_congr
        intro field _
        rw [List.contains_cons, Bool.not_or]
        exact Bool.and_comm _ _

theorem removeAll_subtaskKeys {config : Config} (mutable : config.frozen = false) :
    config.removeAll config.subtaskKeys = .ok config.withoutSubtasks := by
  obtain ⟨others, found, stays, fields⟩ := exists_removeAll mutable config.subtaskKeys
  have same : others.fields = config.withoutSubtasks.fields := by
    rw [fields]
    apply List.filter_congr
    intro field member
    have present : field.1 ∈ config.keys := List.mem_map_of_mem member
    have declares : config.subtaskKeys.contains field.1 = isSubtaskKey field.1 := by
      rw [Bool.eq_iff_iff, List.contains_iff_mem, mem_subtaskKeys]
      exact and_iff_right present
    rw [declares]
  rw [found, eq_of_fields same (stays.trans mutable.symm)]

end Config

namespace Compiler

/-! ### One node -/

/-- What a node hands down to its subtasks and takes for itself: what it inherits, overlaid by its
own `default`. -/
def handDown (inherited own : Config) : Config :=
  inherited.deepCopy.overlay (own.below "default").fields

/-- The options of a node with the gaps filled from what it
hands down, its subtasks still among them. -/
def filledWith (inherited own : Config) : Config :=
  own.deepCopy.fill (handDown inherited own).fields

def optionsOf (inherited own : Config) : Config := (filledWith inherited own).withoutSubtasks

theorem stored_handDown {inherited own : Config} (stored : inherited.Stored) :
    (handDown inherited own).Stored := by
  intro field member
  have found : (inherited.deepCopy.fields.overlay (own.below "default").fields).get? field.1 =
      some field.2 :=
    Fields.get?_of_mem (handDown inherited own).distinct member
  rw [Fields.get?_overlay_of_distinct (own.below "default").distinct, Config.fields_deepCopy stored,
    Option.or_eq_some_iff] at found
  rcases found with declared | ⟨_, kept⟩
  · exact own.stored_below "default" _ (Fields.mem_of_get?_eq_some declared)
  · exact stored _ (Fields.mem_of_get?_eq_some kept)

theorem get?_handDown {inherited : Config} (stored : inherited.Stored) (own : Config)
    (key : String) :
    (handDown inherited own).get? key = ((own.below "default").get? key).or
      (inherited.get? key) := by
  change (inherited.deepCopy.fields.overlay (own.below "default").fields).get? key = _
  rw [Fields.get?_overlay_of_distinct (own.below "default").distinct, Config.fields_deepCopy stored]
  rfl

theorem keys_handDown {inherited : Config} (stored : inherited.Stored) (own : Config) :
    (handDown inherited own).keys = (inherited.keys ++ (own.below "default").keys).eraseDups := by
  change (inherited.deepCopy.fields.overlay (own.below "default").fields).keys = _
  rw [Fields.keys_overlay inherited.deepCopy.distinct, Config.fields_deepCopy stored]
  rfl

theorem get?_filledWith {own : Config} (stored : own.Stored) (inherited : Config) (key : String) :
    (filledWith inherited own).get? key = (own.get? key).or
      ((handDown inherited own).get? key) := by
  change (own.deepCopy.fields.fill (handDown inherited own).fields).get? key = _
  rw [Fields.get?_fill, Config.fields_deepCopy stored]
  rfl

theorem keys_filledWith {own : Config} (stored : own.Stored) (inherited : Config) :
    (filledWith inherited own).keys = (own.keys ++ (handDown inherited own).keys).eraseDups := by
  change (own.deepCopy.fields.fill (handDown inherited own).fields).keys = _
  rw [Fields.keys_fill own.deepCopy.distinct, Config.fields_deepCopy stored]
  rfl

theorem get?_optionsOf {own : Config} (stored : own.Stored) (inherited : Config) (key : String) :
    (optionsOf inherited own).get? key =
      if isSubtaskKey key then none else (own.get? key).or ((handDown inherited own).get? key) := by
  change Fields.get? key ((filledWith inherited own).fields.filter fun field =>
    !isSubtaskKey field.1) = _
  rw [Fields.get?_filter (fun name => !isSubtaskKey name)]
  have filled := get?_filledWith stored inherited key
  rw [Config.get?] at filled
  rw [filled]
  cases isSubtaskKey key <;> rfl

theorem keys_optionsOf {own : Config} (stored : own.Stored) (inherited : Config) :
    (optionsOf inherited own).keys =
      ((own.keys ++ (handDown inherited own).keys).eraseDups).filter (!isSubtaskKey ·) := by
  change Fields.keys ((filledWith inherited own).fields.filter fun field => !isSubtaskKey field.1) =
    _
  rw [Fields.keys_filter (fun name => !isSubtaskKey name)]
  have filled := keys_filledWith stored inherited
  rw [Config.keys] at filled
  rw [filled]

theorem stored_optionsOf {inherited own : Config} (storedInherited : inherited.Stored)
    (stored : own.Stored) :
    (optionsOf inherited own).Stored := by
  intro field member
  have found : (optionsOf inherited own).get? field.1 = some field.2 :=
    Fields.get?_of_mem (optionsOf inherited own).distinct member
  rw [get?_optionsOf stored] at found
  split at found
  · cases found
  · rcases Option.or_eq_some_iff.mp found with kept | ⟨_, filled⟩
    · exact stored _ (Fields.mem_of_get?_eq_some kept)
    · exact stored_handDown storedInherited _ (Fields.mem_of_get?_eq_some filled)

/-! ### Resolving a node -/

theorem nestedAll_eq_ok_iff (config : Config) (names : List String)
    (subtasks : List (String × Config)) :
    nestedAll config names = .ok subtasks ↔
      (∀ name ∈ names, ReadsAsMapping (config.get? name)) ∧
        subtasks = names.map fun name => (name, config.below name) := by
  induction names generalizing subtasks with
  | nil => simp [nestedAll, eq_comm]
  | cons name rest ih =>
      rw [nestedAll]
      constructor
      · intro found
        cases read : config.nested name with
        | error cause =>
            simp only [read] at found
            cases found
        | ok below =>
            obtain ⟨readable, same⟩ := (config.nested_eq_ok_iff name below).mp read
            cases inner : nestedAll config rest with
            | error cause =>
                simp only [read, inner] at found
                cases found
            | ok others =>
                obtain ⟨all, sameRest⟩ := (ih others).mp inner
                simp only [read, inner] at found
                cases found
                exact ⟨List.forall_mem_cons.mpr ⟨readable, all⟩, by
                  rw [same, sameRest, List.map_cons]⟩
      · rintro ⟨all, same⟩
        have parts := List.forall_mem_cons.mp all
        simp only [Config.nested_eq_below parts.1, (ih _).mpr ⟨parts.2, rfl⟩, same]
        rfl

/-- Resolving a node comes down to reading its `default` and its
subtasks: no change is ever refused. -/
theorem resolve_eq (inherited own : Config) :
    resolve inherited own =
      match own.nested "default" with
      | .error cause => .error cause
      | .ok _ =>
          (nestedAll (filledWith inherited own) (filledWith inherited own).subtaskKeys).map
            fun subtasks =>
            { defaults := handDown inherited own
              options := optionsOf inherited own
              subtasks } := by
  cases read : own.nested "default" with
  | error cause => simp only [resolve, defaultsOf, read]
  | ok declared =>
      have same := ((own.nested_eq_ok_iff "default" declared).mp read).2
      have defaults : defaultsOf inherited own = .ok (handDown inherited own) := by
        simp only [defaultsOf, read, Config.setAll_deepCopy, same]
        rfl
      have filled : own.deepCopy.setAllMissing (handDown inherited own).fields =
          .ok (filledWith inherited own) := Config.setAllMissing_deepCopy own _
      have keys : (filledWith inherited own).keys.filter isSubtaskKey =
          (filledWith inherited own).subtaskKeys := rfl
      simp only [resolve, defaults, filled, keys]
      cases below : nestedAll (filledWith inherited own) (filledWith inherited own).subtaskKeys with
      | error cause => rfl
      | ok subtasks =>
          have names : subtasks.map (·.1) = (filledWith inherited own).subtaskKeys := by
            rw [((nestedAll_eq_ok_iff _ _ subtasks).mp below).2, List.map_map]
            exact List.map_id _
          have mutable : (filledWith inherited own).frozen = false := rfl
          simp only [names, Config.removeAll_subtaskKeys mutable]
          rfl

theorem resolve_eq_ok_iff (inherited own : Config) (resolved : Resolved) :
    resolve inherited own = .ok resolved ↔
      ReadsAsMapping (own.get? "default") ∧
      (∀ name ∈ (filledWith inherited own).subtaskKeys,
        ReadsAsMapping ((filledWith inherited own).get? name)) ∧
      resolved =
        { defaults := handDown inherited own
          options := optionsOf inherited own
          subtasks := (filledWith inherited own).subtaskKeys.map fun name =>
            (name, (filledWith inherited own).below name) } := by
  rw [resolve_eq]
  constructor
  · intro found
    cases read : own.nested "default" with
    | error cause =>
        simp only [read] at found
        cases found
    | ok declared =>
        have readable := ((own.nested_eq_ok_iff "default" declared).mp read).1
        cases below : nestedAll (filledWith inherited own)
          (filledWith inherited own).subtaskKeys with
        | error cause =>
            simp only [read, below] at found
            cases found
        | ok subtasks =>
            have all := (nestedAll_eq_ok_iff _ _ subtasks).mp below
            simp only [read, below] at found
            cases found
            exact ⟨readable, all.1, by rw [← all.2]⟩
  · rintro ⟨readable, all, same⟩
    have below := (nestedAll_eq_ok_iff (filledWith inherited own) _ _).mpr ⟨all, rfl⟩
    simp only [Config.nested_eq_below readable, below, same]
    rfl

/-- Where nothing that is handed down declares a subtask, the subtasks of a node are its own. -/
theorem subtaskKeys_filledWith {inherited own : Config} (stored : own.Stored)
    (bare : (handDown inherited own).subtaskKeys = []) :
    (filledWith inherited own).subtaskKeys = own.subtaskKeys := by
  rw [Config.subtaskKeys, keys_filledWith stored, ← eraseDups_filter, List.filter_append,
    ← Config.subtaskKeys, ← Config.subtaskKeys, bare, List.append_nil]
  exact Fields.eraseDups_eq_self own.subtaskKeys_nodup

theorem resolve_eq_ok_iff_of_bare {inherited own : Config} (stored : own.Stored)
    (bare : (handDown inherited own).subtaskKeys = []) (resolved : Resolved) :
    resolve inherited own = .ok resolved ↔
      ReadsAsMapping (own.get? "default") ∧
      (∀ name ∈ own.subtaskKeys, ReadsAsMapping (own.get? name)) ∧
      resolved =
        { defaults := handDown inherited own
          options := optionsOf inherited own
          subtasks := own.subtaskKeys.map fun name => (name, own.below name) } := by
  have same : ∀ name ∈ own.subtaskKeys, (filledWith inherited own).get? name = own.get? name := by
    intro name member
    have missing := (Config.subtaskKeys_eq_nil_iff _).mp bare name
      ((own.mem_subtaskKeys name).mp member).2
    rw [get?_filledWith stored, missing, Option.or_none]
  have names := subtaskKeys_filledWith stored bare
  have subtasks : (filledWith inherited own).subtaskKeys.map
      (fun name => (name, (filledWith inherited own).below name)) =
      own.subtaskKeys.map fun name => (name, own.below name) := by
    rw [names]
    apply List.map_congr_left
    intro name member
    rw [Config.below_congr (same name member)]
  have readable : (∀ name ∈ (filledWith inherited own).subtaskKeys,
      ReadsAsMapping ((filledWith inherited own).get? name)) ↔
      ∀ name ∈ own.subtaskKeys, ReadsAsMapping (own.get? name) := by
    rw [names]
    exact forall₂_congr fun name member => by rw [same name member]
  rw [resolve_eq_ok_iff, subtasks, readable]

/-! ### A line of nodes -/

/-- What a line of nodes, from the root on, hands down to what stands below its last one. -/
def handedDown (lineage : List Config) : Config := lineage.foldl handDown Config.empty

theorem handedDown_append (lineage : List Config) (own : Config) :
    handedDown (lineage ++ [own]) = handDown (handedDown lineage) own := by
  rw [handedDown, List.foldl_append]
  rfl

theorem stored_handedDown (lineage : List Config) : (handedDown lineage).Stored := by
  induction lineage using List.reverseRecOn with
  | nil => exact Config.stored_empty
  | append_singleton lineage own ih =>
      rw [handedDown_append]
      exact stored_handDown ih

/-- The nearest `default` that has an option decides its value. -/
theorem get?_handedDown (lineage : List Config) (key : String) :
    (handedDown lineage).get? key = lineage.reverse.findSome? fun own =>
      (own.below "default").get? key := by
  induction lineage using List.reverseRecOn with
  | nil => rfl
  | append_singleton lineage own ih =>
      rw [handedDown_append, get?_handDown (stored_handedDown lineage), ih, List.reverse_append,
        List.reverse_singleton, List.singleton_append, List.findSome?_cons]
      cases (own.below "default").get? key <;> rfl

/-- What is handed down stands in the order of its first appearance. -/
theorem keys_handedDown (lineage : List Config) :
    (handedDown lineage).keys =
      (lineage.flatMap fun own => (own.below "default").keys).eraseDups := by
  induction lineage using List.reverseRecOn with
  | nil => rfl
  | append_singleton lineage own ih =>
      have once : (lineage.flatMap fun own => (own.below "default").keys).eraseDups.eraseDups =
          (lineage.flatMap fun own => (own.below "default").keys).eraseDups := by
        rw [← ih]
        exact Fields.eraseDups_eq_self (handedDown lineage).distinct
      rw [handedDown_append, keys_handDown (stored_handedDown lineage), ih, List.flatMap_append,
        List.flatMap_singleton, List.eraseDups_append, List.eraseDups_append, once]
      congr 2
      simp [List.removeAll]

end Compiler
end TaskGraph
