import Mathlib.Data.List.Perm.Basic
import TaskGraph.Proofs.Acceptance
import TaskGraph.Proofs.Counterparts
set_option autoImplicit false

/-! Definitions in another order. Of all that a definition lists only the order of its subtasks
matters: where two nodes have the same subtasks in the same order, the same options and the same
defaults, they compile into the same tasks. -/

namespace TaskGraph

/-! ### Options in another order -/

def SameEntries : Option Value → Option Value → Prop
  | some (.mapping entries), some (.mapping others) => entries.Perm others
  | value, other => value = other

theorem SameEntries.refl (value : Option Value) : SameEntries value value := by
  cases value with
  | none => rfl
  | some value =>
      cases value with
      | mapping entries => exact List.Perm.refl entries
      | _ => rfl

theorem SameEntries.symm {value other : Option Value} (same : SameEntries value other) :
    SameEntries other value := by
  unfold SameEntries at same
  split at same
  · exact List.Perm.symm same
  · rw [same]
    exact .refl other

theorem SameEntries.cases {value other : Option Value} (same : SameEntries value other) :
    value = other ∨ ∃ entries others, value = some (.mapping entries) ∧
      other = some (.mapping others) ∧
      entries.Perm others := by
  unfold SameEntries at same
  split at same
  · exact Or.inr ⟨_, _, rfl, rfl, same⟩
  · exact Or.inl same

theorem SameEntries.trans {value middle other : Option Value} (first : SameEntries value middle)
    (second : SameEntries middle other) : SameEntries value other := by
  rcases first.cases with equal | ⟨entries, between, isMapping, isMiddle, permuted⟩
  · rw [equal]
    exact second
  · rcases second.cases with equal | ⟨between', others, isMiddle', isOther, permutedOther⟩
    · rw [← equal]
      exact first
    · rw [isMiddle] at isMiddle'
      cases isMiddle'
      rw [isMapping, isOther]
      exact permuted.trans permutedOther

theorem SameEntries.none_iff {value other : Option Value} (same : SameEntries value other) :
    value = none ↔ other = none := by
  rcases same.cases with equal | ⟨_, _, isMapping, isOther, _⟩
  · rw [equal]
  · simp [isMapping, isOther]

theorem SameEntries.readsAsMapping_iff {value other : Option Value}
    (same : SameEntries value other) :
    ReadsAsMapping value ↔ ReadsAsMapping other := by
  rcases same.cases with equal | ⟨_, _, isMapping, isOther, _⟩
  · rw [equal]
  · rw [isMapping, isOther]
    exact Iff.rfl

theorem Fields.get?_of_perm {α : Type} {fields other : Fields α} (distinct : fields.Distinct)
    (same : fields.Perm other) (key : String) : get? key fields = get? key other := by
  have keys : fields.keys.Perm other.keys := same.map _
  cases found : get? key other with
  | none =>
      rw [get?_eq_none_iff] at found ⊢
      exact fun member => found (keys.mem_iff.mp member)
  | some value => exact get?_of_mem distinct (same.mem_iff.mpr (mem_of_get?_eq_some found))

namespace Config

theorem entries_eq_of_stored {config : Config} (stored : config.Stored) {key : String}
    {entries : List (Value × Value)} (found : config.get? key = some (.mapping entries)) :
    entries = Value.entriesOf (config.below key).fields := by
  have same := stored (key, .mapping entries) (Fields.mem_of_get?_eq_some found)
  rw [Value.normalise, Value.ofFields, Value.mapping.injEq] at same
  rw [below, found]
  exact same.symm

theorem get?_below_of_sameEntries {own other : Config} (stored : own.Stored)
    (storedOther : other.Stored) {key : String} (same : SameEntries (own.get? key) (other.get? key))
    (option : String) :
    (own.below key).get? option = (other.below key).get? option := by
  rcases same.cases with equal | ⟨entries, others, found, foundOther, permuted⟩
  · rw [below_congr equal]
  · rw [entries_eq_of_stored stored found, entries_eq_of_stored storedOther foundOther] at permuted
    have fields : (own.below key).fields.Perm (other.below key).fields := by
      refine (List.map_perm_map_iff fun left right equal => ?_).mp permuted
      obtain ⟨sameKey, sameValue⟩ := Prod.mk.inj equal
      exact Prod.ext (Value.text.inj sameKey) sameValue
    exact Fields.get?_of_perm (own.below key).distinct fields option

/-- Two nodes that differ in the order of their options only: the subtasks have the same order and
are themselves in another order at most, `default` has the same entries, and every other option has
the same value. -/
inductive Rearranged : Config → Config → Prop
  | intro {own other : Config} (subtasks : own.subtaskKeys = other.subtaskKeys)
      (options : ∀ key, isSubtaskKey key = false → key ≠ "default" → own.get? key = other.get? key)
      (defaults : SameEntries (own.get? "default") (other.get? "default"))
      (readable : ∀ key ∈ own.subtaskKeys,
        (ReadsAsMapping (own.get? key) ↔ ReadsAsMapping (other.get? key)))
      (below : ∀ key ∈ own.subtaskKeys, Rearranged (own.below key) (other.below key)) :
        Rearranged own other

theorem Rearranged.refl (config : Config) : config.Rearranged config :=
  .intro rfl (fun _ _ _ => rfl) (.refl _) (fun _ _ => Iff.rfl) fun key declared =>
    have _ := height_below_lt ((config.mem_subtaskKeys key).mp declared).1
    Rearranged.refl (config.below key)
termination_by config.height

theorem Rearranged.trans {own middle other : Config} (first : own.Rearranged middle)
    (second : middle.Rearranged other) :
    own.Rearranged other := by
  induction first generalizing other with
  | intro subtasks options defaults readable _ ih =>
      cases second with
      | intro subtasksOther optionsOther defaultsOther readableOther belowOther =>
          rw [← subtasks] at readableOther belowOther
          refine .intro (subtasks.trans subtasksOther) (fun key isOption notDefault => ?_)
            (defaults.trans defaultsOther) (fun key declared => ?_) fun key declared => ?_
          · exact (options key isOption notDefault).trans (optionsOther key isOption notDefault)
          · exact (readable key declared).trans (readableOther key declared)
          · exact ih key declared (belowOther key declared)

theorem Rearranged.symm {own other : Config} (rearranged : own.Rearranged other) :
    other.Rearranged own := by
  induction rearranged with
  | intro subtasks options defaults readable _ ih =>
      refine .intro subtasks.symm
        (fun key isOption notDefault => (options key isOption notDefault).symm) defaults.symm ?_ ?_
      · intro key declared
        rw [← subtasks] at declared
        exact (readable key declared).symm
      · intro key declared
        rw [← subtasks] at declared
        exact ih key declared

theorem rearranged_of_get? {own other : Config} (subtasks : own.subtaskKeys = other.subtaskKeys)
    (same : ∀ key, own.get? key = other.get? key) : own.Rearranged other := by
  refine .intro subtasks (fun key _ _ => same key) (same "default" ▸ .refl _)
    (fun key _ => same key ▸ Iff.rfl) ?_
  intro key _
  rw [below_congr (same key)]
  exact .refl _

end Config

/-! ### Definitions in another order -/

/-- Two definitions of which one is what reordering mappings leaves of the other, at one place after
another: a node, as long as its subtasks stay in order, or the `default` mapping of a node. A
mapping that is reordered has no two keys of one text. -/
inductive Value.Reordered : List (Value × Value) → List (Value × Value) → Prop
  | refl (entries : List (Value × Value)) : Reordered entries entries
  | trans {entries middle others : List (Value × Value)} : Reordered entries middle →
      Reordered middle others →
      Reordered entries others
  | options {entries others : List (Value × Value)}
      (distinct : (entries.map fun entry => entry.1.plainText).Nodup)
      (permuted : entries.Perm others)
      (subtasks : (entries.map fun entry => entry.1.plainText).filter isSubtaskKey =
        (others.map fun entry => entry.1.plainText).filter isSubtaskKey) : Reordered entries others
  | defaults {before later entries others : List (Value × Value)}
      (distinct : (entries.map fun entry => entry.1.plainText).Nodup)
        (permuted : entries.Perm others) :
      Reordered (before ++ (.text "default", .mapping entries) :: later)
        (before ++ (.text "default", .mapping others) :: later)
  | subtask {before later entries others : List (Value × Value)} {key : String}
      (isSubtask : isSubtaskKey key = true) :
      Reordered entries others → Reordered (before ++ (.text key, .mapping entries) :: later)
        (before ++ (.text key, .mapping others) :: later)

namespace Config

def ofEntries (entries : List (Value × Value)) : Config := ofWrites (Value.normaliseEntries entries)

theorem keys_ofEntries (entries : List (Value × Value)) :
    (ofEntries entries).keys = (entries.map fun entry => entry.1.plainText).eraseDups := by
  rw [keys, ofEntries, ofWrites, Fields.keys_ofWrites, Fields.keys, Value.normaliseEntries_eq_map,
    List.map_map]
  rfl

theorem subtaskKeys_replaced (before later : List (Value × Value)) (key value other : Value) :
    (ofEntries (before ++ (key, value) :: later)).subtaskKeys =
      (ofEntries (before ++ (key, other) :: later)).subtaskKeys := by
  rw [subtaskKeys, subtaskKeys, keys_ofEntries, keys_ofEntries]
  simp only [List.map_append, List.map_cons]

/-- With another value under one key a definition has the same options, but perhaps for that one. -/
theorem get?_replaced (before later : List (Value × Value)) (name : String) (value other : Value)
    (key : String) :
    (ofEntries (before ++ (.text name, value) :: later)).get? key =
        (ofEntries (before ++ (.text name, other) :: later)).get? key ∨
      name = key ∧ (ofEntries (before ++ (.text name, value) :: later)).get? key =
        some value.normalise ∧
        (ofEntries (before ++ (.text name, other) :: later)).get? key = some other.normalise := by
  have found (own : Value) : (ofEntries (before ++ (.text name, own) :: later)).get? key =
      (Fields.get? key (Value.normaliseEntries later).reverse).or
        (if name = key then some own.normalise
          else Fields.get? key (Value.normaliseEntries before).reverse) := by
    rw [get?, ofEntries, ofWrites, Fields.get?_ofWrites]
    simp only [Value.normaliseEntries_eq_map, List.map_append, List.map_cons, List.reverse_append,
      List.reverse_cons, List.append_assoc, Fields.get?_append, List.singleton_append,
      Fields.get?_cons]
    rfl
  rw [found value, found other]
  by_cases here : name = key
  · cases Fields.get? key (Value.normaliseEntries later).reverse with
    | none => exact Or.inr ⟨here, if_pos here, if_pos here⟩
    | some written => exact Or.inl rfl
  · rw [if_neg here, if_neg here]
    exact Or.inl rfl

theorem below_of_normalise {config : Config} {key : String} {entries : List (Value × Value)}
    (found : config.get? key = some (Value.mapping entries).normalise) :
    config.below key = ofEntries entries := by
  have stored : Value.normaliseFields (ofEntries entries).fields = (ofEntries entries).fields :=
    Value.normaliseFields_eq_self (stored_ofWrites (Value.normalise_of_mem_entries entries))
  rw [Value.normalise, Value.ofFields] at found
  rw [below, found]
  refine eq_of_fields ?_ rfl
  change Fields.ofWrites (Value.normaliseEntries (Value.entriesOf (ofEntries entries).fields)) = _
  rw [Value.normaliseEntries_entriesOf, stored,
    Fields.ofWrites_eq_self (ofEntries entries).distinct]

theorem fields_perm {entries others : List (Value × Value)}
    (distinct : (entries.map fun entry => entry.1.plainText).Nodup)
    (permuted : entries.Perm others) :
    (ofEntries entries).fields.Perm (ofEntries others).fields := by
  have writes {some : List (Value × Value)}
      (once : (some.map fun entry => entry.1.plainText).Nodup) :
      (ofEntries some).fields = Value.normaliseEntries some := by
    refine Fields.ofWrites_eq_self ?_
    rw [Fields.Distinct, Fields.keys, Value.normaliseEntries_eq_map, List.map_map]
    exact once
  rw [writes distinct, writes ((permuted.map _).nodup_iff.mp distinct),
    Value.normaliseEntries_eq_map, Value.normaliseEntries_eq_map]
  exact permuted.map _

/-- What reordering leaves of a definition has the same options in another order. -/
theorem rearranged_of_reordered {entries others : List (Value × Value)}
    (reordered : Value.Reordered entries others) :
    (ofEntries entries).Rearranged (ofEntries others) := by
  -- A step inside of a mapping changes one value of it, so all else that is read there is the same.
  induction reordered with
  | refl entries => exact .refl _
  | trans _ _ first second => exact first.trans second
  | @options entries others distinct permuted subtasks =>
      refine rearranged_of_get? ?_
        (Fields.get?_of_perm (ofEntries entries).distinct (fields_perm distinct permuted))
      rw [subtaskKeys, subtaskKeys, keys_ofEntries, keys_ofEntries,
        Fields.eraseDups_eq_self distinct,
        Fields.eraseDups_eq_self ((permuted.map _).nodup_iff.mp distinct), subtasks]
  | @defaults before later entries others distinct permuted =>
      have replaced := get?_replaced before later "default" (.mapping entries) (.mapping others)
      have elsewhere {key : String} (notDefault : key ≠ "default") :=
        (replaced key).resolve_right fun here =>
        notDefault here.1.symm
      have notDefault {config : Config} {key : String} (declared : key ∈ config.subtaskKeys) :
          key ≠ "default" := fun same => by
        have isSubtask := ((mem_subtaskKeys _ _).mp declared).2
        rw [same] at isSubtask
        cases isSubtask
      refine .intro (subtaskKeys_replaced ..) (fun key _ => elsewhere) ?_
        (fun key declared => ?_) fun key declared => ?_
      · rcases replaced "default" with same | ⟨_, found, foundOther⟩
        · rw [same]
          exact .refl _
        · rw [found, foundOther]
          exact (fields_perm distinct permuted).map _
      · rw [elsewhere (notDefault declared)]
      · rw [below_congr (elsewhere (notDefault declared))]
        exact .refl _
  | @subtask before later entries others name isSubtask _ ih =>
      have replaced := get?_replaced before later name (.mapping entries) (.mapping others)
      have elsewhere {key : String} (isOption : isSubtaskKey key = false) :=
        (replaced key).resolve_right fun here => by
        rw [here.1, isOption] at isSubtask
        cases isSubtask
      refine .intro (subtaskKeys_replaced ..) (fun key isOption _ => elsewhere isOption) ?_
        (fun key _ => ?_) fun key _ => ?_
      · rw [elsewhere (by decide)]
        exact .refl _
      · rcases replaced key with same | ⟨_, found, foundOther⟩
        · rw [same]
        · rw [found, foundOther]
          exact Iff.rfl
      · rcases replaced key with same | ⟨_, found, foundOther⟩
        · rw [below_congr same]
          exact .refl _
        · rw [below_of_normalise found, below_of_normalise foundOther]
          exact ih

end Config

namespace Compiler

/-! ### Sites -/

namespace Site

theorem default?_child (site : Site) (key option : String) :
    (site.child key).default? option = (((site.own.below key).below "default").get? option).or
      (site.default? option) := by
  have line : (site.child key).lineage = site.lineage ++ [site.own.below key] := by
    rw [lineage, lineage, child, List.map_append]
    rfl
  rw [default?, default?, line, List.reverse_append, List.reverse_singleton, List.singleton_append,
    List.findSome?_cons]
  cases ((site.own.below key).below "default").get? option <;> rfl

theorem default?_root (name : String) (own : Config) (option : String) :
    (root name own).default? option = (own.below "default").get? option := by
  rw [default?, lineage, root, List.map_nil, List.nil_append, List.reverse_singleton,
    List.findSome?_cons]
  cases (own.below "default").get? option <;> rfl

/-- Two sites of one name that differ in the order of their options
only, under defaults that give the same values. -/
structure Rearranged (site other : Site) : Prop where
  name : site.name = other.name
  stored : site.own.Stored
  storedOther : other.own.Stored
  own : site.own.Rearranged other.own
  defaults : ∀ key, site.default? key = other.default? key

theorem rearranged_root {own other : Config} (name : String) (stored : own.Stored)
    (storedOther : other.Stored) (rearranged : own.Rearranged other) :
    (root name own).Rearranged (root name other) where
  name := rfl
  stored := stored
  storedOther := storedOther
  own := rearranged
  defaults := fun key => by
    cases rearranged with
    | intro _ _ defaults _ _ =>
        rw [default?_root, default?_root,
          Config.get?_below_of_sameEntries stored storedOther defaults]

namespace Rearranged

variable {site other : Site} (both : site.Rearranged other)

include both

theorem subtasks : site.own.subtaskKeys = other.own.subtaskKeys := by
  obtain ⟨_, _, _, ⟨subtasks, _, _, _, _⟩, _⟩ := both
  exact subtasks

theorem child {key : String} (declared : key ∈ site.own.subtaskKeys) :
    (site.child key).Rearranged (other.child key) := by
  obtain ⟨_, _, _, ⟨_, _, _, _, below⟩, defaults⟩ := both
  have here := below key declared
  refine ⟨rfl, site.own.stored_below key, other.own.stored_below key, here, fun option => ?_⟩
  cases here with
  | intro _ _ same _ _ =>
      rw [default?_child, default?_child, defaults option,
        Config.get?_below_of_sameEntries (site.own.stored_below key)
          (other.own.stored_below key) same]

theorem option?_eq {key : String} (isOption : isSubtaskKey key = false)
    (notDefault : key ≠ "default") :
    site.option? key = other.option? key := by
  obtain ⟨_, _, _, ⟨_, options, _, _, _⟩, defaults⟩ := both
  rw [option?, option?, options key isOption notDefault, defaults key]

theorem sameEntries_default : SameEntries (site.option? "default") (other.option? "default") := by
  obtain ⟨_, _, _, ⟨_, _, same, _, _⟩, defaults⟩ := both
  rw [option?, option?, defaults "default"]
  rcases same.cases with equal | ⟨entries, others, found, foundOther, permuted⟩
  · rw [equal]
    exact SameEntries.refl _
  · rw [found, foundOther]
    exact permuted

theorem isTask_iff : site.IsTask ↔ other.IsTask := by
  have present : ∀ key, isSubtaskKey key = false →
      (site.option? key = none ↔ other.option? key = none) := by
    intro key isOption
    by_cases isDefault : key = "default"
    · rw [isDefault]
      exact both.sameEntries_default.none_iff
    · rw [both.option?_eq isOption isDefault]
  refine exists_congr fun key => ?_
  constructor
  · rintro ⟨there, isOption, runs⟩
    exact ⟨fun absent => there ((present key isOption).mpr absent), isOption, runs⟩
  · rintro ⟨there, isOption, runs⟩
    exact ⟨fun absent => there ((present key isOption).mp absent), isOption, runs⟩

theorem get?_options {key : String} (isOption : isSubtaskKey key = false)
    (notDefault : key ≠ "default") :
    site.options.get? key = other.options.get? key := by
  rw [Site.get?_options both.stored, Site.get?_options both.storedOther,
    both.option?_eq isOption notDefault]

theorem accepted (accepted : site.Accepted) : other.Accepted := by
  have same {key : String} (isOption : isSubtaskKey key = false) (notDefault : key ≠ "default") :
      other.option? key = site.option? key := (both.option?_eq isOption notDefault).symm
  have parallel : other.option? "parallel" = site.option? "parallel" := same (by decide) (by decide)
  have after : other.option? "after" = site.option? "after" := same (by decide) (by decide)
  have task := both.isTask_iff
  have keys := both.subtasks
  have children {key : String} (declared : key ∈ site.own.subtaskKeys) :
      (site.child key).option? "after" = (other.child key).option? "after" :=
    (both.child declared).option?_eq (by decide) (by decide)
  obtain ⟨_, _, _, ⟨_, _, defaultSame, readable, _⟩, defaults⟩ := both
  exact
    { default_mapping := defaultSame.readsAsMapping_iff.mp accepted.default_mapping
      bare := fun key isSubtask => (defaults key).symm.trans (accepted.bare key isSubtask)
      subtask_mapping := fun key declared => by
        rw [← keys] at declared
        exact (readable key declared).mp (accepted.subtask_mapping key declared)
      task_alone := fun isTask => keys ▸ accepted.task_alone (task.mpr isTask)
      parallel_truth := fun isGroup => parallel ▸ accepted.parallel_truth fun isTask =>
        isGroup (task.mp isTask)
      after_earlier := fun isGroup reads before key later shape => by
        rw [parallel] at reads
        rw [← keys] at shape
        have declared : key ∈ site.own.subtaskKeys :=
          shape ▸ List.mem_append_right _ List.mem_cons_self
        rw [← children declared]
        exact accepted.after_earlier (fun isTask => isGroup (task.mp isTask)) reads
          before key later shape
      after_parallel := fun isGroup reads => by
        rw [parallel] at reads
        rw [after]
        exact accepted.after_parallel (fun isTask => isGroup (task.mp isTask)) reads }

end Rearranged

end Site

theorem agreement_rearranged : Agreement Site.Rearranged where
  name := Site.Rearranged.name
  subtasks := Site.Rearranged.subtasks
  child := fun both _ declared => both.child declared
  parallel := fun both => both.get?_options (by decide) (by decide)
  after := fun both => both.get?_options (by decide) (by decide)

end Compiler

/-! ### Workflows -/

/-- Whether two tasks differ at most in the order of their options, and of what they keep as their
`default`. -/
structure Task.SameUpToOrder (task other : Task) : Prop where
  name : task.name = other.name
  index : task.index = other.index
  parent : task.parent = other.parent
  upstreams : task.upstreams = other.upstreams
  kind : task.kind = other.kind
  options : ∀ key, key ≠ "default" → task.config.get? key = other.config.get? key
  default : SameEntries (task.config.get? "default") (other.config.get? "default")

namespace Compiler

variable {root rootOther : Config}

theorem accepted_of_rearranged (name : String) (stored : root.Stored)
    (storedOther : rootOther.Stored) (rearranged : root.Rearranged rootOther)
    (accepted : ∀ site ∈ (Site.root name root).preorder, site.Accepted) :
    ∀ site ∈ (Site.root name rootOther).preorder, site.Accepted := by
  intro other member
  have rows := agreement_rearranged.preorder
    (Site.rearranged_root name stored storedOther rearranged)
  obtain ⟨site, among, both⟩ := exists_left_of_forall₂ rows member
  exact both.accepted (accepted site among)

theorem exists_of_rearranged {definition other : Value}
    (isRoot : Config.ofDefinition definition = .ok root)
    (isOther : Config.ofDefinition other = .ok rootOther) (rearranged : root.Rearranged rootOther)
    {name : String}
    (compiles : ∃ workflow, (compileValue (.text name) definition).result = .ok workflow) :
    ∃ workflow, (compileValue (.text name) other).result = .ok workflow := by
  rw [exists_workflow_iff] at compiles ⊢
  obtain ⟨named, found, isFound, readable, accepted⟩ := compiles
  have same : found = root := Except.ok.inj (isFound.symm.trans isRoot)
  rw [same] at readable accepted
  refine ⟨named, rootOther, isOther, ?_, ?_⟩
  · cases rearranged with
    | intro _ options _ _ _ =>
        rw [← options "meta" (by decide) (by decide)]
        exact readable
  · exact accepted_of_rearranged name (Config.stored_ofDefinition isRoot)
      (Config.stored_ofDefinition isOther) rearranged
      accepted

theorem sameUpToOrder_of_counterpart {spot other : Spot} {task facing : Task}
    (both : Counterpart Site.Rearranged id spot other) (lowers : Lowers spot.node task)
    (lowersOther : Lowers other.node facing) : task.SameUpToOrder facing := by
  have alike := both.alike
  have options (key : String) : task.config.get? key = spot.options.get? key ∧
      facing.config.get? key = other.options.get? key := by
    have fields := Config.fields_freeze (Site.stored_options alike.stored)
    have fieldsOther := Config.fields_freeze (Site.stored_options alike.storedOther)
    rw [Config.get?, Config.get?, Config.get?, Config.get?, ← fields, ← fieldsOther,
      lowers.config, lowersOther.config]
    exact ⟨rfl, rfl⟩
  have isTask : spot.options.isTask = other.options.isTask := by
    rw [Bool.eq_iff_iff, Site.isTask_options_iff alike.stored,
      Site.isTask_options_iff alike.storedOther]
    exact alike.isTask_iff
  refine ⟨?_, ?_, ?_, ?_, ?_, ?_, ?_⟩
  · exact lowers.name.trans (alike.name.trans lowersOther.name.symm)
  · exact lowers.index.trans (both.index.symm.trans lowersOther.index.symm)
  · have group := congrArg (Option.map Int.ofNat) both.group
    rw [Option.map_map, Option.map_map] at group
    exact lowers.parent.trans (group.symm.trans lowersOther.parent.symm)
  · have upstreams := both.upstreams
    rw [List.map_id] at upstreams
    exact lowers.upstreams.trans (upstreams.symm.trans lowersOther.upstreams.symm)
  · rw [lowers.kind, lowersOther.kind, Spot.node, Spot.node, isTask]
  · intro key notDefault
    rw [(options key).1, (options key).2]
    cases isSubtask : isSubtaskKey key with
    | false => exact alike.get?_options isSubtask notDefault
    | true =>
        rw [Site.get?_options alike.stored, Site.get?_options alike.storedOther,
          isSubtask, if_pos rfl, if_pos rfl]
  · have plain : isSubtaskKey "default" = false := by decide
    rw [(options "default").1, (options "default").2, Site.get?_options alike.stored,
      Site.get?_options alike.storedOther, plain]
    exact alike.sameEntries_default

/-- A definition in another order compiles under the same names, and into
the same tasks up to the order of their options. -/
theorem sameTasks_of_rearranged {definition other : Value}
    (isRoot : Config.ofDefinition definition = .ok root)
    (isOther : Config.ofDefinition other = .ok rootOther) (rearranged : root.Rearranged rootOther)
    (name : String) :
    ((∃ workflow, (compileValue (.text name) definition).result = .ok workflow) ↔
      ∃ workflow, (compileValue (.text name) other).result = .ok workflow) ∧
    ∀ workflow facing, (compileValue (.text name) definition).result = .ok workflow →
      (compileValue (.text name) other).result = .ok facing →
        List.Forall₂ Task.SameUpToOrder workflow.tasks.tasks facing.tasks.tasks := by
  refine ⟨⟨exists_of_rearranged isRoot isOther rearranged,
    exists_of_rearranged isOther isRoot rearranged.symm⟩, ?_⟩
  intro workflow facing result resultOther
  have compiled := compiled_of_compileValue isRoot result
  have compiledOther := compiled_of_compileValue isOther resultOther
  have top : Counterpart Site.Rearranged id (Spot.root name root) (Spot.root name rootOther) :=
    ⟨⟨Site.rearranged_root name compiled.stored compiledOther.stored rearranged, rfl, rfl⟩, rfl⟩
  -- The nodes are the same in the same order, so no index moves and the renumbering is the
  -- identity.
  have still : ∀ i, (Spot.root name root).index ≤ i →
      i ≤ (Spot.root name root).index + (Spot.root name root).layout.length → id i + 0 = i + 0 :=
        fun _ _ _ => rfl
  have rows := agreement_rearranged.layout top compiled.stored compiledOther.stored
    compiled.accepted
    compiledOther.accepted still
  exact forall₂_transport rows compiled.lowers compiledOther.lowers fun _ _ _ _ =>
    sameUpToOrder_of_counterpart

def nightly : Value :=
  .mapping
    [(.text "default", .mapping [(.text "retries", .int 2), (.text "limit", .int 9)]),
      (.text "parallel", .bool true),
      (.text "+build", .mapping [(.text "sh>", .text "make"), (.text "limit", .null)])]

def nightlyRearranged : Value :=
  .mapping
    [(.text "+build", .mapping [(.text "limit", .null), (.text "sh>", .text "make")]),
      (.text "parallel", .bool true),
      (.text "default", .mapping [(.text "limit", .int 9), (.text "retries", .int 2)])]

/-- The node is reversed first, then its `default` mapping and the
subtask are reordered where they stand. -/
theorem reordered_nightly :
    Value.Reordered
      [(.text "default", .mapping [(.text "retries", .int 2), (.text "limit", .int 9)]),
        (.text "parallel", .bool true),
        (.text "+build", .mapping [(.text "sh>", .text "make"), (.text "limit", .null)])]
      [(.text "+build", .mapping [(.text "limit", .null), (.text "sh>", .text "make")]),
        (.text "parallel", .bool true),
        (.text "default", .mapping [(.text "limit", .int 9), (.text "retries", .int 2)])] := by
  have node : Value.Reordered
      [(.text "default", .mapping [(.text "retries", .int 2), (.text "limit", .int 9)]),
        (.text "parallel", .bool true),
        (.text "+build", .mapping [(.text "sh>", .text "make"), (.text "limit", .null)])]
      [(.text "+build", .mapping [(.text "sh>", .text "make"), (.text "limit", .null)]),
        (.text "parallel", .bool true),
        (.text "default", .mapping [(.text "retries", .int 2), (.text "limit", .int 9)])] :=
    .options (by decide) (List.reverse_perm _).symm rfl
  have defaults : Value.Reordered
      [(.text "+build", .mapping [(.text "sh>", .text "make"), (.text "limit", .null)]),
        (.text "parallel", .bool true),
        (.text "default", .mapping [(.text "retries", .int 2), (.text "limit", .int 9)])]
      [(.text "+build", .mapping [(.text "sh>", .text "make"), (.text "limit", .null)]),
        (.text "parallel", .bool true),
        (.text "default", .mapping [(.text "limit", .int 9), (.text "retries", .int 2)])] :=
    @Value.Reordered.defaults [_, _] [] _ _ (by decide) (.swap _ _ [])
  exact (node.trans defaults).trans
    (@Value.Reordered.subtask [] _ _ _ "+build" (by decide)
      (.options (by decide) (.swap _ _ []) rfl))

theorem sameTasks_of_rearranged_nightly :
    (∃ root rootOther, Config.ofDefinition nightly = .ok root ∧
      Config.ofDefinition nightlyRearranged = .ok rootOther ∧
      root.Rearranged rootOther) ∧
    ∃ workflow facing, (compileValue (.text "nightly") nightly).result = .ok workflow ∧
      (compileValue (.text "nightly") nightlyRearranged).result = .ok facing ∧
        List.Forall₂ Task.SameUpToOrder workflow.tasks.tasks facing.tasks.tasks := by
  obtain ⟨root, isRoot⟩ : ∃ root, Config.ofDefinition nightly = .ok root := ⟨_, rfl⟩
  obtain ⟨rootOther, isOther⟩ : ∃ root, Config.ofDefinition nightlyRearranged = .ok root := ⟨_, rfl⟩
  have rearranged : root.Rearranged rootOther := by
    cases isRoot
    cases isOther
    exact Config.rearranged_of_reordered reordered_nightly
  have both := sameTasks_of_rearranged isRoot isOther rearranged "nightly"
  obtain ⟨workflow, result⟩ :
      ∃ workflow, (compileValue (.text "nightly") nightly).result = .ok workflow := ⟨_, rfl⟩
  obtain ⟨facing, resultOther⟩ := both.1.mp ⟨workflow, result⟩
  exact ⟨⟨root, rootOther, isRoot, isOther, rearranged⟩, workflow, facing, result, resultOther,
    both.2 workflow facing result resultOther⟩

end Compiler
end TaskGraph
