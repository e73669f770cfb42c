import TaskGraph.Workflow.Serial
import TaskGraph.Proofs.Acceptance
import TaskGraph.Proofs.ArtifactShape
import TaskGraph.Proofs.Results
set_option autoImplicit false

/-! Workflows as mappings meet the schema of compiled workflows. The mapping of a task has the keys
that the schema asks for and no others, and its values are of the right kinds by what is known of
every task; only that no task has a negative parent has to be known of the workflow, and compilation
gives it. -/

namespace TaskGraph

section
variable {α : Type} {serial : α → Except SerialError Value}

theorem serialAll_eq_mapM (items : List α) : serialAll serial items = items.mapM serial := by
  refine eq_mapM (g := serialAll serial) rfl (fun item rest => ?_) items
  rw [serialAll]
  cases serial item <;> rfl

theorem serialAll_eq_ok_iff {items : List α} {values : List Value} :
    serialAll serial items = .ok values ↔
      List.Forall₂ (fun item value => serial item = .ok value) items values := by
  rw [serialAll_eq_mapM, mapM_eq_ok_iff_forall₂]

end

namespace Value

theorem hasExactly_entriesOf {names : List String} {fields : List (String × Value)}
    (same : ∀ name, name ∈ fields.map Prod.fst ↔ name ∈ names) :
    HasExactly names (entriesOf fields) := by
  have keys : (entriesOf fields).map Prod.fst = (fields.map Prod.fst).map text := by
    rw [entriesOf, List.map_map, List.map_map]
    rfl
  intro key
  rw [keys, List.mem_map]
  constructor
  · rintro ⟨name, member, isText⟩
    exact ⟨name, (same name).mp member, isText.symm⟩
  · rintro ⟨name, member, isText⟩
    exact ⟨name, (same name).mpr member, isText.symm⟩

end Value

namespace Schema

open Value

/-! ### Tasks -/

theorem exists_entries_of_plain {config : Config} {data : Value} (plain : config.plain = .ok data) :
    ∃ entries, data = .mapping entries := by
  rw [Config.plain, Config.toMapping, Value.ofFields, Value.plain] at plain
  cases writes : Value.plainEntries (Value.entriesOf config.fields) mostLevels with
  | error cause =>
      rw [writes] at plain
      cases plain
  | ok found =>
      rw [writes] at plain
      cases plain
      exact ⟨_, rfl⟩

theorem isTask_toDict {task : Task} {data : Value} (counted : ∀ p, task.parent = some p → 0 ≤ p)
    (dict : task.toDict = .ok data) : IsTask data := by
  unfold Task.toDict at dict
  cases plain : task.config.plain with
  | error cause =>
      rw [plain] at dict
      cases dict
  | ok config =>
      obtain ⟨settings, isMapping⟩ := exists_entries_of_plain plain
      rw [plain, isMapping] at dict
      cases dict
      refine ⟨_, rfl, ?_⟩
      exact {
        keys := hasExactly_entriesOf fun name => by simp [Task.fieldsWith, or_comm, or_left_comm]
        name := ⟨_, rfl, task.name, rfl, task.name_ne⟩
        index := ⟨_, rfl, task.index, Or.inl rfl⟩
        parent := by
          refine ⟨_, rfl, ?_⟩
          cases group : task.parent with
          | none => exact Or.inl rfl
          | some number =>
              refine Or.inr ⟨number.toNat, Or.inl ?_⟩
              rw [Int.toNat_of_nonneg (counted number group)]
        upstreams := by
          refine ⟨_, rfl, _, task.upstreams, rfl, ?_, task.upstreams_nodup⟩
          exact List.forall₂_map_left_iff.mpr (List.forall₂_same.mpr fun upstream _ => Or.inl rfl)
        kind := by
          refine ⟨_, rfl, ?_⟩
          cases task.kind with
          | task => exact Or.inl rfl
          | group => exact Or.inr rfl
        group := ⟨_, rfl, task.isGroup, rfl⟩
        config := ⟨_, rfl, settings, rfl⟩ }

/-! ### Workflows -/

theorem isArtifact_toDict {workflow : Workflow} {data : Value}
    (counted : ∀ task ∈ workflow.tasks.tasks, ∀ p, task.parent = some p → 0 ≤ p)
    (dict : workflow.toDict = .ok data) : IsArtifact data := by
  unfold Workflow.toDict at dict
  cases built : serialAll Task.toDict workflow.tasks.tasks with
  | error cause =>
      rw [built] at dict
      cases dict
  | ok tasks =>
      rw [built] at dict
      cases dict
      refine ⟨_, rfl, ?_⟩
      exact {
        keys := hasExactly_entriesOf fun name => by simp
        name := ⟨_, rfl, workflow.name, rfl⟩
        metadata := ⟨_, rfl, _, rfl⟩
        tasks := by
          refine ⟨_, rfl, tasks, rfl, fun value member => ?_⟩
          obtain ⟨task, inside, single⟩ :=
            exists_left_of_forall₂ (serialAll_eq_ok_iff.mp built) member
          exact isTask_toDict (counted task inside) single }

/-- A workflow none of whose tasks has a negative parent meets the built-in schema. -/
theorem validateCompiled_toDict {workflow : Workflow} {data : Value}
    (counted : ∀ task ∈ workflow.tasks.tasks, ∀ p, task.parent = some p → 0 ≤ p)
    (dict : workflow.toDict = .ok data) : validateCompiled data none = .ok () :=
  (validateCompiled_eq_ok_iff data).mpr (isArtifact_toDict counted dict)

end Schema

namespace Compiler

/-! ### Compiled workflows -/

theorem exists_lower_of_compileTasksAs {label : String} {title : Except Problem String}
    {root : Config} {list : TaskList}
    (compiled : (compileTasksAs label title root).result = .ok list) :
    ∃ nodes, lower nodes = .ok list := by
  unfold compileTasksAs at compiled
  cases failure : (walkRoot label root).failure with
  | some cause =>
      simp only [failure] at compiled
      cases compiled
  | none =>
      cases renamed : rename title (walkRoot label root).nodes with
      | error rejection =>
          simp only [failure, renamed] at compiled
          cases compiled
      | ok nodes =>
          refine ⟨nodes, ?_⟩
          simp only [failure, renamed, Except.bind] at compiled
          cases built : lower nodes with
          | error rejection =>
              simp only [built] at compiled
              cases compiled
          | ok tasks =>
              simp only [built, Except.ok.injEq] at compiled
              rw [compiled]

/-- The parent of a compiled task is the index of a node. -/
theorem counted_of_lower {nodes : List Node} {list : TaskList} (built : lower nodes = .ok list) :
    ∀ task ∈ list.tasks, ∀ p, task.parent = some p → 0 ≤ p := by
  intro task member p isParent
  obtain ⟨node, _, lowers⟩ := exists_left_of_forall₂ (lowers_of_eq_ok built) member
  rw [lowers.parent] at isParent
  obtain ⟨holder, _, same⟩ := Option.map_eq_some_iff.mp isParent
  rw [← same]
  exact Int.natCast_nonneg holder.index

theorem counted_of_compileAs {label : String} {title : Except Problem String} {root : Config}
    {workflow : Workflow} (compiled : (compileAs label title root).result = .ok workflow) :
    ∀ task ∈ workflow.tasks.tasks, ∀ p, task.parent = some p → 0 ≤ p := by
  unfold compileAs at compiled
  cases built : (compileTasksAs label title root).result with
  | error cause =>
      simp only [built] at compiled
      cases compiled
  | ok list =>
      obtain ⟨nodes, lowered⟩ := exists_lower_of_compileTasksAs built
      have same : workflow.tasks = list := by
        simp only [built] at compiled
        split at compiled
        · cases compiled
        · cases compiled
          rfl
        · cases compiled
      rw [same]
      exact counted_of_lower lowered

/-- Every compiled workflow that can be given as a mapping
meets the schema of compiled workflows. -/
theorem validateCompiled_of_compileValue {name definition : Value} {workflow : Workflow}
    {data : Value} (compiled : (compileValue name definition).result = .ok workflow)
    (dict : workflow.toDict = .ok data) :
    Schema.validateCompiled data none = .ok () := by
  refine Schema.validateCompiled_toDict ?_ dict
  unfold compileValue at compiled
  cases isRoot : Config.ofDefinition definition with
  | error cause =>
      simp only [isRoot] at compiled
      cases compiled
  | ok root =>
      simp only [isRoot] at compiled
      exact counted_of_compileAs compiled

theorem validateCompiled_release :
    ∃ workflow data, (compileValue (.text "release") release).result = .ok workflow ∧
      workflow.toDict = .ok data ∧
      Schema.validateCompiled data none = .ok () := by
  obtain ⟨workflow, data, compiled, dict⟩ : ∃ workflow data,
      (compileValue (.text "release") release).result = .ok workflow ∧ workflow.toDict = .ok data :=
        ⟨_, _, rfl, rfl⟩
  exact ⟨workflow, data, compiled, dict, validateCompiled_of_compileValue compiled dict⟩

end Compiler
end TaskGraph
