import TaskGraph.Proofs.TaskTree
set_option autoImplicit false

/-! The dependencies of a compiled workflow. The tasks of a group wait for each other by the rule
that the group declares, and for nothing else, so every dependency leads from a task to an earlier
one of its own group. -/

namespace TaskGraph

def TaskList.WaitsFor (list : TaskList) (task upstream : Task) : Prop :=
  task ∈ list.tasks ∧ upstream ∈ list.tasks ∧ upstream.index ∈ task.upstreams

theorem TaskList.index_lt_of_waitsFor {list : TaskList} {task upstream : Task}
    (waits : Relation.TransGen list.WaitsFor task upstream) : upstream.index < task.index := by
  induction waits with
  | single edge => exact Task.upstreams_lt _ _ edge.2.2
  | tail _ edge ih => exact Nat.lt_trans (Task.upstreams_lt _ _ edge.2.2) ih

def Task.entry (task : Task) : String × Nat := (task.name, task.index)

theorem Task.get?_entries (name : String) (tasks : List Task) :
    Fields.get? name (tasks.map Task.entry) = (tasks.find? (·.name = name)).map (·.index) := by
  induction tasks with
  | nil => rfl
  | cons task rest ih =>
      rw [List.map_cons, Task.entry, Fields.get?, List.find?_cons]
      by_cases same : task.name = name
      · simp [same]
      · simpa [same] using ih

namespace Compiler

namespace Compiled

variable {name : String} {root : Config} {workflow : Workflow}
    (compiled : Compiled name root workflow)

include compiled

theorem not_isTask_of_kind {spot : Spot} {task : Task}
    (inLayout : spot ∈ (Spot.root name root).layout) (both : Lowers spot.node task)
    (isGroup : task.kind = .group) : ¬spot.IsTask := by
  intro isTask
  have stored := Spot.stored_of_mem_layout compiled.stored inLayout
  have kind : task.kind = if spot.options.isTask then .task else .group := both.kind
  rw [if_pos ((Site.isTask_options_iff stored).mpr isTask), isGroup] at kind
  cases kind

/-- The tasks of a group wait for each other by the rule that its own option `parallel` selects. -/
theorem waits_children {group : Task} (member : group ∈ workflow.tasks.tasks)
    (isGroup : group.kind = .group) :
    ∃ parallel, ReadsAs parallel (group.config.get? "parallel") ∧
      ∀ before child later, workflow.tasks.childrenOf group.index = before ++ child :: later →
        Waits parallel (before.map Task.entry) (child.config.get? "after") child.upstreams := by
  obtain ⟨spot, inLayout, both⟩ := compiled.exists_spot member
  have stored := Spot.stored_of_mem_layout compiled.stored inLayout
  obtain ⟨parallel, reads, rule⟩ := Spot.waits_held stored
    (compiled.accepted _ (Spot.toSite_mem_preorder inLayout))
      (compiled.not_isTask_of_kind inLayout both isGroup)
  refine ⟨parallel, by
    rw [compiled.config_get? inLayout both]; exact reads, fun before child later shape => ?_⟩
  have rows := compiled.lowers_held inLayout both
  rw [shape] at rows
  obtain ⟨earlier, other, others, held, rowsBefore, bothChild, _⟩ := exists_split_of_forall₂ rows
  have inHeld : other ∈ spot.held := by
    rw [held]
    exact List.mem_append_right _ List.mem_cons_self
  have entries : (earlier.map fun spot => (spot.name, spot.index)) = before.map Task.entry :=
    map_eq_map_of_forall₂ rowsBefore fun _ _ same => Prod.ext same.name.symm same.index.symm
  have upstreams : child.upstreams = other.upstreams := bothChild.upstreams
  rw [← entries, compiled.config_get? (Spot.mem_layout_of_held inLayout inHeld) bothChild,
    upstreams]
  exact rule earlier other others held

theorem exists_group_of_upstream {task : Task} (member : task ∈ workflow.tasks.tasks)
    {upstream : Nat} (waits : upstream ∈ task.upstreams) :
    ∃ group ∈ workflow.tasks.tasks, ∃ other ∈ workflow.tasks.childrenOf group.index,
      task ∈ workflow.tasks.childrenOf group.index ∧ other.index = upstream ∧
        other.index < task.index := by
  rcases compiled.eq_root_or_held member with here | ⟨group, memberGroup, child, isGroup⟩
  · rw [here.2.2.2] at waits
    cases waits
  · obtain ⟨_, _, rule⟩ := compiled.waits_children memberGroup isGroup
    obtain ⟨before, later, shape⟩ := List.append_of_mem child
    have known := (rule before task later shape).mem_before waits
    rw [List.map_map] at known
    obtain ⟨other, among, same⟩ := List.mem_map.mp known
    have sameIndex : other.index = upstream := same
    refine ⟨group, memberGroup, other, ?_, child, sameIndex, ?_⟩
    · rw [shape]
      exact List.mem_append_left _ among
    · rw [sameIndex]
      exact task.upstreams_lt upstream waits

end Compiled

/-- What it means that the dependencies of a workflow are
those that its groups and tasks declare. -/
structure WaitsAsDeclared (workflow : Workflow) : Prop where
  root : ∀ task ∈ workflow.tasks.tasks, task.parent = none → task.upstreams = []
  decided : ∀ group ∈ workflow.tasks.tasks, group.kind = .group →
    ∃ parallel, ReadsAs parallel (group.config.get? "parallel")
  one_by_one : ∀ group ∈ workflow.tasks.tasks, group.kind = .group →
    ReadsAs false (group.config.get? "parallel") →
      ∀ before child later, workflow.tasks.childrenOf group.index = before ++ child :: later →
        child.upstreams = (before.getLast?.map (·.index)).toList
  in_parallel : ∀ group ∈ workflow.tasks.tasks, group.kind = .group →
    ReadsAs true (group.config.get? "parallel") →
      ∀ before child later, workflow.tasks.childrenOf group.index = before ++ child :: later →
        ∃ names, ListsNames names (child.config.get? "after") ∧
          (∀ name ∈ names, ∃ sibling ∈ before, sibling.name = name) ∧
          child.upstreams =
            (names.filterMap fun name => (before.find? (·.name = name)).map (·.index)).eraseDups
  same_group : ∀ task ∈ workflow.tasks.tasks, ∀ upstream ∈ task.upstreams,
    ∃ group ∈ workflow.tasks.tasks, ∃ other ∈ workflow.tasks.childrenOf group.index,
      task ∈ workflow.tasks.childrenOf group.index ∧ other.index = upstream ∧
        other.index < task.index
  acyclic : ∀ task, ¬Relation.TransGen workflow.tasks.WaitsFor task task

/-- The dependencies of a compiled workflow are exactly the declared ones. -/
theorem waitsAsDeclared_of_compileValue {name : String} {definition : Value} {workflow : Workflow}
    (result : (compileValue (.text name) definition).result = .ok workflow) :
    WaitsAsDeclared workflow := by
  obtain ⟨root, isRoot, _⟩ := (compileValue_iff name definition workflow).mp result
  have compiled := compiled_of_compileValue isRoot result
  exact
    { root := fun task member isRoot => by
        rcases compiled.eq_root_or_held member with here | ⟨group, _, child, _⟩
        · exact here.2.2.2
        · rw [(TaskList.mem_childrenOf_iff.mp child).2] at isRoot
          cases isRoot
      decided := fun group member isGroup => by
        obtain ⟨parallel, reads, _⟩ := compiled.waits_children member isGroup
        exact ⟨parallel, reads⟩
      one_by_one := fun group member isGroup readsFalse before child later shape => by
        obtain ⟨parallel, reads, rule⟩ := compiled.waits_children member isGroup
        have waits := rule before child later shape
        rw [reads.unique readsFalse, Waits, List.getLast?_map, Option.map_map] at waits
        exact waits
      in_parallel := fun group member isGroup readsTrue before child later shape => by
        obtain ⟨parallel, reads, rule⟩ := compiled.waits_children member isGroup
        have waits := rule before child later shape
        rw [reads.unique readsTrue] at waits
        obtain ⟨names, listed, known, same⟩ := waits
        simp only [Task.get?_entries] at same
        refine ⟨names, listed, fun name mentioned => ?_, same⟩
        have found := known name mentioned
        rw [Fields.keys, List.map_map] at found
        exact List.mem_map.mp found
      same_group := fun task member upstream => compiled.exists_group_of_upstream member
      acyclic := fun task cycle => Nat.lt_irrefl _ (TaskList.index_lt_of_waitsFor cycle) }

theorem waitsAsDeclared_release :
    ∃ workflow, (compileValue (.text "release") release).result = .ok workflow ∧
      WaitsAsDeclared workflow := by
  obtain ⟨workflow, result⟩ :
      ∃ workflow, (compileValue (.text "release") release).result = .ok workflow := ⟨_, rfl⟩
  exact ⟨workflow, result, waitsAsDeclared_of_compileValue result⟩

end Compiler
end TaskGraph
