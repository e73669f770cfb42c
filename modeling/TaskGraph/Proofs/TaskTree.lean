import Mathlib.Logic.Relation
import TaskGraph.Proofs.Acceptance
set_option autoImplicit false

/-! The tree of tasks. Paths of names lead from the root to the tasks and groups hold what is below
them. The tasks of a compiled workflow are the sites of its definition in preorder, so each path
leads to one task and what is below a task has the indexes right after it. -/

namespace TaskGraph

namespace TaskList

variable {list : TaskList}

/-- Which task a path of names from the root leads to. -/
inductive Reaches (list : TaskList) : List String → Task → Prop
  | root {task : Task} : task ∈ list.tasks → task.parent = none → Reaches list [task.name] task
  | child {path : List String} {group task : Task} : Reaches list path group →
      task ∈ list.childrenOf group.index → Reaches list (path ++ [task.name]) task

def Descends (list : TaskList) : Task → Task → Prop :=
  Relation.TransGen fun lower upper => lower ∈ list.childrenOf upper.index

/-! ### Any list of tasks -/

theorem mem_childrenOf_iff {group : Nat} {task : Task} :
    task ∈ list.childrenOf group ↔ task ∈ list.tasks ∧ task.parent = some (group : Int) := by
  rw [childrenOf, List.mem_filter, decide_eq_true_iff]

theorem getElem?_index {task : Task} (member : task ∈ list.tasks) :
    list.tasks[task.index]? = some task := by
  obtain ⟨position, found⟩ := List.mem_iff_getElem?.mp member
  rw [list.placed position task found]
  exact found

theorem eq_of_index_eq {task other : Task} (member : task ∈ list.tasks)
    (memberOther : other ∈ list.tasks) (same : task.index = other.index) : task = other := by
  have found := getElem?_index member
  rw [same, getElem?_index memberOther] at found
  exact (Option.some.inj found).symm

theorem index_lt_of_mem_childrenOf {group task : Task}
    (member : task ∈ list.childrenOf group.index) :
    group.index < task.index := Int.ofNat_lt.mp (task.parent_lt _ (mem_childrenOf_iff.mp member).2)

theorem Descends.mem {lower upper : Task} (below : list.Descends lower upper) :
    lower ∈ list.tasks := by
  induction below with
  | single member => exact (mem_childrenOf_iff.mp member).1
  | tail _ _ ih => exact ih

theorem Descends.index_lt {lower upper : Task} (below : list.Descends lower upper) :
    upper.index < lower.index := by
  induction below with
  | single member => exact index_lt_of_mem_childrenOf member
  | tail _ member ih => exact Nat.lt_trans (index_lt_of_mem_childrenOf member) ih

theorem Descends.parent {lower upper : Task} (below : list.Descends lower upper) :
    ∃ group : Task, lower.parent = some (group.index : Int) ∧ upper.index ≤ group.index := by
  induction below with
  | single member => exact ⟨_, (mem_childrenOf_iff.mp member).2, Nat.le_refl _⟩
  | tail _ member ih =>
      obtain ⟨group, isParent, after⟩ := ih
      exact ⟨group, isParent, Nat.le_of_lt
        (Nat.lt_of_lt_of_le (index_lt_of_mem_childrenOf member) after)⟩

theorem Reaches.mem {path : List String} {task : Task} (reaches : list.Reaches path task) :
    task ∈ list.tasks := by
  cases reaches with
  | root member _ => exact member
  | child _ member => exact (mem_childrenOf_iff.mp member).1

theorem Reaches.path_ne_nil {path : List String} {task : Task} (reaches : list.Reaches path task) :
    path ≠ [] := by
  cases reaches with
  | root _ _ => exact List.cons_ne_nil _ _
  | child _ _ => exact List.append_ne_nil_of_right_ne_nil _ (List.cons_ne_nil _ _)

/-- A path leads to one task if there is one root and the tasks of a group have different names. -/
theorem Reaches.unique (alone : ∀ task ∈ list.tasks, ∀ other ∈ list.tasks,
      task.parent = none → other.parent = none → task = other)
    (distinct : ∀ group ∈ list.tasks, ((list.childrenOf group.index).map (·.name)).Nodup)
    {path : List String} {task other : Task} (reaches : list.Reaches path task)
    (reachesOther : list.Reaches path other) : task = other := by
  induction reaches generalizing other with
  | @root task member isRoot =>
      generalize shape : [task.name] = path at reachesOther
      cases reachesOther with
      | root memberOther isRootOther => exact alone _ member _ memberOther isRoot isRootOther
      | @child before _ _ above _ =>
          cases before with
          | nil => exact absurd rfl above.path_ne_nil
          | cons first rest => simp at shape
  | @child path group task above member ih =>
      generalize shape : path ++ [task.name] = whole at reachesOther
      cases reachesOther with
      | root memberOther _ =>
          cases path with
          | nil => exact absurd rfl above.path_ne_nil
          | cons first rest => simp at shape
      | child aboveOther memberOther =>
          obtain ⟨samePath, sameName⟩ := List.append_inj' shape rfl
          rw [← samePath] at aboveOther
          rw [← ih aboveOther] at memberOther
          exact List.inj_on_of_nodup_map (distinct group above.mem) member memberOther
            (by simpa using sameName)

end TaskList

namespace Compiler

namespace Compiled

variable {name : String} {root : Config} {workflow : Workflow}
    (compiled : Compiled name root workflow)

/-! ### Spots and tasks -/

include compiled

theorem exists_task {spot : Spot} (member : spot ∈ (Spot.root name root).layout) :
    ∃ task ∈ workflow.tasks.tasks, Lowers spot.node task :=
  exists_right_of_forall₂ compiled.lowers member

theorem exists_spot {task : Task} (member : task ∈ workflow.tasks.tasks) :
    ∃ spot ∈ (Spot.root name root).layout, Lowers spot.node task :=
  exists_left_of_forall₂ compiled.lowers member

theorem lowers_held {spot : Spot} {task : Task} (member : spot ∈ (Spot.root name root).layout)
    (both : Lowers spot.node task) :
    List.Forall₂ (fun spot : Spot => Lowers spot.node) spot.held
      (workflow.tasks.childrenOf task.index) := by
  rw [← Spot.filter_heldAt rfl member, TaskList.childrenOf]
  refine List.rel_filter (fun other otherTask bothOther => ?_) compiled.lowers
  change decide (other.group.map (·.index) = some spot.index) = true ↔
    decide (otherTask.parent = some (task.index : Int)) = true
  have parent : otherTask.parent = other.group.map fun group => Int.ofNat group.index :=
    bothOther.parent
  have index : task.index = spot.index := both.index
  rw [decide_eq_true_iff, decide_eq_true_iff, parent, index]
  cases other.group with
  | none => simp
  | some group =>
      simp only [Option.map_some, Option.some.injEq, Int.ofNat_eq_natCast]
      exact Int.ofNat_inj.symm

theorem mem_held_iff {spot other : Spot} {task otherTask : Task}
    (member : spot ∈ (Spot.root name root).layout)
    (memberOther : other ∈ (Spot.root name root).layout) (both : Lowers spot.node task)
    (bothOther : Lowers other.node otherTask) (memberTask : otherTask ∈ workflow.tasks.tasks) :
    otherTask ∈ workflow.tasks.childrenOf task.index ↔ other ∈ spot.held := by
  constructor
  · intro child
    obtain ⟨found, held, bothFound⟩ :=
      exists_left_of_forall₂ (compiled.lowers_held member both) child
    have same : found.index = other.index := bothFound.index.symm.trans bothOther.index
    have equal := Spot.eq_of_index_eq (Spot.mem_layout_of_held member held) memberOther same
    exact equal ▸ held
  · intro held
    obtain ⟨found, child, bothFound⟩ :=
      exists_right_of_forall₂ (compiled.lowers_held member both) held
    have same : found.index = otherTask.index := bothFound.index.trans bothOther.index.symm
    have equal := TaskList.eq_of_index_eq (TaskList.mem_childrenOf_iff.mp child).1 memberTask same
    exact equal ▸ child

theorem names_childrenOf {spot : Spot} {task : Task} (member : spot ∈ (Spot.root name root).layout)
    (both : Lowers spot.node task) :
    (workflow.tasks.childrenOf task.index).map (·.name) = spot.own.subtaskKeys := by
  have held : (spot.held.map Spot.node).map (·.name) = spot.own.subtaskKeys := Spot.names_place ..
  rw [← held, List.map_map]
  exact (map_eq_map_of_forall₂ (compiled.lowers_held member both) fun _ _ same =>
    same.name.symm).symm

theorem config_fields {spot : Spot} {task : Task} (member : spot ∈ (Spot.root name root).layout)
    (both : Lowers spot.node task) : task.config.fields = spot.options.fields := by
  rw [both.config]
  exact Config.fields_freeze
    (Site.stored_options (Spot.stored_of_mem_layout compiled.stored member))

theorem config_get? {spot : Spot} {task : Task} (member : spot ∈ (Spot.root name root).layout)
    (both : Lowers spot.node task) (key : String) :
    task.config.get? key = spot.options.get? key := by
  rw [Config.get?, Config.get?, compiled.config_fields member both]

theorem forall₂_sites {holds : Site → Task → Prop}
    (each : ∀ spot task, spot ∈ (Spot.root name root).layout → task ∈ workflow.tasks.tasks →
      Lowers spot.node task → holds spot.toSite task) :
    List.Forall₂ holds (Site.root name root).preorder workflow.tasks.tasks := by
  have sites : (Spot.root name root).layout.map Spot.toSite = (Site.root name root).preorder :=
    Spot.toSite_layout _
  rw [← sites, List.forall₂_map_left_iff]
  refine List.forall₂_iff_get.mpr ⟨compiled.lowers.length_eq, fun position inLeft inRight => ?_⟩
  exact each _ _ (List.get_mem _ _) (List.get_mem _ _) (compiled.lowers.get inLeft inRight)

/-! ### Groups -/

/-- Every task but the first is held by an earlier group. -/
theorem eq_root_or_held {task : Task} (member : task ∈ workflow.tasks.tasks) :
    (task.index = 0 ∧ task.name = name ∧ task.parent = none ∧ task.upstreams = []) ∨
      ∃ group ∈ workflow.tasks.tasks, task ∈ workflow.tasks.childrenOf group.index ∧
        group.kind = .group := by
  obtain ⟨spot, inLayout, both⟩ := compiled.exists_spot member
  rcases Spot.eq_or_held inLayout with isRoot | ⟨holder, memberHolder, held⟩
  · rw [isRoot] at both
    exact Or.inl ⟨both.index, both.name, both.parent, both.upstreams⟩
  · obtain ⟨group, memberGroup, bothGroup⟩ := compiled.exists_task memberHolder
    refine Or.inr ⟨group, memberGroup, ?_, ?_⟩
    · exact (compiled.mem_held_iff memberHolder inLayout bothGroup both member).mpr held
    · have accepted := compiled.accepted _ (Spot.toSite_mem_preorder memberHolder)
      have isGroup := Spot.not_isTask_of_mem_held accepted held
      have stored := Spot.stored_of_mem_layout compiled.stored memberHolder
      have notTask : ¬holder.options.isTask = true := fun isTask =>
        isGroup ((Site.isTask_options_iff stored).mp isTask)
      rw [bothGroup.kind, Spot.node, if_neg notTask]

theorem kind_eq_task_iff {task : Task} (member : task ∈ workflow.tasks.tasks) :
    task.kind = .task ↔ ∃ key, task.config.get? key ≠ none ∧ MakesTask key := by
  obtain ⟨spot, inLayout, both⟩ := compiled.exists_spot member
  have kind : task.kind = if spot.options.isTask then .task else .group := both.kind
  simp only [compiled.config_get? inLayout both, ← isTask_iff, kind]
  cases spot.options.isTask <;> simp

theorem root_first :
    ∃ task, workflow.root? = some task ∧ task.name = name ∧ task.parent = none := by
  have lowers := compiled.lowers
  rw [Spot.layout_eq] at lowers
  obtain ⟨task, rest, both, _, shape⟩ := List.forall₂_cons_left_iff.mp lowers
  exact ⟨task, by rw [Workflow.root?, shape, List.head?_cons], both.name, both.parent⟩

/-! ### Paths -/

theorem reaches {spot : Spot} {task : Task} (inLayout : spot ∈ (Spot.root name root).layout)
    (member : task ∈ workflow.tasks.tasks) (both : Lowers spot.node task) :
    workflow.tasks.Reaches spot.path task := by
  rcases Spot.eq_or_held inLayout with isRoot | ⟨holder, memberHolder, held⟩
  · rw [isRoot] at both ⊢
    have here := TaskList.Reaches.root member both.parent
    rw [both.name] at here
    exact here
  · obtain ⟨group, memberGroup, bothGroup⟩ := compiled.exists_task memberHolder
    have earlier := Spot.index_lt_of_mem_held held
    have above := reaches memberHolder memberGroup bothGroup
    have child := (compiled.mem_held_iff memberHolder inLayout bothGroup both member).mpr held
    have here := TaskList.Reaches.child above child
    obtain ⟨key, _, same⟩ := List.mem_map.mp (Spot.toSite_mem_children held)
    have path : spot.path = holder.path ++ [spot.name] := by
      rw [← same, Site.path, Site.child, List.map_append]
      rfl
    rw [both.name] at here
    rw [path]
    exact here
termination_by spot.index

theorem reaches_unique {path : List String} {task other : Task}
    (first : workflow.tasks.Reaches path task) (second : workflow.tasks.Reaches path other) :
    task = other := by
  refine TaskList.Reaches.unique ?_ ?_ first second
  · intro left memberLeft right memberRight isRootLeft isRootRight
    have zero : ∀ task ∈ workflow.tasks.tasks, task.parent = none → task.index = 0 := by
      intro task member isRoot
      rcases compiled.eq_root_or_held member with here | ⟨group, _, held, _⟩
      · exact here.1
      · rw [(TaskList.mem_childrenOf_iff.mp held).2] at isRoot
        cases isRoot
    apply TaskList.eq_of_index_eq memberLeft memberRight
    rw [zero left memberLeft isRootLeft, zero right memberRight isRootRight]
  · intro group member
    obtain ⟨spot, inLayout, both⟩ := compiled.exists_spot member
    rw [compiled.names_childrenOf inLayout both]
    exact spot.own.subtaskKeys_nodup

/-! ### What is below a task -/

theorem mem_layout_of_descends {lower upper : Task} (below : workflow.tasks.Descends lower upper) :
    ∀ spot ∈ (Spot.root name root).layout, Lowers spot.node upper →
      ∀ other ∈ (Spot.root name root).layout, Lowers other.node lower → other ∈ spot.layout := by
  have memberLower := below.mem
  -- The upper end moves up along the induction, so its spot is taken anew in each step.
  induction below with
  | @single upper child =>
      intro spot member both other memberOther bothOther
      have held := (compiled.mem_held_iff member memberOther both bothOther memberLower).mp child
      exact (Spot.held_sublist spot).subset held
  | @tail middle upper above child ih =>
      intro spot member both other memberOther bothOther
      have memberMiddle := (TaskList.mem_childrenOf_iff.mp child).1
      obtain ⟨between, inLayout, bothMiddle⟩ := compiled.exists_spot memberMiddle
      have held := (compiled.mem_held_iff member inLayout both bothMiddle memberMiddle).mp child
      exact (Spot.layout_sublist_of_mem_held held).subset
        (ih between inLayout bothMiddle other memberOther bothOther)

theorem eq_or_descends {spot : Spot} (member : spot ∈ (Spot.root name root).layout) {upper : Task}
    (both : Lowers spot.node upper) :
    ∀ other ∈ spot.layout, ∀ lower ∈ workflow.tasks.tasks, Lowers other.node lower →
      other = spot ∨ workflow.tasks.Descends lower upper := by
  induction spot using Spot.induction generalizing upper with
  | step spot ih =>
      intro other inside lower memberLower bothLower
      rw [Spot.layout_eq] at inside
      rcases List.mem_cons.mp inside with here | further
      · exact Or.inl here
      · obtain ⟨between, held, inBetween⟩ := List.mem_flatMap.mp further
        have memberBetween := Spot.mem_layout_of_held member held
        obtain ⟨middle, memberMiddle, bothMiddle⟩ := compiled.exists_task memberBetween
        have child := (compiled.mem_held_iff member memberBetween both bothMiddle memberMiddle).mpr
          held
        rcases ih between held memberBetween bothMiddle other inBetween lower memberLower
          bothLower with same | below
        · have sameIndex : lower.index = middle.index := by
            rw [bothLower.index, bothMiddle.index, same]
          rw [TaskList.eq_of_index_eq memberLower memberMiddle sameIndex]
          exact Or.inr (Relation.TransGen.single child)
        · exact Or.inr (below.tail child)

/-- What is below a task has the indexes right after it, up to that of its next sibling. -/
theorem exists_next {task : Task} (member : task ∈ workflow.tasks.tasks) :
    ∃ next, task.index < next ∧ next ≤ workflow.tasks.size ∧
      (∀ other ∈ workflow.tasks.tasks,
        workflow.tasks.Descends other task ↔ task.index < other.index ∧ other.index < next) ∧
      ∀ sibling ∈ workflow.tasks.tasks, sibling.parent = task.parent → task.index < sibling.index →
        next ≤ sibling.index := by
  obtain ⟨spot, inLayout, both⟩ := compiled.exists_spot member
  have index : task.index = spot.index := both.index
  have counted : spot.index + spot.layout.length ≤ workflow.tasks.size := by
    have ends := Spot.layout_end_le inLayout
    have start : (Spot.root name root).index = 0 := rfl
    rw [start, Nat.zero_add, compiled.lowers.length_eq] at ends
    exact ends
  have range : ∀ other ∈ workflow.tasks.tasks, workflow.tasks.Descends other task ↔
      task.index < other.index ∧ other.index < spot.index + spot.layout.length := by
    intro other memberOther
    obtain ⟨found, inside, bothOther⟩ := compiled.exists_spot memberOther
    have sameIndex : other.index = found.index := bothOther.index
    constructor
    · intro below
      have within := compiled.mem_layout_of_descends below spot inLayout both found inside bothOther
      have bounds := Spot.mem_layout_bounds within
      exact ⟨below.index_lt, by omega⟩
    · rintro ⟨after, before⟩
      have within := (Spot.mem_layout_iff inLayout inside).mpr ⟨by omega, by omega⟩
      rcases compiled.eq_or_descends inLayout both found within other memberOther
        bothOther with same | below
      · rw [same] at sameIndex
        omega
      · exact below
  have positive : 0 < spot.layout.length := List.length_pos_of_mem (Spot.mem_layout_self spot)
  refine ⟨spot.index + spot.layout.length, by omega, counted, range, ?_⟩
  intro sibling memberSibling sameParent after
  -- A sibling before the next index is below the task, so its group does not come before the task;
  -- but theirs does.
  by_contra inside
  obtain ⟨group, isParent, notBefore⟩ :=
    ((range sibling memberSibling).mpr ⟨after, by omega⟩).parent
  have before := task.parent_lt _ (sameParent.symm.trans isParent)
  omega

end Compiled

/-! ### The whole tree -/

/-- What it means that the tasks of a workflow list the nodes of a definition in preorder. -/
structure ListsNodes (name : String) (root : Config) (workflow : Workflow) : Prop where
  first : ∃ task, workflow.root? = some task ∧ task.name = name ∧ task.parent = none
  counted : ∀ (position : Nat) (task : Task), workflow.tasks.tasks[position]? = some task →
    task.index = position
  preorder : List.Forall₂
    (fun site task => workflow.tasks.Reaches site.path task ∧
      (workflow.tasks.childrenOf task.index).map (·.name) = site.own.subtaskKeys)
    (Site.root name root).preorder workflow.tasks.tasks
  one_path : ∀ path task other, workflow.tasks.Reaches path task →
    workflow.tasks.Reaches path other →
    task = other
  grouped : ∀ task ∈ workflow.tasks.tasks, task.index ≠ 0 →
    ∃ group ∈ workflow.tasks.tasks, task.parent = some (group.index : Int) ∧
      group.index < task.index ∧
      group.kind = .group
  contiguous : ∀ task ∈ workflow.tasks.tasks, ∃ next, task.index < next ∧
    next ≤ workflow.tasks.size ∧
    (∀ other ∈ workflow.tasks.tasks,
      workflow.tasks.Descends other task ↔ task.index < other.index ∧ other.index < next) ∧
    ∀ sibling ∈ workflow.tasks.tasks, sibling.parent = task.parent → task.index < sibling.index →
      next ≤ sibling.index
  kind : ∀ task ∈ workflow.tasks.tasks,
    task.kind = .task ↔ ∃ key, task.config.get? key ≠ none ∧ MakesTask key

/-- The tasks of a compiled workflow list the nodes that its definition declares, in preorder. -/
theorem listsNodes_of_compileValue {name : String} {definition : Value} {workflow : Workflow}
    (result : (compileValue (.text name) definition).result = .ok workflow) :
    ∃ root, Config.ofDefinition definition = .ok root ∧ ListsNodes name root workflow := by
  obtain ⟨root, isRoot, _⟩ := (compileValue_iff name definition workflow).mp result
  have compiled := compiled_of_compileValue isRoot result
  refine ⟨root, isRoot, ?_⟩
  exact
    { first := compiled.root_first
      counted := workflow.tasks.placed
      preorder := compiled.forall₂_sites fun spot task inLayout member both =>
        ⟨compiled.reaches inLayout member both, compiled.names_childrenOf inLayout both⟩
      one_path := fun _ _ _ => compiled.reaches_unique
      grouped := fun task member later => by
        rcases compiled.eq_root_or_held member with here | ⟨group, memberGroup, held, isGroup⟩
        · exact absurd here.1 later
        · exact ⟨group, memberGroup, (TaskList.mem_childrenOf_iff.mp held).2,
            TaskList.index_lt_of_mem_childrenOf held, isGroup⟩
      contiguous := fun _ => compiled.exists_next
      kind := fun _ => compiled.kind_eq_task_iff }

theorem listsNodes_release :
    ∃ workflow, (compileValue (.text "release") release).result = .ok workflow ∧
      ∃ root, Config.ofDefinition release = .ok root ∧ ListsNodes "release" root workflow := by
  obtain ⟨workflow, result⟩ :
      ∃ workflow, (compileValue (.text "release") release).result = .ok workflow := ⟨_, rfl⟩
  exact ⟨workflow, result, listsNodes_of_compileValue result⟩

end Compiler
end TaskGraph
