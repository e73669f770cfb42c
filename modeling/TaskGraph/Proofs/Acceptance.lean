import TaskGraph.Proofs.Lowering
import TaskGraph.Proofs.PlainSites
set_option autoImplicit false

/-! Which definitions compile, and into what. A definition compiles exactly if the root has a name,
its metadata is a mapping and every site is accepted; then the tasks are those of the layout, one
for each spot. -/

namespace TaskGraph.Compiler

structure Compiled (name : String) (root : Config) (workflow : Workflow) : Prop where
  stored : root.Stored
  named : name ≠ ""
  readable : ReadsAsMapping (root.get? "meta")
  metadata : workflow.metadata = (root.below "meta").freeze
  accepted : ∀ site ∈ (Site.root name root).preorder, site.Accepted
  lowers : List.Forall₂ (fun spot : Spot => Lowers spot.node)
    (Spot.root name root).layout workflow.tasks.tasks

/-! ### The walk from the root -/

theorem height_lt_depthBound (root : Config) : root.height < depthBound root := by
  have reached := root.height_le
  have deep : root.toValue.depth = Value.depthFields root.fields + 1 := by
    rw [Config.toValue, Value.depth]
  have wide : root.toValue.depth + 2 ≤ (root.toValue.depth + 2) * (root.toValue.depth + 2) :=
    Nat.le_mul_self _
  rw [depthBound, Nat.mul_assoc]
  omega

theorem walkRoot_of_accepted {name : String} {root : Config} (stored : root.Stored)
    (accepted : ∀ site ∈ (Site.root name root).preorder, site.Accepted) :
    walkRoot name root = ⟨(Spot.root name root).nodes, none⟩ :=
  Spot.walkFrom_of_accepted (Spot.root name root) stored rfl (height_lt_depthBound root) accepted

theorem walkRoot_failure_iff {name : String} {root : Config} (stored : root.Stored) :
    (walkRoot name root).failure = none ↔ ∀ site ∈ (Site.root name root).preorder,
      site.Accepted := by
  constructor
  · intro ended
    exact (Spot.accepted_of_walkFrom (Spot.root name root) stored rfl ended).2
  · intro accepted
    rw [walkRoot_of_accepted stored accepted]

/-! ### The tasks -/

theorem rename_nodes (name : String) (root : Config) :
    rename (.ok name) (Spot.root name root).nodes = .ok (Spot.root name root).nodes := by
  rw [Spot.nodes_eq]
  rfl

theorem name_ne_of_mem_held {spot other : Spot} (member : other ∈ spot.held) : other.name ≠ "" := by
  intro nameless
  obtain ⟨key, declared, same⟩ := List.mem_map.mp (Spot.toSite_mem_children member)
  have isSubtask := ((spot.own.mem_subtaskKeys key).mp declared).2
  have isKey : other.name = key := by rw [← same]; rfl
  rw [← isKey, nameless] at isSubtask
  cases isSubtask

theorem exists_lower_of_mem_layout {name : String} {root : Config} (named : name ≠ "")
    (stored : root.Stored) (accepted : ∀ site ∈ (Site.root name root).preorder, site.Accepted)
    {spot : Spot} (member : spot ∈ (Spot.root name root).layout) :
    ∃ task, spot.node.lower = .ok task := by
  rcases Spot.eq_or_held member with isRoot | ⟨group, memberGroup, held⟩
  · rw [isRoot]
    refine exists_lower_of_node named (fun holder isHolder => ?_)
      (fun upstream inside => ?_) List.nodup_nil
    · cases isHolder
    · cases inside
  · obtain ⟨early, distinct⟩ :=
      Spot.upstreams_of_mem_held (Spot.stored_of_mem_layout stored memberGroup)
      (accepted _ (Spot.toSite_mem_preorder memberGroup)) held
    refine exists_lower_of_node (name_ne_of_mem_held held) (fun holder isHolder => ?_)
      (fun upstream inside => ?_) distinct
    · have same : some holder = some ⟨group.index, group.name⟩ :=
        isHolder.symm.trans (Spot.group_of_mem_held held)
      rw [Option.some.inj same]
      exact Spot.index_lt_of_mem_held held
    · obtain ⟨earlier, _, same, before⟩ := early upstream inside
      rw [← same]
      exact before

theorem exists_lower_nodes {name : String} {root : Config} (named : name ≠ "")
    (stored : root.Stored) (accepted : ∀ site ∈ (Site.root name root).preorder, site.Accepted) :
    ∃ list, lower (Spot.root name root).nodes = .ok list := by
  refine exists_lower (fun node member => ?_) ?_
  · obtain ⟨spot, inside, same⟩ := List.mem_map.mp member
    rw [← same]
    exact exists_lower_of_mem_layout named stored accepted inside
  · have indexes := Spot.indexes_layout (Spot.root name root)
    rw [Spot.nodes, List.map_map, List.length_map]
    exact indexes

theorem name_ne_of_lowers {name : String} {root : Config} {tasks : List Task}
    (lowers : List.Forall₂ (fun spot : Spot => Lowers spot.node) (Spot.root name root).layout tasks)
      :
    name ≠ "" := by
  obtain ⟨task, _, first⟩ := exists_right_of_forall₂ lowers (Spot.mem_layout_self _)
  have named := task.name_ne
  rw [first.name] at named
  exact named

/-! ### The workflow -/

theorem compileTasks_of_accepted {name : String} {root : Config} (stored : root.Stored)
    (accepted : ∀ site ∈ (Site.root name root).preorder, site.Accepted) :
    (compileTasks name root).result = (lower (Spot.root name root).nodes).mapError
      Error.invalidGraph := by
  unfold compileTasks compileTasksAs
  simp only [walkRoot_of_accepted stored accepted, rename_nodes, Except.bind]
  cases lower (Spot.root name root).nodes <;> rfl

theorem compileTasks_of_failure {name : String} {root : Config} {cause : Error}
    (failure : (walkRoot name root).failure = some cause) :
    (compileTasks name root).result = .error cause := by
  unfold compileTasks compileTasksAs
  simp only [failure]

theorem compile_result_eq (name : String) (root : Config) :
    (compile name root).result =
      match (compileTasks name root).result, root.nested "meta" with
      | .error cause, _ => .error cause
      | .ok _, .error cause => .error (.option cause)
      | .ok tasks, .ok metadata => .ok ⟨name, metadata.freeze, tasks⟩ := by
  unfold compile compileAs compileTasks
  obtain ⟨result, events⟩ := compileTasksAs name (.ok name) root
  cases result with
  | error cause => rfl
  | ok tasks => cases root.nested "meta" <;> rfl

/-- Compiling an accepted definition comes down to building its tasks and reading its metadata. -/
theorem compile_of_accepted {name : String} {root : Config} (stored : root.Stored)
    (accepted : ∀ site ∈ (Site.root name root).preorder, site.Accepted) (workflow : Workflow) :
    (compile name root).result = .ok workflow ↔
      ∃ list, lower (Spot.root name root).nodes = .ok list ∧ ReadsAsMapping (root.get? "meta") ∧
        workflow = ⟨name, (root.below "meta").freeze, list⟩ := by
  rw [compile_result_eq, compileTasks_of_accepted stored accepted]
  cases lower (Spot.root name root).nodes with
  | error cause => simp [Except.mapError]
  | ok list =>
      simp only [Except.mapError, Except.ok.injEq, exists_eq_left']
      cases read : root.nested "meta" with
      | error cause =>
          have unreadable : ¬ReadsAsMapping (root.get? "meta") := fun readable => by
            rw [Config.nested_eq_below readable] at read
            cases read
          simp [unreadable]
      | ok found =>
          obtain ⟨readable, same⟩ := (Config.nested_eq_ok_iff root "meta" found).mp read
          simp [readable, same, eq_comm]

theorem accepted_of_compile {name : String} {root : Config} {workflow : Workflow}
    (stored : root.Stored) (compiled : (compile name root).result = .ok workflow) :
    ∀ site ∈ (Site.root name root).preorder, site.Accepted := by
  apply (walkRoot_failure_iff stored).mp
  cases failure : (walkRoot name root).failure with
  | none => rfl
  | some cause =>
      rw [compile_result_eq, compileTasks_of_failure failure] at compiled
      cases compiled

theorem compiled_of_compile {name : String} {root : Config} {workflow : Workflow}
    (stored : root.Stored) (result : (compile name root).result = .ok workflow) :
    Compiled name root workflow := by
  have accepted := accepted_of_compile stored result
  obtain ⟨list, built, readable, same⟩ := (compile_of_accepted stored accepted workflow).mp result
  have lowers := List.forall₂_map_left_iff.mp (lowers_of_eq_ok built)
  exact
    { stored
      named := name_ne_of_lowers lowers
      readable
      metadata := by rw [same]
      accepted
      lowers := by rw [same]; exact lowers }

theorem exists_compiled {name : String} {root : Config} (named : name ≠ "") (stored : root.Stored)
    (readable : ReadsAsMapping (root.get? "meta"))
    (accepted : ∀ site ∈ (Site.root name root).preorder, site.Accepted) :
    ∃ workflow, (compile name root).result = .ok workflow ∧ Compiled name root workflow := by
  obtain ⟨list, built⟩ := exists_lower_nodes named stored accepted
  have result := (compile_of_accepted stored accepted _).mpr ⟨list, built, readable, rfl⟩
  exact ⟨_, result, compiled_of_compile stored result⟩

/-- The tasks of a compiled workflow have the names of the sites. -/
theorem Compiled.names_eq {name : String} {root : Config} {workflow : Workflow}
    (compiled : Compiled name root workflow) :
    workflow.tasks.names = (Site.root name root).preorder.map (·.name) := by
  have tasks : (Spot.root name root).layout.map (·.name) = workflow.tasks.tasks.map (·.name) :=
    map_eq_map_of_forall₂ compiled.lowers fun _ _ lowers => lowers.name.symm
  have sites := Spot.toSite_layout (Spot.root name root)
  rw [TaskList.names, ← tasks]
  change _ = (Spot.root name root).toSite.preorder.map (·.name)
  rw [← sites, List.map_map]
  rfl

/-- A definition of nothing but subtasks that are tasks without
defaults has the root and these subtasks, in order. -/
theorem exists_names_eq {name : String} {root : Config} (named : name ≠ "") (stored : root.Stored)
    (subtasks : ∀ key ∈ root.keys, isSubtaskKey key = true ∧ ReadsAsMapping (root.get? key))
    (tasks : ∀ key ∈ root.keys, (root.below key).isTask = true ∧ (root.below key).subtaskKeys = [] ∧
      (root.below key).get? "default" = none) :
    ∃ workflow, (compile name root).result = .ok workflow ∧
      workflow.tasks.names = name :: root.keys := by
  have allSubtasks : root.subtaskKeys = root.keys := List.filter_eq_self.mpr fun key member =>
    (subtasks key member).1
  have absent (key : String) (isOption : isSubtaskKey key = false) : root.get? key = none := by
    by_contra present
    have isSubtask := (subtasks key ((Config.get?_ne_none_iff root key).mp present)).1
    rw [isOption] at isSubtask
    cases isSubtask
  have top : (Site.root name root).Undefaulted := Site.undefaulted_root (absent _ (by decide))
  have alone : ∀ key ∈ root.keys, ((Site.root name root).child key).preorder =
      [(Site.root name root).child key] :=
    fun key member => Site.preorder_of_subtaskKeys_eq_nil (tasks key member).2.1
  have sites : (Site.root name root).preorder = Site.root name root :: root.keys.map
      (Site.root name root).child := by
    rw [Site.preorder_eq, Site.children]
    change _ :: (root.subtaskKeys.map _).flatMap _ = _
    rw [allSubtasks, List.flatMap_map, List.map_eq_flatMap]
    exact congrArg _ (List.flatMap_congr alone)
  have accepted : ∀ site ∈ (Site.root name root).preorder, site.Accepted := by
    rw [sites]
    refine List.forall_mem_cons.mpr ⟨?_, List.forall_mem_map.mpr fun key member => ?_⟩
    · refine Site.accepted_of_undefaulted_group top ?_ ?_ (absent _ (by decide))
        (absent _ (by decide))
      · intro key member
        exact (subtasks key ((Config.mem_subtaskKeys root key).mp member).1).2
      · intro key member isOption
        rw [(subtasks key member).1] at isOption
        cases isOption
    · obtain ⟨isTask, bare, noDefault⟩ := tasks key member
      obtain ⟨option, present, runs⟩ := (isTask_iff _).mp isTask
      have isOption : isSubtaskKey option = false := by
        rw [Bool.eq_false_iff]
        exact fun isSubtask => present ((Config.subtaskKeys_eq_nil_iff _).mp bare option isSubtask)
      exact Site.accepted_of_undefaulted_task (Site.undefaulted_child top noDefault)
        present isOption runs bare
  have readable : ReadsAsMapping (root.get? "meta") := by
    rw [absent _ (by decide)]
    trivial
  obtain ⟨workflow, result, compiled⟩ := exists_compiled named stored readable accepted
  refine ⟨workflow, result, ?_⟩
  rw [compiled.names_eq, sites, List.map_cons, List.map_map]
  exact congrArg _ (List.map_id _)

/-! ### Definitions -/

theorem compileValue_of_root {name : String} {definition : Value} {root : Config}
    (isRoot : Config.ofDefinition definition = .ok root) :
    (compileValue (.text name) definition).result = (compile name root).result := by
  unfold compileValue
  rw [isRoot]
  rfl

theorem compileTasksValue_of_root {name : String} {definition : Value} {root : Config}
    (isRoot : Config.ofDefinition definition = .ok root) :
    (compileTasksValue (.text name) definition).result = (compileTasks name root).result := by
  unfold compileTasksValue
  rw [isRoot]
  rfl

theorem compileValue_iff (name : String) (definition : Value) (workflow : Workflow) :
    (compileValue (.text name) definition).result = .ok workflow ↔
      ∃ root, Config.ofDefinition definition = .ok root ∧
        (compile name root).result = .ok workflow := by
  unfold compileValue
  cases Config.ofDefinition definition with
  | error cause => simp
  | ok root =>
      simp only [Except.ok.injEq, exists_eq_left']
      exact Iff.rfl

theorem compiled_of_compileValue {name : String} {definition : Value} {root : Config}
    {workflow : Workflow} (isRoot : Config.ofDefinition definition = .ok root)
    (result : (compileValue (.text name) definition).result = .ok workflow) :
    Compiled name root workflow := by
  obtain ⟨found, isFound, compiled⟩ := (compileValue_iff name definition workflow).mp result
  have same : found = root := Except.ok.inj (isFound.symm.trans isRoot)
  rw [same] at compiled
  exact compiled_of_compile (Config.stored_ofDefinition isRoot) compiled

theorem exists_workflow_iff (name : String) (definition : Value) :
    (∃ workflow, (compileValue (.text name) definition).result = .ok workflow) ↔
      name ≠ "" ∧ ∃ root, Config.ofDefinition definition = .ok root ∧
        ReadsAsMapping (root.get? "meta") ∧ ∀ site ∈ (Site.root name root).preorder,
          site.Accepted := by
  constructor
  · rintro ⟨workflow, result⟩
    obtain ⟨root, isRoot, _⟩ := (compileValue_iff name definition workflow).mp result
    have compiled := compiled_of_compileValue isRoot result
    exact ⟨compiled.named, root, isRoot, compiled.readable, compiled.accepted⟩
  · rintro ⟨named, root, isRoot, readable, accepted⟩
    obtain ⟨workflow, result, _⟩ :=
      exists_compiled named (Config.stored_ofDefinition isRoot) readable accepted
    exact ⟨workflow, (compileValue_iff name definition workflow).mpr ⟨root, isRoot, result⟩⟩

/-- A definition compiles under a name exactly if the name is not empty, the definition is a
configuration or a mapping whose keys can be written, its own `meta` is a mapping, and each of its
nodes says what it must. -/
theorem exists_compileValue_iff (name : String) (definition : Value) :
    (∃ workflow, (compileValue (.text name) definition).result = .ok workflow) ↔
      name ≠ "" ∧ definition.areKeysWritable = true ∧
        ∃ root, Config.root? definition = some root ∧ ReadsAsMapping (root.get? "meta") ∧
          ∀ site ∈ (Site.root name root).preorder, site.Accepted := by
  rw [exists_workflow_iff]
  simp only [Config.ofDefinition, Config.checked_eq_ok_iff]
  refine and_congr_right fun _ => ⟨?_, ?_⟩
  · rintro ⟨root, ⟨isRoot, writable⟩, rest⟩
    exact ⟨writable, root, isRoot, rest⟩
  · rintro ⟨writable, root, isRoot, rest⟩
    exact ⟨root, ⟨isRoot, writable⟩, rest⟩

def numbered (number : Int) : Value :=
  .mapping [(.text "limits", .mapping [(.int number, .text "most")])]

/-- A definition that keeps something under a number too long to be
written says what it must, but it does not compile. -/
theorem numbered_not_compiled :
    ∃ root, Config.root? (numbered overlong) = some root ∧ ReadsAsMapping (root.get? "meta") ∧
      (∀ site ∈ (Site.root "numbered" root).preorder, site.Accepted) ∧
      (compileValue (.text "numbered") (numbered overlong)).result = .error (.option .tooLong) := by
  have long := isWritable_overlong
  generalize overlong = number at long ⊢
  have unwritable : (numbered number).areKeysWritable = false := by
    simp [numbered, Value.areKeysWritable, Value.areEntryKeysWritable, Value.isWritable, long]
  let root := Config.ofWrites [("limits", .ofFields [(toString number, .text "most")])]
  have isRoot : Config.root? (numbered number) = some root := rfl
  have idle : ∀ key ∈ ["limits"], isSubtaskKey key = false ∧ isTaskKey key = false := by decide
  refine ⟨root, isRoot, trivial, Site.accepted_of_idle idle ?_, ?_⟩
  · exact List.forall_mem_cons.mpr
      ⟨rfl, List.forall_mem_cons.mpr ⟨rfl, List.forall_mem_singleton.mpr rfl⟩⟩
  · unfold compileValue
    rw [Config.ofDefinition_of_root? isRoot, unwritable]
    rfl

/-- A definition with defaults, a group that runs its subtasks one
by one and one that runs them in parallel. -/
def release : Value :=
  .mapping
    [(.text "default", .mapping [(.text "retries", .int 2)]),
      (.text "+prepare", .mapping [(.text "sh>", .text "make")]),
      (.text "+publish", .mapping
        [(.text "parallel", .text "True"),
          (.text "+docs", .mapping [(.text "sh>", .text "make docs")]),
          (.text "+site", .mapping
            [(.text "sh>", .text "make site"), (.text "retries", .null),
              (.text "after", .list [.text "+docs"])])])]

end TaskGraph.Compiler
