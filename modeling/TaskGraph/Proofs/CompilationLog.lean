import TaskGraph.Proofs.BuiltLists
import TaskGraph.Proofs.TaskTree
import TaskGraph.Proofs.WalkVisits
set_option autoImplicit false

/-! What a compilation reports: every node that the walk added until a check did not hold, in
preorder and each under its place. A compilation that succeeds has reported every task, and reports
their number last. -/

namespace TaskGraph.Compiler

def reportOf (list : TaskList) (task : Task) : Event :=
  .added task.kind task.name task.index ((task.parent.bind list.get?).map (·.name))

def closing (name : String) : Except Error Workflow → List Event
  | .ok workflow => [.compiled name workflow.tasks.size]
  | .error _ => []

theorem events_compile (name : String) (root : Config) :
    (compile name root).events =
      (walkRoot name root).nodes.map Node.event ++ closing name (compile name root).result := by
  have tasks : (compileTasksAs name (.ok name) root).events =
      (walkRoot name root).nodes.map Node.event := by
    unfold compileTasksAs
    dsimp only
    split
    · rfl
    · split <;> rfl
  rw [← tasks, compile, compileAs]
  cases (compileTasksAs name (.ok name) root).result with
  | error cause => exact (List.append_nil _).symm
  | ok list =>
      cases root.nested "meta" with
      | error cause => exact (List.append_nil _).symm
      | ok metadata => rfl

theorem Compiled.name_parent {name : String} {root : Config} {workflow : Workflow}
    (compiled : Compiled name root workflow) {spot : Spot} {task : Task}
    (member : spot ∈ (Spot.root name root).layout) (both : Lowers spot.node task) :
    (task.parent.bind workflow.tasks.get?).map (·.name) = spot.group.map (·.name) := by
  have parent : task.parent = spot.group.map fun group => Int.ofNat group.index := both.parent
  rw [parent]
  rcases Spot.eq_or_held member with isRoot | ⟨holder, memberHolder, held⟩
  · rw [isRoot]
    rfl
  · obtain ⟨group, memberGroup, bothGroup⟩ := compiled.exists_task memberHolder
    have index : group.index = holder.index := bothGroup.index
    have found := TaskList.getElem?_index memberGroup
    rw [index] at found
    rw [Spot.group_of_mem_held held, Option.map_some, Option.bind_some, TaskList.get?_ofNat, found]
    exact congrArg some bothGroup.name

/-- The reports of a compilation that succeeds describe its tasks. -/
theorem Compiled.reports {name : String} {root : Config} {workflow : Workflow}
    (compiled : Compiled name root workflow) :
    (walkRoot name root).nodes.map Node.event = workflow.tasks.tasks.map
      (reportOf workflow.tasks) := by
  rw [walkRoot_of_accepted compiled.stored compiled.accepted, Spot.nodes, List.map_map]
  have rows := (List.forall₂_and_left _ _).mpr ⟨fun spot member => member, compiled.lowers⟩
  refine map_eq_map_of_forall₂ rows fun spot task both => ?_
  obtain ⟨member, lowers⟩ := both
  rw [Function.comp_apply, Node.event, reportOf, compiled.name_parent member lowers,
    lowers.kind, lowers.name, lowers.index]
  rfl

/-- What the log of a compilation says: which nodes were added until a check did not hold, one
report for each, and the number of tasks after them if there is a workflow. -/
structure MirrorsWalk (name : String) (root : Config) (outcome : Outcome Workflow)
    (passed : List Visit) (failure : Option Error) : Prop where
  stops : StopsAt (Site.root name root).visits passed failure
  refused : ∀ cause, failure = some cause → outcome.result = .error cause
  begins : entered passed <+: (Site.root name root).preorder
  whole : failure = none → entered passed = (Site.root name root).preorder
  nodes : (walkRoot name root).nodes.map Node.event = additions 0 (entered passed)
  events : outcome.events = additions 0 (entered passed) ++ closing name outcome.result
  debug : outcome.events.filter (·.level = "DEBUG") = additions 0 (entered passed)
  info : outcome.events.filter (·.level = "INFO") = closing name outcome.result
  tasks : ∀ workflow, outcome.result = .ok workflow →
    additions 0 (entered passed) = workflow.tasks.tasks.map (reportOf workflow.tasks)

theorem level_of_mem_additions {index : Nat} {sites : List Site} {event : Event}
    (member : event ∈ additions index sites) :
    event.level = "DEBUG" := by
  obtain ⟨place, _, rfl⟩ := List.mem_mapIdx.mp member
  rfl

theorem level_of_mem_closing {name : String} {result : Except Error Workflow} {event : Event}
    (member : event ∈ closing name result) : event.level = "INFO" := by
  cases result with
  | ok workflow =>
      obtain rfl := List.mem_singleton.mp member
      rfl
  | error cause => cases member

/-- Reports at one level before those at another one are told apart by their levels. -/
theorem filter_level_append {level other : String} (differ : level ≠ other)
    {first second : List Event} (here : ∀ event ∈ first, event.level = level)
    (there : ∀ event ∈ second, event.level = other) :
    (first ++ second).filter (·.level = level) = first ∧
      (first ++ second).filter (·.level = other) = second := by
  constructor
  · have kept : first.filter (·.level = level) = first :=
      List.filter_eq_self.mpr fun event member => decide_eq_true (here event member)
    have dropped : second.filter (·.level = level) = [] :=
      List.filter_eq_nil_iff.mpr fun event member => by
      simpa [there event member] using differ.symm
    rw [List.filter_append, kept, dropped, List.append_nil]
  · have kept : second.filter (·.level = other) = second :=
      List.filter_eq_self.mpr fun event member => decide_eq_true (there event member)
    have dropped : first.filter (·.level = other) = [] :=
      List.filter_eq_nil_iff.mpr fun event member => by
      simpa [here event member] using differ
    rw [List.filter_append, kept, dropped, List.nil_append]

theorem compile_of_walkRoot_failure {name : String} {root : Config} {cause : Error}
    (failure : (walkRoot name root).failure = some cause) :
    (compile name root).result = .error cause := by
  rw [compile_result_eq, compileTasks_of_failure failure]

theorem exists_mirrorsWalk {name : String} {root : Config} (stored : root.Stored)
    (plain : (Site.root name root).PlainDefaults) :
    ∃ passed, MirrorsWalk name root (compile name root) passed (walkRoot name root).failure := by
  obtain ⟨passed, stops, nodes⟩ := logs_walkRoot stored plain
  have events := events_compile name root
  rw [nodes] at events
  have added : ∀ event ∈ additions 0 (entered passed), event.level = "DEBUG" :=
    fun _ => level_of_mem_additions
  have last : ∀ event ∈ closing name (compile name root).result, event.level = "INFO" :=
    fun _ => level_of_mem_closing
  have levels := filter_level_append (by decide) added last
  rw [← events] at levels
  refine ⟨passed, ?_⟩
  exact
    { stops
      refused := fun cause failure => compile_of_walkRoot_failure failure
      begins := by
        rw [← entered_visits]
        exact stops.begins.filterMap _
      whole := fun ended => by
        rw [ended] at stops
        rw [stops.1, entered_visits]
      nodes
      events
      debug := levels.1
      info := levels.2
      tasks := fun workflow result => nodes.symm.trans (compiled_of_compile stored result).reports }

/-- Where no `default` at a node declares a subtask, the log of a compilation mirrors the walk, also
if it fails; and what is no definition is refused without a report. -/
theorem mirrorsWalk_of_plainDefaults {name : String} {definition : Value}
    (plain : ∀ root, Config.ofDefinition definition = .ok root →
      (Site.root name root).PlainDefaults) :
    (∀ cause, Config.ofDefinition definition = .error cause →
      compileValue (.text name) definition = ⟨.error (.option cause), []⟩) ∧
    ∀ root, Config.ofDefinition definition = .ok root →
      ∃ passed failure, MirrorsWalk name root (compileValue (.text name) definition)
        passed failure := by
  refine ⟨fun cause isNone => by rw [compileValue, isNone], fun root isRoot => ?_⟩
  have same : compileValue (.text name) definition = compile name root := by
    rw [compileValue, isRoot]
    rfl
  obtain ⟨passed, mirrors⟩ :=
    exists_mirrorsWalk (Config.stored_ofDefinition isRoot) (plain root isRoot)
  exact ⟨passed, _, same ▸ mirrors⟩

def chores : Value :=
  .mapping
    [(.text "+sweep", .mapping [(.text "sh>", .text "sweep")]),
      (.text "+wash", .mapping [(.text "sh>", .text "wash"), (.text "+dry", .null)]),
      (.text "+shop", .mapping [(.text "sh>", .text "shop")])]

theorem plainDefaults_chores :
    ∀ root, Config.ofDefinition chores = .ok root → (Site.root "chores" root).PlainDefaults := by
  rintro root ⟨⟩
  refine (Site.plainDefaults_iff _).mpr ⟨rfl, ?_⟩
  refine List.forall_mem_cons.mpr
    ⟨?sweep, List.forall_mem_cons.mpr ⟨?wash, List.forall_mem_singleton.mpr ?shop⟩⟩
  case sweep => exact (Site.plainDefaults_iff _).mpr ⟨rfl, nofun⟩
  case wash =>
    refine (Site.plainDefaults_iff _).mpr ⟨rfl, List.forall_mem_singleton.mpr ?_⟩
    exact (Site.plainDefaults_iff _).mpr ⟨rfl, nofun⟩
  case shop => exact (Site.plainDefaults_iff _).mpr ⟨rfl, nofun⟩

theorem mirrorsWalk_chores :
    (∀ root, Config.ofDefinition chores = .ok root → (Site.root "chores" root).PlainDefaults) ∧
    ∃ root, Config.ofDefinition chores = .ok root ∧
      (∃ passed failure, MirrorsWalk "chores" root (compileValue (.text "chores") chores)
        passed failure) ∧
      (compileValue (.text "chores") chores).events =
        [.added .group "chores" 0 none, .added .task "+sweep" 1 (some "chores")] := by
  obtain ⟨_, mirrors⟩ := mirrorsWalk_of_plainDefaults plainDefaults_chores
  exact ⟨plainDefaults_chores, _, rfl, mirrors _ rfl, rfl⟩

end TaskGraph.Compiler
