import TaskGraph.Proofs.Dependencies
set_option autoImplicit false

/-! Lists of tasks that are built from loose arguments. Whatever the arguments are read as, a task
list that is built refers only to itself: each task stands at the index that it was given, and the
indexes of its upstreams, as they were read, are distinct and those of earlier tasks. So every
upstream can be looked up, and no chain of upstreams comes back. -/

namespace TaskGraph

/-! ### Readings that succeed -/

theorem Reading.eq_ok_of_within {α : Type} {place : Place} {reading : Reading α} {value : α}
    (read : Reading.within place reading = .ok value) : reading = .ok value := by
  cases reading with
  | ok found => exact read
  | error complaints => cases read

theorem Reading.eq_ok_of_toRecord {α : Type} {model : String} {reading : Reading α} {value : α}
    (built : reading.toRecord model = .ok value) : reading = .ok value := by
  cases reading with
  | ok found =>
      cases built
      rfl
  | error complaints => cases built

theorem Reading.forall₂_of_all {α : Type} {position : Nat} {readings : List (Reading α)}
    {values : List α} (read : Reading.all position readings = .ok values) :
    List.Forall₂ (fun reading value => reading = .ok value) readings values := by
  induction readings generalizing position values with
  | nil =>
      cases read
      exact .nil
  | cons first rest ih =>
      rw [Reading.all] at read
      split at read
      · rename_i value others here later
        cases read
        exact .cons (Reading.eq_ok_of_within here) (ih later)
      · cases read

theorem Coercion.forall₂_of_tuple {α : Type} {item : Value → Reading α} {value : Value}
    {values : List α} (read : Coercion.tuple item value = .ok values) :
    ∃ items, (value = .tuple items ∨ value = .list items ∨ value = .set items) ∧
      List.Forall₂ (fun given found => item given = .ok found) items values := by
  have each {items : List Value} (all : Reading.all 0 (items.map item) = .ok values) :
      List.Forall₂ (fun given found => item given = .ok found) items values :=
    List.forall₂_map_left_iff.mp (Reading.forall₂_of_all all)
  cases value with
  | tuple items => exact ⟨items, Or.inl rfl, each read⟩
  | list items => exact ⟨items, Or.inr (Or.inl rfl), each read⟩
  | set items => exact ⟨items, Or.inr (Or.inr rfl), each read⟩
  | _ => cases read

/-! ### One task -/

namespace Task

/-- A task that keeps the rules was given an index that is not negative, and distinct upstreams
between zero and that index. -/
theorem bounds_of_make {name : String} {index : Int} {parent : Option Int} {upstreams : List Int}
    {kind : Kind} {config : Config} {task : Task}
    (built : make name index parent upstreams kind config = .ok task) :
    0 ≤ index ∧ (∀ upstream ∈ upstreams, 0 ≤ upstream ∧ upstream < index) ∧ upstreams.Nodup := by
  unfold make at built
  split at built
  · cases built
  · split at built
    · cases built
    · rename_i counted
      split at built
      · cases built
      · split at built
        · cases built
        · rename_i early
          split at built
          · rename_i distinct
            refine ⟨by omega, fun upstream member => ?_, distinct.of_map Int.toNat⟩
            have notLate := List.find?_eq_none.mp early upstream member
            simp only [isLate, Bool.or_eq_true, decide_eq_true_eq, not_or] at notLate
            omega
          · cases built

theorem exists_make_of_read {fields : Fields Value} {task : Task}
    (read : Task.read fields = .ok task) :
    ∃ name index parent upstreams kind config,
      Coercion.required fields "index" Coercion.integer = .ok index ∧
        Coercion.optional fields "upstream_indexes" [] (Coercion.tuple Coercion.integer) =
          .ok upstreams ∧
        make name index parent upstreams kind config = .ok task := by
  unfold Task.read at read
  dsimp only at read
  split at read
  · rename_i name index parent upstreams kind config _ isIndex _ areUpstreams _ _
    split at read
    · rename_i made built
      cases read
      exact ⟨name, index, parent, upstreams, kind, config, isIndex, areUpstreams, built⟩
    · cases read
  · cases read

/-- What it means that a task was read from fields for a position: its index is read as that
position, and its upstreams are read as distinct integers between zero and that position, which the
task keeps as they are. -/
structure SeatedBy (fields : Fields Value) (position : Nat) (task : Task) : Prop where
  given : Coercion.required fields "index" Coercion.integer = .ok (position : Int)
  index : task.index = position
  upstreams : ∃ upstreams,
    Coercion.optional fields "upstream_indexes" [] (Coercion.tuple Coercion.integer) =
      .ok upstreams ∧
      upstreams.Nodup ∧ (∀ upstream ∈ upstreams, 0 ≤ upstream ∧ upstream < position) ∧
        task.upstreams.map Int.ofNat = upstreams

theorem seatedBy_of_read {fields : Fields Value} {task : Task}
    (read : Task.read fields = .ok task) :
    task.SeatedBy fields task.index := by
  obtain ⟨_, index, _, upstreams, _, _, isIndex, areUpstreams, built⟩ := exists_make_of_read read
  obtain ⟨counted, early, distinct⟩ := bounds_of_make built
  obtain ⟨_, sameIndex, _, sameUpstreams, _, _⟩ := parts_of_make built
  have whole : (task.index : Int) = index := by omega
  refine ⟨by
    rw [whole]; exact isIndex, rfl, upstreams, areUpstreams, distinct, by
      rw [whole]; exact early, ?_⟩
  rw [sameUpstreams, List.map_map]
  conv_rhs => rw [← List.map_id upstreams]
  apply List.map_congr_left
  intro upstream member
  exact Int.toNat_of_nonneg (early upstream member).1

end Task

/-! ### Lists of tasks -/

namespace TaskList

def givenTasks (fields : Fields Value) : List (Fields Value) :=
  let fieldsOf : Value → Fields Value := fun item => match item with
    | .mapping entries => Coercion.textFields entries
    | _ => []
  match fields.get? "tasks" with
  | some (.tuple items) => items.map fieldsOf
  | some (.list items) => items.map fieldsOf
  | some (.set items) => items.map fieldsOf
  | _ => []

/-- The ways to build a list of tasks: from tasks each of which was
built from its fields, or from mappings at once. -/
inductive BuiltFrom : List (Fields Value) → TaskList → Prop
  | ofTasks {given : List (Fields Value)} {tasks : List Task} {list : TaskList}
      (each : List.Forall₂ (fun fields task => Task.ofFields fields = .ok task) given tasks)
      (built : TaskList.ofTasks tasks = .ok list) : BuiltFrom given list
  | ofFields {fields : Fields Value} {list : TaskList}
      (built : TaskList.ofFields fields = .ok list) :
      BuiltFrom (givenTasks fields) list

theorem tasks_of_make {tasks : List Task} {list : TaskList} (made : make tasks = .ok list) :
    list.tasks = tasks := by
  unfold make at made
  split at made
  · cases made
  · cases made
    rfl

theorem forall₂_of_read {fields : Fields Value} {list : TaskList}
    (built : TaskList.read fields = .ok list) :
    List.Forall₂ (fun fields task => Task.read fields = .ok task)
      (givenTasks fields) list.tasks := by
  unfold TaskList.read Coercion.optional at built
  unfold givenTasks
  cases given : fields.get? "tasks" with
  | none =>
      rw [given] at built
      rw [tasks_of_make built]
      exact .nil
  | some value =>
      rw [given] at built
      dsimp only at built
      split at built
      · rename_i tasks within
        obtain ⟨items, isRow, each⟩ := Coercion.forall₂_of_tuple (Reading.eq_ok_of_within within)
        have rows : List.Forall₂ (fun fields task => Task.read fields = .ok task)
            (items.map fun item => match item with
              | .mapping entries => Coercion.textFields entries
              | _ => []) tasks := by
          refine List.forall₂_map_left_iff.mpr (each.imp fun item task isTask => ?_)
          cases item with
          | mapping entries => exact isTask
          | _ => cases isTask
        rw [tasks_of_make built]
        rcases isRow with isTuple | isList | isSet
        · rw [isTuple]
          exact rows
        · rw [isList]
          exact rows
        · rw [isSet]
          exact rows
      · cases built

theorem forall₂_of_builtFrom {given : List (Fields Value)} {list : TaskList}
    (built : BuiltFrom given list) :
    List.Forall₂ (fun fields task => Task.read fields = .ok task) given list.tasks := by
  cases built with
  | ofTasks each made =>
      rw [tasks_of_make (Reading.eq_ok_of_toRecord made)]
      exact each.imp fun _ _ isTask => Reading.eq_ok_of_toRecord isTask
  | ofFields made => exact forall₂_of_read (Reading.eq_ok_of_toRecord made)

/-! ### Upstreams that are looked up -/

variable (list : TaskList)

def awaited (task : Task) : List Task := task.upstreams.filterMap (list.tasks[·]?)

theorem get?_ofNat (position : Nat) : list.get? (Int.ofNat position) = list.tasks[position]? := by
  have counted : ¬Int.ofNat position < 0 := Int.not_lt.mpr (Int.natCast_nonneg position)
  rw [get?, if_neg counted]
  exact if_neg counted

theorem getElem?_upstream {task : Task} (member : task ∈ list.tasks) {upstream : Nat}
    (waits : upstream ∈ task.upstreams) :
    ∃ other, list.tasks[upstream]? = some other ∧ other.index = upstream := by
  obtain ⟨position, found⟩ := List.mem_iff_getElem?.mp member
  have place := list.placed position task found
  have early := task.upstreams_lt upstream waits
  obtain ⟨within, _⟩ := List.getElem?_eq_some_iff.mp found
  have inside : upstream < list.tasks.length := by omega
  have there := List.getElem?_eq_getElem inside
  exact ⟨_, there, list.placed upstream _ there⟩

theorem index_awaited {task : Task} (member : task ∈ list.tasks) :
    (list.awaited task).map (·.index) = task.upstreams := by
  have each : ∀ upstream ∈ task.upstreams,
      (list.tasks[upstream]?).map (·.index) = some upstream := by
    intro upstream waits
    obtain ⟨other, there, same⟩ := list.getElem?_upstream member waits
    rw [there, Option.map_some, same]
  rw [awaited, List.map_filterMap, List.filterMap_congr each, List.filterMap_some]

theorem mapM_eq_some_map {α β : Type} {f : α → Option β} {g : α → β} {items : List α}
    (each : ∀ item ∈ items, f item = some (g item)) : items.mapM f = some (items.map g) := by
  induction items with
  | nil => rfl
  | cons first rest ih =>
      obtain ⟨here, later⟩ := List.forall_mem_cons.mp each
      rw [List.mapM_cons, here, ih later]
      rfl

end TaskList

namespace Workflow

variable (workflow : Workflow)

theorem namesAt_upstreams {task : Task} (member : task ∈ workflow.tasks.tasks) :
    workflow.namesAt task.upstreams = some ((workflow.tasks.awaited task).map (·.name)) := by
  have each : ∀ other ∈ workflow.tasks.awaited task,
      (workflow.tasks.get? (Int.ofNat other.index)).map (·.name) = some other.name := by
    intro other awaited
    obtain ⟨upstream, waits, there⟩ := List.mem_filterMap.mp awaited
    rw [TaskList.get?_ofNat, workflow.tasks.placed upstream other there, there]
    rfl
  have names := TaskList.mapM_eq_some_map each
  rw [namesAt, ← workflow.tasks.index_awaited member, List.mapM_map]
  exact names

def awaitedPairs : List (String × String) :=
  workflow.tasks.tasks.flatMap fun task => (workflow.tasks.awaited task).map fun other =>
    (task.name, other.name)

theorem edges_eq : workflow.edges = some workflow.awaitedPairs := by
  have each : ∀ task ∈ workflow.tasks.tasks,
      ((workflow.namesAt task.upstreams).map (·.map fun upstream => (task.name, upstream))) =
        some ((workflow.tasks.awaited task).map fun other => (task.name, other.name)) := by
    intro task member
    rw [workflow.namesAt_upstreams member, Option.map_some, List.map_map]
    rfl
  rw [edges, TaskList.mapM_eq_some_map each, Option.map_some, awaitedPairs, List.flatMap]

theorem upstreamNames_eq (name : String) :
    workflow.upstreamNames name = match workflow.tasks.find? name with
      | some task => .ok ((workflow.tasks.awaited task).map (·.name))
      | none => .error (.unknown name) := by
  rw [upstreamNames]
  cases found : workflow.tasks.find? name with
  | none => rfl
  | some task =>
      have names := workflow.namesAt_upstreams (List.mem_of_find?_eq_some found)
      dsimp only
      rw [names]

end Workflow

/-! ### Built lists -/

/-- What it means that a list of tasks that was built from fields refers only to itself. -/
structure TaskList.RefersToItself (given : List (Fields Value)) (list : TaskList) : Prop where
  size : list.size = given.length
  seated : ∀ position fields, given[position]? = some fields →
    ∃ task : Task, list.tasks[position]? = some task ∧ task.SeatedBy fields position
  awaited : ∀ task ∈ list.tasks, (list.awaited task).map (·.index) = task.upstreams
  acyclic : ∀ task, ¬Relation.TransGen list.WaitsFor task task
  edges : ∀ workflow : Workflow, workflow.tasks = list → workflow.edges = some workflow.awaitedPairs
  upstreamNames : ∀ workflow : Workflow, workflow.tasks = list → ∀ name,
    workflow.upstreamNames name = match list.find? name with
      | some task => .ok ((list.awaited task).map (·.name))
      | none => .error (.unknown name)

/-- Every list of tasks that can be built, one task after the other or from mappings, refers only to
itself: its tasks stand where their indexes say, they wait for distinct earlier tasks, and looking
up what a task waits for never fails and never comes back. -/
theorem TaskList.refersToItself_of_builtFrom {given : List (Fields Value)} {list : TaskList}
    (built : BuiltFrom given list) : list.RefersToItself given := by
  have rows := forall₂_of_builtFrom built
  exact
    { size := rows.length_eq.symm
      seated := by
        intro position fields there
        obtain ⟨within, isFields⟩ := List.getElem?_eq_some_iff.mp there
        have inside : position < list.tasks.length := rows.length_eq ▸ within
        have found := List.getElem?_eq_getElem inside
        have read : Task.read fields = .ok list.tasks[position] := isFields ▸ rows.get within inside
        refine ⟨_, found, ?_⟩
        have seated := Task.seatedBy_of_read read
        rw [list.placed position _ found] at seated
        exact seated
      awaited := fun task member => list.index_awaited member
      acyclic := fun task cycle => Nat.lt_irrefl _ (index_lt_of_waitsFor cycle)
      edges := fun workflow _ => workflow.edges_eq
      upstreamNames := fun workflow same name => same ▸ workflow.upstreamNames_eq name }

/-- Fields of three tasks with a truth value, a numeral and a float
for their indexes, and a set of upstreams. -/
def TaskList.looseFields : List (Fields Value) :=
  [[("name", .text "loose"), ("index", .bool false), ("kind", .text "group")],
    [("name", .text "+a"), ("index", .text " 1 "), ("parent_index", .int 0)],
    [("name", .text "+b"), ("index", .float (Binary64.ofInt 2)), ("parent_index", .text "0"),
      ("upstream_indexes", .set [.bool true])]]

theorem TaskList.refersToItself_of_builtFrom_loose :
    ∃ list, BuiltFrom looseFields list ∧ list.RefersToItself looseFields := by
  obtain ⟨list, built⟩ : ∃ list,
      TaskList.ofFields [("tasks", .list (looseFields.map Value.ofFields))] = .ok list := ⟨_, rfl⟩
  have isBuilt : BuiltFrom looseFields list := .ofFields built
  exact ⟨list, isBuilt, refersToItself_of_builtFrom isBuilt⟩

end TaskGraph
