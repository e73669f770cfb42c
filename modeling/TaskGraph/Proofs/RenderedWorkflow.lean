import TaskGraph.Artifact
import TaskGraph.Proofs.ArtifactSchema
import TaskGraph.Proofs.PlainDocuments
import TaskGraph.Proofs.Acceptance
set_option autoImplicit false

/-! Rendering compiled workflows. The options of every task and the metadata are frozen copies of
values that come from the definition, so the artifact of a document is written, and its text is read
as the mapping that the workflow is. -/

namespace TaskGraph

variable {holds : Value → Prop}

/-! ### Where options come from -/

namespace Compiler

theorem holds_rename {title : Except Problem String} {nodes renamed : List Node}
    (same : rename title nodes = .ok renamed) (each : ∀ node ∈ nodes, node.config.Holds holds) :
    ∀ node ∈ renamed, node.config.Holds holds := by
  cases nodes with
  | nil =>
      cases same
      exact each
  | cons root rest =>
      cases title with
      | error problem => cases same
      | ok name =>
          -- Only the name of the first node changes.
          cases same
          obtain ⟨first, others⟩ := List.forall_mem_cons.mp each
          exact List.forall_mem_cons.mpr ⟨first, others⟩

variable {label : String} {title : Except Problem String} {root : Config}

theorem frozen_of_compileTasksAs (hereditary : Hereditary holds) (whole : root.Holds holds)
    {list : TaskList} (compiled : (compileTasksAs label title root).result = .ok list) :
    ∀ task ∈ list.tasks, ∃ source : Config, source.Holds holds ∧ task.config = source.freeze := by
  unfold compileTasksAs at compiled
  dsimp only at compiled
  split at compiled
  · cases compiled
  · cases renamed : rename title (walkRoot label root).nodes with
    | error rejection =>
        rw [renamed] at compiled
        cases compiled
    | ok nodes =>
        rw [renamed] at compiled
        cases built : lower nodes with
        | error rejection =>
            simp only [Except.bind, built] at compiled
            cases compiled
        | ok tasks =>
            simp only [Except.bind, built] at compiled
            cases compiled
            intro task member
            obtain ⟨node, inside, lowers⟩ := exists_left_of_forall₂ (lowers_of_eq_ok built) member
            exact ⟨node.config, holds_rename renamed (holds_walkRoot hereditary whole).nodes
              node inside, lowers.config⟩

/-- The metadata and the options of all tasks are frozen copies of what the definition holds. -/
theorem frozen_of_compileAs (hereditary : Hereditary holds) (whole : root.Holds holds)
    {workflow : Workflow} (compiled : (compileAs label title root).result = .ok workflow) :
    (∃ source : Config, source.Holds holds ∧ workflow.metadata = source.freeze) ∧
      ∀ task ∈ workflow.tasks.tasks, ∃ source : Config, source.Holds holds ∧
        task.config = source.freeze := by
  unfold compileAs at compiled
  dsimp only at compiled
  split at compiled
  · cases compiled
  · rename_i list built
    split at compiled
    · cases compiled
    · rename_i _ _ metadata _ read
      cases compiled
      obtain ⟨_, same⟩ := (Config.nested_eq_ok_iff root "meta" metadata).mp read
      exact ⟨⟨metadata, same ▸ Config.holds_below hereditary whole "meta", rfl⟩,
        frozen_of_compileTasksAs hereditary whole built⟩
    · cases compiled

theorem frozen_of_compileValue (hereditary : Hereditary holds) {name definition : Value}
    (whole : holds definition) {workflow : Workflow}
    (compiled : (compileValue name definition).result = .ok workflow) :
    (∃ source : Config, source.Holds holds ∧ workflow.metadata = source.freeze) ∧
      ∀ task ∈ workflow.tasks.tasks, ∃ source : Config, source.Holds holds ∧
        task.config = source.freeze := by
  unfold compileValue at compiled
  split at compiled
  · cases compiled
  · rename_i root isRoot
    exact frozen_of_compileAs hereditary
      (Config.holds_ofDefinition hereditary isRoot whole) compiled

theorem counted_of_compileValue {name definition : Value} {workflow : Workflow}
    (compiled : (compileValue name definition).result = .ok workflow) :
    ∀ task ∈ workflow.tasks.tasks, ∀ p, task.parent = some p → 0 ≤ p := by
  unfold compileValue at compiled
  split at compiled
  · cases compiled
  · exact counted_of_compileAs compiled

end Compiler

/-! ### Data -/

theorem Config.isData_freeze {source : Config} (each : source.Holds Value.IsDocument) :
    source.freeze.toMapping.IsData := by
  refine Value.isData_ofWrites ?_
  rw [Value.normaliseFields_eq_map, List.forall_mem_map]
  exact fun field member => Value.isData_normalise (each field member)

/-- A configuration whose options have no more than the most levels. -/
def Config.IsShallow (config : Config) : Prop :=
  ∀ field ∈ config.fields, field.2.levels ≤ mostLevels

instance (config : Config) : Decidable config.IsShallow :=
  inferInstanceAs (Decidable (∀ field ∈ config.fields, field.2.levels ≤ mostLevels))

theorem Config.levels_le_iff (config : Config) :
    config.toMapping.levels ≤ mostLevels + 1 ↔ config.IsShallow :=
  Value.levels_ofFields_le_iff

namespace Task

/-- A task as a mapping of its fields, with its options as they are. -/
def contents (task : Task) : Value :=
  Value.ofFields (task.fieldsWith task.config.toMapping ++ [("is_group", .bool task.isGroup)])

variable {task : Task}

theorem toDict_eq_contents (data : task.config.toMapping.IsData)
    (shallow : task.config.IsShallow) : task.toDict = .ok task.contents := by
  rw [toDict, Config.plain, Value.plain_of_isData data,
    if_pos (task.config.levels_le_iff.mpr shallow)]
  rfl

theorem toDict_of_not_isShallow (data : task.config.toMapping.IsData)
    (deep : ¬task.config.IsShallow) : task.toDict = .error .tooDeep := by
  rw [toDict, Config.plain, Value.plain_of_isData data,
    if_neg fun fits => deep (task.config.levels_le_iff.mp fits)]
  rfl

theorem isData_contents (data : task.config.toMapping.IsData) : task.contents.IsData := by
  have names : ["name", "index", "parent_index", "upstream_indexes", "kind", "config",
      "is_group"].Nodup := by decide
  refine .ofFields names ?_
  refine List.forall_mem_cons.mpr
    ⟨.text task.name, List.forall_mem_cons.mpr ⟨.int (Int.ofNat task.index),
    List.forall_mem_cons.mpr ⟨?parent, List.forall_mem_cons.mpr
    ⟨?upstreams, List.forall_mem_cons.mpr ⟨.text task.kind.word,
    List.forall_mem_cons.mpr ⟨data, List.forall_mem_singleton.mpr (.bool task.isGroup)⟩⟩⟩⟩⟩⟩
  case parent =>
    dsimp only
    cases task.parent with
    | none => exact .null
    | some parent => exact .int parent
  case upstreams =>
    exact .list (List.forall_mem_map.mpr fun upstream _ => .int (Int.ofNat upstream))

end Task

theorem serialAll_eq_map {α : Type} {serial : α → Except SerialError Value} {contents : α → Value}
    {items : List α} (each : ∀ item ∈ items, serial item = .ok (contents item)) :
    serialAll serial items = .ok (items.map contents) := by
  induction items with
  | nil => rfl
  | cons item rest ih =>
      obtain ⟨first, others⟩ := List.forall_mem_cons.mp each
      rw [serialAll, first, ih others]
      rfl

theorem serialAll_eq_error {α : Type} {serial : α → Except SerialError Value} {cause : SerialError}
    {items : List α}
    (each : ∀ item ∈ items, (∃ value, serial item = .ok value) ∨ serial item = .error cause)
    (fails : ∃ item ∈ items, serial item = .error cause) :
    serialAll serial items = .error cause := by
  induction items with
  | nil =>
      obtain ⟨item, member, _⟩ := fails
      cases member
  | cons item rest ih =>
      obtain ⟨⟨value, first⟩ | first, others⟩ := List.forall_mem_cons.mp each
      · obtain ⟨failing, member, failed⟩ := fails
        obtain rfl | later := List.mem_cons.mp member
        · rw [first] at failed
          cases failed
        · rw [serialAll, first, ih others ⟨failing, later, failed⟩]
          rfl
      · rw [serialAll, first]

namespace Workflow

/-- A workflow as a mapping, with its metadata and the options of its tasks as they are. -/
def contents (workflow : Workflow) : Value :=
  Value.ofFields
    [("name", .text workflow.name), ("meta", workflow.metadata.toMapping),
      ("tasks", .list (workflow.tasks.tasks.map Task.contents))]

variable {workflow : Workflow}

theorem toDict_eq_contents (data : ∀ task ∈ workflow.tasks.tasks, task.config.toMapping.IsData)
    (shallow : ∀ task ∈ workflow.tasks.tasks, task.config.IsShallow) :
    workflow.toDict = .ok workflow.contents := by
  rw [toDict, serialAll_eq_map fun task member =>
    Task.toDict_eq_contents (data task member) (shallow task member)]
  rfl

theorem toDict_of_not_isShallow
    (data : ∀ task ∈ workflow.tasks.tasks, task.config.toMapping.IsData)
    (deep : ¬∀ task ∈ workflow.tasks.tasks, task.config.IsShallow) :
    workflow.toDict = .error .tooDeep := by
  have each : ∀ task ∈ workflow.tasks.tasks,
      (∃ dict, task.toDict = .ok dict) ∨ task.toDict = .error .tooDeep := by
    intro task member
    by_cases shallow : task.config.IsShallow
    · exact Or.inl ⟨_, Task.toDict_eq_contents (data task member) shallow⟩
    · exact Or.inr (Task.toDict_of_not_isShallow (data task member) shallow)
  simp only [not_forall, exists_prop] at deep
  obtain ⟨task, member, deepTask⟩ := deep
  rw [toDict, serialAll_eq_error each
    ⟨task, member, Task.toDict_of_not_isShallow (data task member) deepTask⟩]
  rfl

theorem isData_contents (metadata : workflow.metadata.toMapping.IsData)
    (tasks : ∀ task ∈ workflow.tasks.tasks, task.config.toMapping.IsData) :
    workflow.contents.IsData := by
  have names : ["name", "meta", "tasks"].Nodup := by decide
  refine .ofFields names ?_
  exact List.forall_mem_cons.mpr ⟨.text workflow.name, List.forall_mem_cons.mpr ⟨metadata,
    List.forall_mem_singleton.mpr (.list (List.forall_mem_map.mpr fun task member =>
      Task.isData_contents (tasks task member)))⟩⟩

end Workflow

namespace Compiler

variable {name definition : Value} {workflow : Workflow}

/-! ### Rendering -/

theorem data_of_compileValue (document : definition.IsDocument)
    (compiled : (compileValue name definition).result = .ok workflow) :
    workflow.metadata.toMapping.IsData ∧
      ∀ task ∈ workflow.tasks.tasks, task.config.toMapping.IsData := by
  obtain ⟨⟨metadata, held, frozen⟩, tasks⟩ :=
    frozen_of_compileValue Value.hereditary_isDocument document compiled
  refine ⟨frozen ▸ Config.isData_freeze held, fun task member => ?_⟩
  obtain ⟨source, holds, same⟩ := tasks task member
  exact same ▸ Config.isData_freeze holds

/-- What is left of rendering when the mapping of a compiled workflow was checked. -/
theorem render_eq (compiled : (compileValue name definition).result = .ok workflow)
    (dict : workflow.toDict = .ok workflow.contents) :
    Artifact.render workflow .builtIn =
      ((Json.ofValue workflow.contents).mapError Artifact.Error.serial).map (Json.write true) := by
  have valid := Schema.validateCompiled_toDict (counted_of_compileValue compiled) dict
  unfold Artifact.render Artifact.document
  rw [dict]
  dsimp only
  rw [Artifact.Contract.check, valid]
  cases Json.ofValue workflow.contents <;> rfl

theorem render_of_not_isWritable (document : definition.IsDocument)
    (compiled : (compileValue name definition).result = .ok workflow)
    (shallow : ∀ task ∈ workflow.tasks.tasks, task.config.IsShallow)
    (long : workflow.contents.isWritable = false) :
    Artifact.render workflow .builtIn = .error (.serial .tooLong) := by
  obtain ⟨metadata, options⟩ := data_of_compileValue document compiled
  rw [render_eq compiled (Workflow.toDict_eq_contents options shallow),
    Json.ofValue_eq_error (Workflow.isData_contents metadata options) long]
  rfl

theorem render_of_not_isShallow (document : definition.IsDocument)
    (compiled : (compileValue name definition).result = .ok workflow)
    (deep : ¬∀ task ∈ workflow.tasks.tasks, task.config.IsShallow) :
    workflow.toDict = .error .tooDeep ∧
      Artifact.render workflow .builtIn = .error (.serial .tooDeep) := by
  have dict := Workflow.toDict_of_not_isShallow (data_of_compileValue document compiled).2 deep
  refine ⟨dict, ?_⟩
  rw [Artifact.render, Artifact.document, dict]
  rfl

/-- The mapping of a workflow that a document is compiled into has the metadata and the options of
the tasks as they were compiled, unless an option has more than the most levels; then there is
neither a mapping nor a text. The mapping is rendered exactly if all integers in it can be written,
and then its text is read as this mapping. -/
theorem renders_and_reads_back (document : definition.IsDocument)
    (compiled : (compileValue name definition).result = .ok workflow) :
    ((∀ task ∈ workflow.tasks.tasks, task.config.IsShallow) →
      workflow.toDict = .ok workflow.contents ∧
        (workflow.contents.isWritable = true →
          ∃ text json, Artifact.render workflow .builtIn = .ok text ∧ Json.read text = .ok json ∧
            json.toValue = workflow.contents) ∧
        (workflow.contents.isWritable = false →
          Artifact.render workflow .builtIn = .error (.serial .tooLong))) ∧
      ((¬∀ task ∈ workflow.tasks.tasks, task.config.IsShallow) →
        workflow.toDict = .error .tooDeep ∧
          Artifact.render workflow .builtIn = .error (.serial .tooDeep)) := by
  obtain ⟨metadata, options⟩ := data_of_compileValue document compiled
  refine ⟨fun shallow => ?_, render_of_not_isShallow document compiled⟩
  have dict := Workflow.toDict_eq_contents options shallow
  refine ⟨dict, fun writable => ?_, render_of_not_isWritable document compiled shallow⟩
  obtain ⟨json, ofContents, read, same⟩ :=
    Json.exists_read_write true (Workflow.isData_contents metadata options) writable
  refine ⟨Json.write true json, json, ?_, read, same⟩
  rw [render_eq compiled dict, ofContents]
  rfl

def notes : Value :=
  .ofFields
    [("meta", .ofFields [("owner", .text "Zoë")]),
      ("retries", .list [.int (-2), .null, .bool true]),
      ("+draft", .ofFields [("sh>", .text "echo \"one\ntwo\"")])]

theorem isDocument_notes : notes.IsDocument := by
  refine .ofFields (List.forall_mem_cons.mpr ⟨.ofFields (List.forall_mem_singleton.mpr (.text _)),
    List.forall_mem_cons.mpr ⟨.list ?_, List.forall_mem_singleton.mpr
      (.ofFields (List.forall_mem_singleton.mpr (.text _)))⟩⟩)
  exact List.forall_mem_cons.mpr
    ⟨.int _, List.forall_mem_cons.mpr ⟨.null, List.forall_mem_singleton.mpr (.bool _)⟩⟩

theorem renders_and_reads_back_notes :
    ∃ workflow, (compileValue (.text "notes") notes).result = .ok workflow ∧
      workflow.toDict = .ok workflow.contents ∧
      ∃ text json, Artifact.render workflow .builtIn = .ok text ∧ Json.read text = .ok json ∧
        json.toValue = workflow.contents := by
  obtain ⟨workflow, compiled, writable, shallow⟩ : ∃ workflow,
      (compileValue (.text "notes") notes).result = .ok workflow ∧
        workflow.contents.isWritable = true ∧
        ∀ task ∈ workflow.tasks.tasks, task.config.IsShallow :=
    ⟨_, rfl, by decide +kernel, by decide +kernel⟩
  obtain ⟨dict, renders, _⟩ := (renders_and_reads_back isDocument_notes compiled).1 shallow
  exact ⟨workflow, compiled, dict, renders writable⟩

def counter (number : Int) : Value := .ofFields [("meta", .ofFields [("count", .int number)])]

theorem isDocument_counter (number : Int) : (counter number).IsDocument :=
  .ofFields (List.forall_mem_singleton.mpr
    (.ofFields (List.forall_mem_singleton.mpr (.int number))))

theorem exists_compileValue_counter (number : Int) :
    ∃ workflow, (compileValue (.text "counter") (counter number)).result = .ok workflow ∧
      workflow.metadata.toMapping = .ofFields [("count", .int number)] := by
  let root := Config.ofWrites [("meta", .ofFields [("count", .int number)])]
  have isRoot : Config.ofDefinition (counter number) = .ok root := rfl
  have idle : ∀ key ∈ ["meta"], isSubtaskKey key = false ∧ isTaskKey key = false := by decide
  have absent : ∀ key ∈ ["default", "parallel", "after"], root.get? key = none :=
    List.forall_mem_cons.mpr ⟨rfl,
      List.forall_mem_cons.mpr ⟨rfl, List.forall_mem_singleton.mpr rfl⟩⟩
  have accepted : ∀ site ∈ (Site.root "counter" root).preorder, site.Accepted :=
    Site.accepted_of_idle idle absent
  obtain ⟨workflow, result, compiled⟩ :=
    exists_compiled (by decide) (Config.stored_ofDefinition isRoot) trivial accepted
  refine ⟨workflow, (compileValue_of_root isRoot).trans result, ?_⟩
  rw [compiled.metadata]
  rfl

/-- A definition that counts too far to be written is compiled, but the workflow is not rendered. -/
theorem overlong_not_rendered :
    (counter overlong).IsDocument ∧ ∃ workflow,
      (compileValue (.text "counter") (counter overlong)).result = .ok workflow ∧
        ∀ text, Artifact.render workflow .builtIn ≠ .ok text := by
  have long := isWritable_overlong
  generalize overlong = number at long ⊢
  obtain ⟨workflow, compiled, metadata⟩ := exists_compileValue_counter number
  have unwritable : workflow.contents.isWritable = false := by
    rw [Bool.eq_false_iff, ne_eq, Workflow.contents, Value.isWritable_ofFields, metadata]
    intro writable
    have below := writable ("meta", .ofFields [("count", .int number)]) (by simp)
    have count := (Value.isWritable_ofFields _).mp below ("count", .int number) List.mem_cons_self
    rw [Value.isWritable, long] at count
    cases count
  have document := isDocument_counter number
  refine ⟨document, workflow, compiled, fun text rendered => ?_⟩
  by_cases shallow : ∀ task ∈ workflow.tasks.tasks, task.config.IsShallow
  · rw [render_of_not_isWritable document compiled shallow unwritable] at rendered
    cases rendered
  · rw [(render_of_not_isShallow document compiled shallow).2] at rendered
    cases rendered

end Compiler
end TaskGraph
