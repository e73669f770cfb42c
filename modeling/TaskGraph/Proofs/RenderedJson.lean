import TaskGraph.Proofs.RenderedWorkflow
import TaskGraph.Proofs.ValueFloats
set_option autoImplicit false

/-! Which compiled workflows are rendered, and which of their texts are JSON. The options of a task
are brought into plain form first, so their bytes must be texts, and no number that is not finite is
left in them. The metadata is written as it is: bytes do no harm there, but keys within tuples must
be names, and a number that is not finite makes a text that is not JSON. -/

namespace TaskGraph

variable {holds : Binary64 → Prop}

/-! ### Mappings of tasks -/

section
variable {α : Type} {serial : α → Except SerialError Value}

theorem forall_mem_iff_of_built {items : List α} {values : List Value}
    (built : List.Forall₂ (fun item value => serial item = .ok value) items values)
    {property : Value → Prop} :
    (∀ value ∈ values, property value) ↔ ∀ item ∈ items, ∀ value, serial item = .ok value →
      property value := by
  refine forall_mem_iff_of_forall₂ built fun item _ value here => ?_
  rw [here]
  exact ⟨fun holds _ same => Except.ok.inj same ▸ holds, fun each => each value rfl⟩

end

namespace Task

variable {task : Task} {data : Value}

theorem exists_toDict_iff (task : Task) :
    (∃ data, task.toDict = .ok data) ↔
      task.config.toMapping.HasPlain ∧ task.config.IsShallow := by
  rw [toDict, exists_map_eq_ok_iff, Config.plain, Value.exists_plain_iff, Config.levels_le_iff]

theorem writable_iff (task : Task) :
    ((task.config.toMapping.HasPlain ∧ task.config.IsShallow) ∧
        ∀ data, task.toDict = .ok data → data.isWritable = true) ↔
      ∃ data, task.toDict = .ok data ∧ data.isWritable = true := by
  rw [← task.exists_toDict_iff]
  constructor
  · rintro ⟨⟨data, dict⟩, each⟩
    exact ⟨data, dict, each data dict⟩
  · rintro ⟨data, dict, writable⟩
    refine ⟨⟨data, dict⟩, fun found same => ?_⟩
    rw [dict] at same
    cases same
    exact writable

/-- What a property must hold of in the mapping of a task, if it
holds of everything but the options. -/
theorem forall_mem_toDict {property : Value → Prop} (dict : task.toDict = .ok data)
    (options : ∀ form, task.config.plain = .ok form → property form)
    (text : ∀ content, property (.text content)) (int : ∀ number, property (.int number))
    (null : property .null) (bool : ∀ truth, property (.bool truth))
    (list : ∀ items : List Value, (∀ item ∈ items, property item) → property (.list items)) :
    ∃ fields : Fields Value, data = Value.ofFields fields ∧ fields.Distinct ∧
      ∀ field ∈ fields, property field.2 := by
  obtain ⟨form, plain, rfl⟩ := map_eq_ok_iff.mp dict
  have names : ["name", "index", "parent_index", "upstream_indexes", "kind", "config",
      "is_group"].Nodup := by decide
  refine ⟨_, rfl, names, ?_⟩
  refine List.forall_mem_cons.mpr
    ⟨text task.name, List.forall_mem_cons.mpr ⟨int (Int.ofNat task.index),
    List.forall_mem_cons.mpr ⟨?parent, List.forall_mem_cons.mpr ⟨?upstreams,
    List.forall_mem_cons.mpr ⟨text task.kind.word, List.forall_mem_cons.mpr
    ⟨options form plain, List.forall_mem_singleton.mpr (bool task.isGroup)⟩⟩⟩⟩⟩⟩
  case parent =>
    dsimp only
    cases task.parent with
    | none => exact null
    | some parent => exact int parent
  case upstreams =>
    exact list _ (List.forall_mem_map.mpr fun upstream _ => int (Int.ofNat upstream))

theorem isPlain_of_toDict (dict : task.toDict = .ok data) : data.IsPlain := by
  obtain ⟨fields, rfl, distinct, each⟩ :=
    forall_mem_toDict dict (fun _ => Value.isPlain_of_plain) .text .int .null .bool fun _ => .list
  exact .ofFields distinct each

theorem eachFloat_of_toDict (whole : task.config.toMapping.EachFloat holds)
    (dict : task.toDict = .ok data) :
    data.EachFloat fun number => holds number ∧ number.isFinite = true := by
  obtain ⟨fields, rfl, _, each⟩ := forall_mem_toDict dict
    (fun _ => Value.eachFloat_of_plain whole) .text .int .null .bool fun _ => .list
  exact .ofFields each

end Task

/-! ### Rendering -/

namespace Artifact

variable {workflow : Workflow}

/-- The document of a workflow whose parents are counted from the front is that of its mapping. -/
theorem document_eq_ok_iff
    (counted : ∀ task ∈ workflow.tasks.tasks, ∀ p, task.parent = some p → 0 ≤ p) (written : Json) :
    document workflow .builtIn = .ok written ↔ ∃ data, workflow.toDict = .ok data ∧
      Json.ofValue data = .ok written := by
  unfold document
  cases dict : workflow.toDict with
  | error cause =>
      constructor
      · intro made
        cases made
      · rintro ⟨_, ⟨⟩, _⟩
  | ok data =>
      dsimp only
      rw [Contract.check, Schema.validateCompiled_toDict counted dict]
      simp only [Except.ok.injEq, exists_eq_left']
      cases Json.ofValue data with
      | error cause => constructor <;> intro made <;> cases made
      | ok found => rw [Except.ok.injEq, Except.ok.injEq]

theorem render_eq_ok_iff (counted : ∀ task ∈ workflow.tasks.tasks, ∀ p, task.parent = some p →
    0 ≤ p) (text : List Char) :
    render workflow .builtIn = .ok text ↔
      ∃ written, (∃ data, workflow.toDict = .ok data ∧ Json.ofValue data = .ok written) ∧
        Json.write true written = text := by
  simp only [render, map_eq_ok_iff, document_eq_ok_iff counted]

end Artifact

namespace Workflow

variable {workflow : Workflow} {data : Value}

theorem toDict_eq_ok_iff :
    workflow.toDict = .ok data ↔
      ∃ dicts, List.Forall₂ (fun task dict => Task.toDict task = .ok dict)
        workflow.tasks.tasks dicts ∧
        Value.ofFields
          [("name", .text workflow.name), ("meta", workflow.metadata.toMapping),
            ("tasks", .list dicts)] = data := by
  simp only [toDict, map_eq_ok_iff, serialAll_eq_ok_iff]

theorem exists_toDict_iff (workflow : Workflow) :
    (∃ data, workflow.toDict = .ok data) ↔ ∀ task ∈ workflow.tasks.tasks,
      task.config.toMapping.HasPlain ∧ task.config.IsShallow := by
  rw [toDict, exists_map_eq_ok_iff, serialAll_eq_mapM, exists_mapM_iff]
  exact forall₂_congr fun task _ => task.exists_toDict_iff

/-- The mapping of a workflow has a document if its metadata has one
and all integers of its tasks can be written. -/
theorem hasDocument_iff (dict : workflow.toDict = .ok data) :
    data.HasDocument ↔
      (∀ task ∈ workflow.tasks.tasks, ∀ part, task.toDict = .ok part → part.isWritable = true) ∧
        workflow.metadata.toMapping.HasDocument := by
  obtain ⟨dicts, built, rfl⟩ := toDict_eq_ok_iff.mp dict
  have tasks : (Value.list dicts).HasDocument ↔
      ∀ task ∈ workflow.tasks.tasks, ∀ part, task.toDict = .ok part → part.isWritable = true := by
    rw [Value.hasDocument_list_iff, forall_mem_iff_of_built built]
    exact forall₂_congr fun task _ => forall₂_congr fun part found =>
      (Task.isPlain_of_toDict found).hasDocument_iff
  rw [Value.hasDocument_ofFields, List.forall_mem_cons, List.forall_mem_cons,
    List.forall_mem_singleton, tasks]
  constructor
  · rintro ⟨_, metadata, each⟩
    exact ⟨each, metadata⟩
  · rintro ⟨each, metadata⟩
    exact ⟨.text _, metadata, each⟩

/-- Only the metadata brings numbers that are not finite into the document of a workflow. -/
theorem eachNumber_iff {also : Binary64 → Prop} (dict : workflow.toDict = .ok data)
    (options : ∀ task ∈ workflow.tasks.tasks, task.config.toMapping.EachFloat holds)
    (implies : ∀ number, holds number ∧ number.isFinite = true → also number) :
    data.EachNumber also ↔ workflow.metadata.toMapping.EachNumber also := by
  obtain ⟨dicts, built, rfl⟩ := toDict_eq_ok_iff.mp dict
  have tasks : (Value.list dicts).EachNumber also := by
    refine .list ((forall_mem_iff_of_built built).mpr fun task member part found => ?_)
    exact ((Task.eachFloat_of_toDict (options task member) found).imp implies).eachNumber
  rw [Value.eachNumber_ofFields, List.forall_mem_cons, List.forall_mem_cons,
    List.forall_mem_singleton]
  constructor
  · rintro ⟨_, metadata, _⟩
    exact metadata
  · intro metadata
    exact ⟨.text _, metadata, tasks⟩

end Workflow

theorem Config.eachFloat_freeze {source : Config} (each : source.Holds (Value.EachFloat holds)) :
    source.freeze.toMapping.EachFloat holds := by
  refine .ofWrites ?_
  rw [Value.normaliseFields_eq_map, List.forall_mem_map]
  exact fun field member => (each field member).normalise

namespace Compiler

variable {name definition : Value} {workflow : Workflow}

theorem exists_render_iff (compiled : (compileValue name definition).result = .ok workflow) :
    (∃ text, Artifact.render workflow .builtIn = .ok text) ↔
      (∀ task ∈ workflow.tasks.tasks, (task.config.toMapping.HasPlain ∧ task.config.IsShallow) ∧
        ∀ data, task.toDict = .ok data → data.isWritable = true) ∧
          workflow.metadata.toMapping.HasDocument := by
  simp only [Artifact.render_eq_ok_iff (counted_of_compileValue compiled)]
  constructor
  · rintro ⟨_, document, ⟨data, dict, written⟩, _⟩
    have plain := workflow.exists_toDict_iff.mp ⟨data, dict⟩
    have parts := (Workflow.hasDocument_iff dict).mp
      ((Value.exists_document_iff data).mp ⟨document, written⟩)
    exact ⟨fun task member => ⟨plain task member, parts.1 task member⟩, parts.2⟩
  · rintro ⟨tasks, metadata⟩
    obtain ⟨data, dict⟩ := workflow.exists_toDict_iff.mpr fun task member => (tasks task member).1
    obtain ⟨document, written⟩ := (Value.exists_document_iff data).mpr
      ((Workflow.hasDocument_iff dict).mpr ⟨fun task member => (tasks task member).2, metadata⟩)
    exact ⟨_, document, ⟨data, dict, written⟩, rfl⟩

theorem exists_render (compiled : (compileValue name definition).result = .ok workflow)
    (options : ∀ task ∈ workflow.tasks.tasks, ∃ data, task.toDict = .ok data ∧
      data.isWritable = true)
    (metadata : workflow.metadata.toMapping.HasDocument) :
    ∃ text, Artifact.render workflow .builtIn = .ok text :=
  (exists_render_iff compiled).mpr
    ⟨fun task member => task.writable_iff.mpr (options task member), metadata⟩

theorem isDocument_render_iff (doubles : definition.EachFloat Binary64.IsDouble)
    (compiled : (compileValue name definition).result = .ok workflow) {text : List Char}
    (rendered : Artifact.render workflow .builtIn = .ok text) :
    Json.Grammar.IsDocument text ↔ workflow.metadata.toMapping.EachNumber fun number =>
      number.isFinite = true := by
  obtain ⟨document, ⟨data, dict, written⟩, rfl⟩ :=
    (Artifact.render_eq_ok_iff (counted_of_compileValue compiled) text).mp rendered
  obtain ⟨⟨source, held, frozen⟩, tasks⟩ :=
    frozen_of_compileValue (Value.hereditary_eachFloat _) doubles compiled
  have metadata : workflow.metadata.toMapping.EachFloat Binary64.IsDouble :=
    frozen ▸ Config.eachFloat_freeze held
  have options : ∀ task ∈ workflow.tasks.tasks,
      task.config.toMapping.EachFloat Binary64.IsDouble := by
    intro task member
    obtain ⟨own, holds, same⟩ := tasks task member
    exact same ▸ Config.eachFloat_freeze holds
  -- That the floats are doubles is what makes their texts numbers by the grammar.
  have all : document.EachFloat Binary64.IsDouble :=
    (Value.eachFloat_document_iff data document written).mpr
    ((Workflow.eachNumber_iff dict options fun _ => And.left).mpr metadata.eachNumber)
  rw [Json.isDocument_write_iff true all, Value.eachFloat_document_iff data document written,
    Workflow.eachNumber_iff dict options fun _ => And.right]

/-- A compiled workflow is rendered exactly if the bytes and keys in its options have a plain form
and the options have no more than the most levels, the keys in its metadata are names, and no
integer in them is too long. If the floats of the definition are doubles, the text is then JSON
exactly if those that the metadata has as numbers are finite. -/
theorem renders_json_iff (doubles : definition.EachFloat Binary64.IsDouble)
    (compiled : (compileValue name definition).result = .ok workflow) :
    ((∃ text, Artifact.render workflow .builtIn = .ok text) ↔
      (∀ task ∈ workflow.tasks.tasks, (task.config.toMapping.HasPlain ∧ task.config.IsShallow) ∧
        ∀ data, task.toDict = .ok data → data.isWritable = true) ∧
          workflow.metadata.toMapping.HasDocument) ∧
    ∀ text, Artifact.render workflow .builtIn = .ok text →
      (Json.Grammar.IsDocument text ↔ workflow.metadata.toMapping.EachNumber fun number =>
        number.isFinite = true) :=
  ⟨exists_render_iff compiled, fun _ => isDocument_render_iff doubles compiled⟩

def half : Binary64 := .finite false (Nat.pow 2 52) (-53)

def sensors : Value :=
  .ofFields
    [("meta", .ofFields [("limit", .float half), ("seen", .set [.float (.nan 0)]),
      ("unit", .bytes [0x6d])]), ("since", .date ⟨2024, 1, 31⟩),
      ("+read", .ofFields [("sh>", .text "cat"), ("bound", .float (.infinite false))])]

theorem eachFloat_sensors : sensors.EachFloat Binary64.IsDouble := by
  have double : half.IsDouble := ⟨by decide, by decide, by decide⟩
  have metadata : (Value.ofFields [("limit", .float half), ("seen", .set [.float (.nan 0)]),
      ("unit", .bytes [0x6d])]).EachFloat Binary64.IsDouble :=
    .ofFields (List.forall_mem_cons.mpr ⟨.float double, List.forall_mem_cons.mpr
      ⟨.set (List.forall_mem_singleton.mpr (.float trivial)),
        List.forall_mem_singleton.mpr (.bytes _)⟩⟩)
  have subtask : (Value.ofFields
      [("sh>", .text "cat"), ("bound", .float (.infinite false))]).EachFloat Binary64.IsDouble :=
    .ofFields (List.forall_mem_cons.mpr ⟨.text _, List.forall_mem_singleton.mpr (.float trivial)⟩)
  exact .ofFields (List.forall_mem_cons.mpr ⟨metadata, List.forall_mem_cons.mpr ⟨.date _,
    List.forall_mem_singleton.mpr subtask⟩⟩)

theorem renders_json_iff_sensors :
    sensors.EachFloat Binary64.IsDouble ∧ ∃ workflow text,
      (compileValue (.text "sensors") sensors).result = .ok workflow ∧
      Artifact.render workflow .builtIn = .ok text ∧ Json.Grammar.IsDocument text := by
  obtain ⟨workflow, compiled, metadata, options⟩ : ∃ workflow,
      (compileValue (.text "sensors") sensors).result = .ok workflow ∧
        workflow.metadata.toMapping =
          .ofFields [("limit", .float half), ("seen", .set [.float (.nan 0)]),
            ("unit", .bytes [0x6d])] ∧
        ∀ task ∈ workflow.tasks.tasks, ∃ data, task.toDict = .ok data ∧ data.isWritable = true := by
    refine ⟨_, rfl, rfl, ?_⟩
    exact List.forall_mem_cons.mpr ⟨⟨_, rfl, by decide +kernel⟩,
      List.forall_mem_singleton.mpr ⟨_, rfl, by decide +kernel⟩⟩
  obtain ⟨renders, isJson⟩ := renders_json_iff eachFloat_sensors compiled
  have written : workflow.metadata.toMapping.HasDocument := by
    rw [metadata, Value.hasDocument_ofFields]
    exact List.forall_mem_cons.mpr ⟨.float half, List.forall_mem_cons.mpr ⟨.set rfl,
      List.forall_mem_singleton.mpr (.bytes _)⟩⟩
  have finite : workflow.metadata.toMapping.EachNumber fun number => number.isFinite = true := by
    rw [metadata, Value.eachNumber_ofFields]
    exact List.forall_mem_cons.mpr
      ⟨.float rfl, List.forall_mem_cons.mpr ⟨.set _, List.forall_mem_singleton.mpr (.bytes _)⟩⟩
  obtain ⟨text, rendered⟩ :=
    renders.mpr ⟨fun task member => task.writable_iff.mpr (options task member), written⟩
  exact ⟨eachFloat_sensors, workflow, text, compiled, rendered, (isJson text rendered).mpr finite⟩

def limited (limit : Binary64) : Value := .ofFields [("meta", .ofFields [("limit", .float limit)])]

/-- A limit that is not a number is compiled and rendered, but the text is not JSON. -/
theorem limited_nan_not_json :
    ∃ workflow text, (compileValue (.text "limited") (limited (.nan 0))).result = .ok workflow ∧
      Artifact.render workflow .builtIn = .ok text ∧ ¬Json.Grammar.IsDocument text := by
  have doubles : (limited (.nan 0)).EachFloat Binary64.IsDouble :=
    .ofFields (List.forall_mem_singleton.mpr
      (.ofFields (List.forall_mem_singleton.mpr (.float trivial))))
  obtain ⟨workflow, compiled, metadata, options⟩ : ∃ workflow,
      (compileValue (.text "limited") (limited (.nan 0))).result = .ok workflow ∧
        workflow.metadata.toMapping = .ofFields [("limit", .float (.nan 0))] ∧
        ∀ task ∈ workflow.tasks.tasks, ∃ data, task.toDict = .ok data ∧ data.isWritable = true :=
    ⟨_, rfl, rfl, List.forall_mem_singleton.mpr ⟨_, rfl, by decide +kernel⟩⟩
  have written : workflow.metadata.toMapping.HasDocument := by
    rw [metadata, Value.hasDocument_ofFields]
    exact List.forall_mem_singleton.mpr (.float _)
  obtain ⟨text, rendered⟩ := exists_render compiled options written
  refine ⟨workflow, text, compiled, rendered, fun isDocument => ?_⟩
  have finite := (isDocument_render_iff doubles compiled rendered).mp isDocument
  rw [metadata, Value.eachNumber_ofFields, List.forall_mem_singleton] at finite
  cases finite with
  | float isFinite => cases isFinite

end Compiler
end TaskGraph
