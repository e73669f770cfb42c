import TaskGraph.Proofs.OneForm
import TaskGraph.Proofs.Rearrangement
import TaskGraph.Proofs.RenderedJson
import TaskGraph.Proofs.TaskOptions
set_option autoImplicit false

/-! The two places of the metadata in a document. What the root declares as `meta` stands at the top
of the document as it is, and in plain form among the options of the first task. -/

namespace TaskGraph

/-! ### Places in documents -/

namespace Json

/-- The value of a name in an object; of a repeated name the last one. -/
def member? (name : String) : Json → Option Json
  | object members => Fields.get? name members.reverse
  | _ => none

def item? (place : Nat) : Json → Option Json
  | list items => items[place]?
  | _ => none

/-- An option of the first task, in the document of a workflow. -/
def rootOption? (document : Json) (name : String) : Option Json :=
  (document.member? "tasks").bind fun tasks => (tasks.item? 0).bind fun task =>
    (task.member? "config").bind (member? name)

theorem exists_member? {fields : Fields Value} {document : Json}
    (written : ofValue (Value.ofFields fields) = .ok document) (distinct : fields.Distinct)
    (name : String) {value : Value} (found : fields.get? name = some value) :
    ∃ part, ofValue value = .ok part ∧ document.member? name = some part := by
  rw [Value.ofFields, ofValue] at written
  obtain ⟨members, ofMembers, rfl⟩ := map_eq_ok_iff.mp written
  have rows := related_of_ofEntries ofMembers
  obtain ⟨part, ofPart, isMember⟩ := rows.exists_get? found
  refine ⟨part, ofPart, ?_⟩
  rw [member?, Fields.get?_reverse (rows.distinct distinct)]
  exact isMember

theorem exists_first_item? {first : Value} {rest : List Value} {document : Json}
    (written : ofValue (.list (first :: rest)) = .ok document) :
    ∃ part, ofValue first = .ok part ∧ document.item? 0 = some part := by
  rw [ofValue] at written
  obtain ⟨documents, ofItems, rfl⟩ := map_eq_ok_iff.mp written
  obtain ⟨part, ofFirst, others, _, rfl⟩ := ofList_cons_iff.mp ofItems
  exact ⟨part, ofFirst, rfl⟩

end Json

theorem Value.exists_plain_option {fields : Fields Value} (distinct : fields.Distinct)
    {form : Value} {room : Nat} (plain : (ofFields fields).plain (room + 1) = .ok form)
    {name : String} {value : Value} (found : fields.get? name = some value) :
    ∃ writes part, form = ofFields writes ∧ Fields.Distinct writes ∧ value.plain room = .ok part ∧
      Fields.get? name writes = some part := by
  rw [ofFields, Value.plain] at plain
  obtain ⟨writes, plainWrites, rfl⟩ := map_eq_ok_iff.mp plain
  have rows := related_of_plainEntries plainWrites
  obtain ⟨part, plainPart, isWrite⟩ := rows.exists_get? found
  have once := rows.distinct distinct
  exact ⟨writes, part, congrArg ofFields (Fields.ofWrites_eq_self once), once, plainPart, isWrite⟩

namespace Compiler

namespace Compiled

variable {name : String} {root : Config} {workflow : Workflow}
    (compiled : Compiled name root workflow)

include compiled

/-- What the root declares as `meta` is the metadata, and an option of the first task. -/
theorem metadata_of_root {entries : List (Value × Value)}
    (declared : root.get? "meta" = some (.mapping entries)) :
    ∃ first rest, workflow.tasks.tasks = first :: rest ∧
      first.config.get? "meta" = some workflow.metadata.toMapping := by
  have rows := compiled.lowers
  rw [Spot.layout_eq, List.forall₂_cons_left_iff] at rows
  obtain ⟨first, rest, both, _, shape⟩ := rows
  refine ⟨first, rest, shape, ?_⟩
  have metadata : workflow.metadata.toMapping = .mapping entries := by
    rw [Config.toMapping, Value.ofFields, compiled.metadata_fields,
      ← Config.entries_eq_of_stored compiled.stored declared]
  have here : Spot.root name root ∈ (Spot.root name root).layout := by
    rw [Spot.layout_eq]
    exact List.mem_cons_self
  have declares : (Spot.root name root).option? "meta" = some (.mapping entries) := by
    change (root.get? "meta").or _ = _
    rw [declared]
    rfl
  rw [compiled.config_get? here both, metadata, Site.get?_options compiled.stored]
  exact (if_neg (by decide)).trans declares

end Compiled

variable {name : String} {definition : Value} {root : Config} {entries : List (Value × Value)}
    {workflow : Workflow}
  {text : List Char}

/-- The metadata is written as it is at the top, and in plain
form among the options of the first task. -/
theorem exists_forms (isRoot : Config.ofDefinition definition = .ok root)
    (declared : root.get? "meta" = some (.mapping entries))
    (result : (compileValue (.text name) definition).result = .ok workflow)
    (rendered : Artifact.render workflow .builtIn = .ok text) :
    ∃ document top lower form, Artifact.document workflow .builtIn = .ok document ∧
      Json.write true document = text ∧
      document.member? "meta" = some top ∧ document.rootOption? "meta" = some lower ∧
      Json.ofValue workflow.metadata.toMapping = .ok top ∧
      workflow.metadata.toMapping.plain mostLevels = .ok form ∧
      Json.ofValue form = .ok lower := by
  rw [Artifact.render] at rendered
  obtain ⟨document, made, same⟩ := map_eq_ok_iff.mp rendered
  obtain ⟨data, dict, written⟩ :=
    (Artifact.document_eq_ok_iff (counted_of_compileValue result) document).mp made
  obtain ⟨first, rest, shape, option⟩ :=
    (compiled_of_compileValue isRoot result).metadata_of_root declared
  obtain ⟨dicts, built, rfl⟩ := Workflow.toDict_eq_ok_iff.mp dict
  rw [shape, List.forall₂_cons_left_iff] at built
  obtain ⟨part, parts, dictFirst, _, rfl⟩ := built
  obtain ⟨options, plain, rfl⟩ := map_eq_ok_iff.mp dictFirst
  obtain ⟨writes, form, rfl, once, plainForm, isWrite⟩ :=
    Value.exists_plain_option first.config.distinct plain option
  -- Down from the document to both places.
  have topNames : ["name", "meta", "tasks"].Nodup := by decide
  have taskNames : ["name", "index", "parent_index", "upstream_indexes", "kind",
      "config", "is_group"].Nodup := by decide
  obtain ⟨top, ofMetadata, atTop⟩ := Json.exists_member? written topNames "meta" rfl
  obtain ⟨tasks, ofTasks, atTasks⟩ := Json.exists_member? written topNames "tasks" rfl
  obtain ⟨task, ofTask, atTask⟩ := Json.exists_first_item? ofTasks
  obtain ⟨config, ofConfig, atConfig⟩ := Json.exists_member? ofTask taskNames "config" rfl
  obtain ⟨lower, ofForm, atForm⟩ := Json.exists_member? ofConfig once "meta" isWrite
  refine ⟨document, top, lower, form, made, same, atTop, ?_, ofMetadata, plainForm, ofForm⟩
  rw [Json.rootOption?, atTasks, Option.bind_some, atTask, Option.bind_some, atConfig,
    Option.bind_some, atForm]

/-- The metadata that a root declares is the same in both places of the document if it has one form.
If its mappings have texts as keys, it is the same only then. -/
theorem metadata_forms (isRoot : Config.ofDefinition definition = .ok root)
    (declared : root.get? "meta" = some (.mapping entries))
    (result : (compileValue (.text name) definition).result = .ok workflow)
    (rendered : Artifact.render workflow .builtIn = .ok text) :
    ∃ document top lower, Artifact.document workflow .builtIn = .ok document ∧
      Json.write true document = text ∧
      document.member? "meta" = some top ∧ document.rootOption? "meta" = some lower ∧
      (workflow.metadata.toMapping.HasOneForm → top.toValue = lower.toValue) ∧
      (workflow.metadata.toMapping.IsTextKeyed → ¬workflow.metadata.toMapping.HasOneForm →
        top.toValue.same lower.toValue = false) := by
  obtain ⟨document, top, lower, form, made, same, atTop, atForm, ofMetadata, plain, ofForm⟩ :=
    exists_forms isRoot declared result rendered
  have holds : lower.toValue = form := Json.toValue_of_isPlain (Value.isPlain_of_plain plain) ofForm
  refine ⟨document, top, lower, made, same, atTop, atForm, fun one => ?_, fun keyed two => ?_⟩
  · rw [holds, one.toValue_eq ofMetadata plain]
  · rw [Bool.eq_false_iff, holds]
    exact fun equal => two (keyed.hasOneForm ofMetadata plain equal)

theorem metadata_forms_limited :
    ∃ root entries workflow text document top lower, Config.ofDefinition (limited half) = .ok root ∧
      root.get? "meta" = some (.mapping entries) ∧
      (compileValue (.text "limited") (limited half)).result = .ok workflow ∧
      Artifact.render workflow .builtIn = .ok text ∧
        Artifact.document workflow .builtIn = .ok document ∧
      Json.write true document = text ∧ document.member? "meta" = some top ∧
      document.rootOption? "meta" = some lower ∧ top.toValue = lower.toValue := by
  obtain ⟨root, entries, isRoot, declared⟩ : ∃ root entries,
      Config.ofDefinition (limited half) = .ok root ∧
      root.get? "meta" = some (.mapping entries) := ⟨_, _, rfl, rfl⟩
  obtain ⟨workflow, compiled, metadata, options⟩ : ∃ workflow,
      (compileValue (.text "limited") (limited half)).result = .ok workflow ∧
        workflow.metadata.toMapping = .ofFields [("limit", .float half)] ∧
        ∀ task ∈ workflow.tasks.tasks, ∃ data, task.toDict = .ok data ∧ data.isWritable = true :=
    ⟨_, rfl, rfl, List.forall_mem_singleton.mpr ⟨_, rfl, by decide +kernel⟩⟩
  have written : workflow.metadata.toMapping.HasDocument := by
    rw [metadata, Value.hasDocument_ofFields]
    exact List.forall_mem_singleton.mpr (.float _)
  have one : workflow.metadata.toMapping.HasOneForm := by
    rw [metadata]
    exact .mapping (List.forall_mem_singleton.mpr (.text _))
      (List.forall_mem_singleton.mpr (.float rfl))
  obtain ⟨text, rendered⟩ := exists_render compiled options written
  obtain ⟨document, top, lower, made, same, atTop, atForm, agree, _⟩ :=
    metadata_forms isRoot declared compiled rendered
  exact ⟨root, entries, workflow, text, document, top, lower, isRoot, declared, compiled,
    rendered, made, same, atTop, atForm, agree one⟩

def lunch : DateTime := ⟨⟨2024, 1, 31⟩, 12, 30, 0, 0, none⟩

def stamped : Value := .ofFields [("meta", .ofFields [("at", .moment lunch)])]

/-- A moment in the metadata is not the same in both places. -/
theorem stamped_differs :
    ∃ root entries workflow text document top lower, Config.ofDefinition stamped = .ok root ∧
      root.get? "meta" = some (.mapping entries) ∧
      (compileValue (.text "stamped") stamped).result = .ok workflow ∧
      Artifact.render workflow .builtIn = .ok text ∧
        Artifact.document workflow .builtIn = .ok document ∧
      Json.write true document = text ∧ document.member? "meta" = some top ∧
      document.rootOption? "meta" = some lower ∧ top.toValue.same lower.toValue = false := by
  obtain ⟨root, entries, isRoot, declared⟩ : ∃ root entries,
      Config.ofDefinition stamped = .ok root ∧
      root.get? "meta" = some (.mapping entries) := ⟨_, _, rfl, rfl⟩
  obtain ⟨workflow, compiled, metadata, options⟩ : ∃ workflow,
      (compileValue (.text "stamped") stamped).result = .ok workflow ∧
        workflow.metadata.toMapping = .ofFields [("at", .moment lunch)] ∧
        ∀ task ∈ workflow.tasks.tasks, ∃ data, task.toDict = .ok data ∧ data.isWritable = true :=
    ⟨_, rfl, rfl, List.forall_mem_singleton.mpr ⟨_, rfl, by decide +kernel⟩⟩
  have written : workflow.metadata.toMapping.HasDocument := by
    rw [metadata, Value.hasDocument_ofFields]
    exact List.forall_mem_singleton.mpr (.moment _)
  obtain ⟨text, rendered⟩ := exists_render compiled options written
  obtain ⟨document, top, lower, form, made, same, atTop, atForm, ofMetadata, plain, ofForm⟩ :=
    exists_forms isRoot declared compiled rendered
  refine ⟨root, entries, workflow, text, document, top, lower, isRoot, declared,
    compiled, rendered, made, same, atTop, atForm, ?_⟩
  rw [Bool.eq_false_iff, Json.toValue_of_isPlain (Value.isPlain_of_plain plain) ofForm]
  intro equal
  rw [metadata] at ofMetadata plain
  have keyed : (Value.ofFields [("at", .moment lunch)]).IsTextKeyed :=
    .ofFields (List.nodup_singleton _) (List.forall_mem_singleton.mpr (.moment lunch))
  cases keyed.hasOneForm ofMetadata plain equal with
  | mapping _ each => cases each (.text "at", .moment lunch) List.mem_cons_self

end Compiler
end TaskGraph
