import TaskGraph.Definition
import TaskGraph.Proofs.Refusals
set_option autoImplicit false

/-! Errors that no definition is refused with. The walk over a definition changes copies only, and
the nodes that it ends with can always be built into tasks under a name, so the errors that are kept
for a read-only configuration and for a graph that breaks its rules are never reported. Whether a
definition is read-only makes no difference to what it compiles into. -/

namespace TaskGraph

namespace Compiler

/-! ### Causes that are internal -/

namespace Error

/-- Whether the message of a cause is one of those that are kept for mistakes of the compiler. -/
def IsInternal (cause : Error) : Prop :=
  "Invalid task graph: ".toList <+: cause.message.toList ∨ cause.message = "Config is read-only"

/-- A message that begins in another way is not one of them. -/
theorem not_isInternal_of_opening {cause : Error} (text : String)
    (opens : text.toList <+: cause.message.toList)
    (shorter : ¬text.toList <+: "Invalid task graph: ".toList)
    (longer : ¬"Invalid task graph: ".toList <+: text.toList)
    (config : ¬text.toList <+: "Config is read-only".toList) : ¬cause.IsInternal := by
  rintro (graph | same)
  · rcases List.prefix_or_prefix_of_prefix opens graph with within | within
    · exact shorter within
    · exact longer within
  · rw [same] at opens
    exact config opens

theorem opens_append {text message : String} (opens : text.toList <+: message.toList)
    (more : String) :
    text.toList <+: (message ++ more).toList := by
  rw [String.toList_append]
  exact opens.trans (List.prefix_append _ _)

theorem not_isInternal_of_option {cause : Config.Error}
    (free : ∀ config, cause ≠ .readOnly config) :
    ¬(option cause).IsInternal := by
  cases cause with
  | readOnly config => exact absurd rfl (free config)
  | tooLong =>
      exact not_isInternal_of_opening "Exceeds the limit " ⟨_, rfl⟩ (by decide)
        (by decide) (by decide)
  | noItems found =>
      exact not_isInternal_of_opening "'"
        (opens_append (opens_append List.prefix_rfl found.typeName)
          "' object has no attribute 'items'")
        (by decide) (by decide) (by decide)
  | notObject found =>
      exact not_isInternal_of_opening "Config must be an object, got "
        (opens_append List.prefix_rfl found.typeName) (by decide) (by decide) (by decide)
  | notNested key found config =>
      exact not_isInternal_of_opening "Expected an object for key '"
        (opens_append (opens_append (opens_append List.prefix_rfl key) "' but got ") found.typeName)
        (by decide) (by decide) (by decide)
  | notBoolean key found config =>
      exact not_isInternal_of_opening "Expected a boolean for key '"
        (opens_append (opens_append (opens_append List.prefix_rfl key) "' but got ") found.display)
        (by decide) (by decide) (by decide)
  | notList key found config =>
      exact not_isInternal_of_opening "Expected a list for key '"
        (opens_append (opens_append (opens_append List.prefix_rfl key) "' but got ") found.typeName)
        (by decide) (by decide) (by decide)
  | notNames key item config =>
      exact not_isInternal_of_opening "Expected a list of strings for key '"
        (opens_append (opens_append (opens_append List.prefix_rfl key) "' but got ") item.display)
        (by decide) (by decide) (by decide)

theorem not_isInternal_taskWithSubtasks (config : Config) : ¬(taskWithSubtasks config).IsInternal :=
  not_isInternal_of_opening "A task can't have subtasks: "
    (opens_append List.prefix_rfl config.toMapping.display) (by decide) (by decide) (by decide)

theorem not_isInternal_raised {cause : Error} (free : ¬cause.IsInternal) :
    ¬cause.raised.IsInternal := by
  unfold raised
  split
  · exact free
  · exact not_isInternal_of_option fun config => Config.Error.noConfusion

theorem not_isInternal_of_raised {cause : Config.Error}
    (free : ∀ config, cause ≠ .readOnly config) :
    ¬(option cause.raised).IsInternal := by
  refine not_isInternal_of_option ?_
  unfold Config.Error.raised
  split
  · exact free
  · exact fun _ => Config.Error.noConfusion

theorem not_isInternal_unknownDependency (name : String) (config : Config) :
    ¬(unknownDependency name config).IsInternal :=
  not_isInternal_of_opening "Dependency task '"
    (opens_append (opens_append List.prefix_rfl name) "' does not exist") (by decide)
    (by decide) (by decide)

theorem not_isInternal_afterWithoutParallel (config : Config) :
    ¬(afterWithoutParallel config).IsInternal :=
  not_isInternal_of_opening "Option 'after' is valid only if 'parallel' is true" List.prefix_rfl
    (by decide) (by decide) (by decide)

theorem not_isInternal_endless : ¬endless.IsInternal :=
  not_isInternal_of_opening "Subtasks without end" List.prefix_rfl (by decide)
    (by decide) (by decide)

end Error

/-! ### Causes that the walk ends with -/

theorem eq_error_of_map {ε α β : Type} {f : α → β} {result : Except ε α} {cause : ε}
    (refused : result.map f = .error cause) : result = .error cause := by
  cases result with
  | error found =>
      cases refused
      rfl
  | ok value => cases refused

theorem not_isInternal_of_nested {config : Config} {key : String} {cause : Config.Error}
    (refused : config.nested key = .error cause) : ¬(Error.option cause).IsInternal := by
  rcases config.nested_cases key with ⟨_, read⟩ | ⟨_, read⟩
  · rw [read] at refused
    cases refused
  · rw [read] at refused
    cases refused
    exact Error.not_isInternal_of_option fun _ => Config.Error.noConfusion

theorem not_isInternal_of_bool {config : Config} {key : String} {cause : Config.Error}
    (refused : config.bool key false = .error cause) : ¬(Error.option cause).IsInternal := by
  rcases config.bool_cases key with ⟨_, _, read⟩ | ⟨_, read⟩
  · rw [read] at refused
    cases refused
  · rw [read] at refused
    cases refused
    exact Error.not_isInternal_of_raised fun _ => Config.Error.noConfusion

theorem not_isInternal_of_names {config : Config} {key : String} {cause : Config.Error}
    (refused : config.names key = .error cause) : ¬(Error.option cause).IsInternal := by
  unfold Config.names at refused
  split at refused
  · cases refused
  · cases refused
  · split at refused
    · cases refused
    · cases refused
      exact Error.not_isInternal_of_raised fun _ => Config.Error.noConfusion
  · cases refused
    exact Error.not_isInternal_of_option fun _ => Config.Error.noConfusion

theorem not_isInternal_of_siblingIndexes {earlier : Fields Nat} {config : Config}
    {names : List String} {cause : Error}
    (refused : siblingIndexes earlier config names = .error cause) : ¬cause.IsInternal := by
  induction names with
  | nil => cases refused
  | cons name rest ih =>
      rw [siblingIndexes] at refused
      split at refused
      · cases refused
        exact Error.not_isInternal_unknownDependency name config
      · exact ih (eq_error_of_map refused)

theorem not_isInternal_of_namedUpstreams {earlier : Fields Nat} {children : List Node}
    {cause : Error} (refused : namedUpstreams earlier children = .error cause) :
    ¬cause.IsInternal := by
  induction children generalizing earlier with
  | nil => cases refused
  | cons child rest ih =>
      rw [namedUpstreams] at refused
      split at refused
      · rename_i found read
        cases refused
        exact not_isInternal_of_names read
      · split at refused
        · rename_i found resolved
          cases refused
          exact not_isInternal_of_siblingIndexes resolved
        · exact ih (eq_error_of_map refused)

theorem not_isInternal_of_upstreamsOf {group : Config} {children : List Node} {cause : Error}
    (refused : upstreamsOf group children = .error cause) : ¬cause.IsInternal := by
  unfold upstreamsOf at refused
  split at refused
  · rename_i found read
    cases refused
    exact not_isInternal_of_bool read
  · exact not_isInternal_of_namedUpstreams refused
  · split at refused
    · cases refused
      exact Error.not_isInternal_afterWithoutParallel group
    · cases refused

theorem not_isInternal_of_nestedAll {config : Config} {keys : List String} {cause : Config.Error}
    (refused : nestedAll config keys = .error cause) : ¬(Error.option cause).IsInternal := by
  induction keys with
  | nil => cases refused
  | cons key rest ih =>
      rw [nestedAll] at refused
      split at refused
      · rename_i found read
        cases refused
        exact not_isInternal_of_nested read
      · exact ih (eq_error_of_map refused)

/-- Resolving a node changes copies of what is given, and a copy is never read-only. -/
theorem not_isInternal_of_resolve {inherited own : Config} {cause : Config.Error}
    (refused : resolve inherited own = .error cause) : ¬(Error.option cause).IsInternal := by
  rw [resolve_eq] at refused
  split at refused
  · rename_i found read
    cases refused
    exact not_isInternal_of_nested read
  · exact not_isInternal_of_nestedAll (eq_error_of_map refused)

theorem not_isInternal_of_walkBelow {visit : Nat → String → Config → Walk} {index : Nat}
    {subtasks : List (String × Config)} {cause : Error}
    (each : ∀ index name config cause, (visit index name config).failure = some cause →
      ¬cause.IsInternal)
    (failed : (walkBelow visit index subtasks).failure = some cause) : ¬cause.IsInternal := by
  induction subtasks generalizing index with
  | nil => cases failed
  | cons subtask rest ih =>
      obtain ⟨name, config⟩ := subtask
      rw [walkBelow] at failed
      cases failure : (visit index name config).failure with
      | some found =>
          simp only [failure, Option.some.injEq] at failed
          rw [← failed]
          exact each index name config found failure
      | none =>
          simp only [failure] at failed
          exact ih failed

theorem not_isInternal_of_closeGroup {group : Node} {below : Below} {cause : Error}
    (held : ∀ cause, below.failure = some cause → ¬cause.IsInternal)
    (failed : (closeGroup group below).failure = some cause) : ¬cause.IsInternal := by
  unfold closeGroup at failed
  split at failed
  · rename_i found failure
    cases failed
    exact held _ failure
  · split at failed
    · rename_i found refused
      cases failed
      exact not_isInternal_of_upstreamsOf refused
    · cases failed

/-- No walk ends with an internal cause, not even one that would go on without end. -/
theorem not_isInternal_of_walk {depth index : Nat} {parent : Option Holder} {inherited own : Config}
    {name : String} {cause : Error}
    (failed : (walk depth index parent inherited name own).failure = some cause) :
    ¬cause.IsInternal := by
  induction depth generalizing index parent inherited name own cause with
  | zero =>
      cases failed
      exact Error.not_isInternal_endless
  | succ depth ih =>
      rw [walk] at failed
      split at failed
      · rename_i found refused
        cases failed
        exact not_isInternal_of_resolve refused
      · split at failed
        · split at failed
          · cases failed
          · cases failed
            exact Error.not_isInternal_raised (Error.not_isInternal_taskWithSubtasks own)
        · refine not_isInternal_of_closeGroup (fun found failure => ?_) failed
          exact not_isInternal_of_walkBelow (fun _ _ _ _ failure => ih failure) failure

/-! ### Compilation -/

theorem not_isInternal_of_compileTasks {name : String} {root : Config} {cause : Error}
    (named : name ≠ "") (stored : root.Stored)
    (refused : (compileTasks name root).result = .error cause) : ¬cause.IsInternal := by
  cases failure : (walkRoot name root).failure with
  | some found =>
      rw [compileTasks_of_failure failure, Except.error.injEq] at refused
      rw [← refused]
      exact not_isInternal_of_walk failure
  | none =>
      -- The nodes of a walk that ended well are those of the layout, and each of them can be built.
      have accepted := (walkRoot_failure_iff stored).mp failure
      obtain ⟨list, built⟩ := exists_lower_nodes named stored accepted
      rw [compileTasks_of_accepted stored accepted, built] at refused
      cases refused

theorem not_isInternal_of_compile {name : String} {root : Config} {cause : Error}
    (named : name ≠ "") (stored : root.Stored)
    (refused : (compile name root).result = .error cause) : ¬cause.IsInternal := by
  rw [compile_result_eq] at refused
  cases built : (compileTasks name root).result with
  | error found =>
      simp only [built, Except.error.injEq] at refused
      rw [← refused]
      exact not_isInternal_of_compileTasks named stored built
  | ok list =>
      cases read : root.nested "meta" with
      | error found =>
          simp only [built, read, Except.error.injEq] at refused
          rw [← refused]
          exact not_isInternal_of_nested read
      | ok metadata =>
          simp only [built, read] at refused
          cases refused

end Compiler

/-! ### The read-only mark -/

/-- The contents of a value: a configuration as a plain mapping, any other value as it is. -/
def Value.contents : Value → Value
  | .config fields _ => ofFields fields
  | other => other

def Config.marked (config : Config) (frozen : Bool) : Config := { config with frozen }

theorem Config.freeze_eq_marked {config : Config} (stored : config.Stored) :
    config.freeze = config.marked true :=
  Config.eq_of_fields (Config.fields_freeze stored) rfl

theorem Config.ofDefinition_toValue {config : Config} (stored : config.Stored) :
    Config.ofDefinition config.toValue = .ok config := by
  refine checked_eq_ok_iff.mpr ⟨?_, stored.areKeysWritable⟩
  exact congrArg some (eq_of_fields (fields_deepCopy stored) rfl)

namespace Compiler

/-- What is told of a cause: its message, and the contents of the
part of the definition that it was found in. -/
def Error.told (cause : Error) : String × Value := (cause.message, cause.subject.contents)

/-- Results that are the same: the same value, or errors of which the same is told. -/
inductive Alike {ε α : Type} (told : ε → String × Value) : Except ε α → Except ε α → Prop where
  | ok (value : α) : Alike told (.ok value) (.ok value)
  | error {cause other : ε} (same : told cause = told other) :
      Alike told (.error cause) (.error other)

theorem Alike.refl {ε α : Type} {told : ε → String × Value} (result : Except ε α) :
    Alike told result result := by
  cases result with
  | ok value => exact .ok value
  | error cause => exact .error rfl

theorem nested_marked (config : Config) (frozen : Bool) (key : String) :
    Alike (fun cause => (Error.option cause).told) ((config.marked frozen).nested key)
      (config.nested key) := by
  have same : (config.marked frozen).get? key = config.get? key := rfl
  unfold Config.nested
  rw [same]
  cases config.get? key with
  | none => exact .ok _
  | some value =>
      cases value with
      | null => exact .ok _
      | mapping entries => exact .ok _
      | _ => exact .error rfl

/-- Resolving a node reads a copy of it, which is never read-only. -/
theorem resolve_marked (inherited own : Config) (frozen : Bool) :
    Alike (fun cause => (Error.option cause).told) (resolve inherited (own.marked frozen))
      (resolve inherited own) := by
  have filled : filledWith inherited (own.marked frozen) = filledWith inherited own := rfl
  have down : handDown inherited (own.marked frozen) = handDown inherited own := rfl
  have options : optionsOf inherited (own.marked frozen) = optionsOf inherited own := rfl
  have read := nested_marked own frozen "default"
  rw [resolve_eq, resolve_eq, filled, down, options]
  generalize (own.marked frozen).nested "default" = marked at read ⊢
  generalize own.nested "default" = plain at read ⊢
  cases read with
  | error same => exact .error same
  | ok declared =>
      cases nestedAll (filledWith inherited own) (filledWith inherited own).subtaskKeys with
      | error cause => exact .error rfl
      | ok subtasks => exact .ok _

theorem told_raised_marked (own : Config) (frozen : Bool) :
    (Error.taskWithSubtasks (own.marked frozen)).raised.told =
      (Error.taskWithSubtasks own).raised.told := by
  have same : (Error.taskWithSubtasks (own.marked frozen)).isWritable =
      (Error.taskWithSubtasks own).isWritable := rfl
  rw [Error.raised, Error.raised, same]
  split <;> rfl

/-- Only the node itself is read from what is given: it is refused, or the walk is the same. -/
theorem walk_marked (depth index : Nat) (parent : Option Holder) (inherited own : Config)
    (name : String) (frozen : Bool) :
    walk depth index parent inherited name (own.marked frozen) =
      walk depth index parent inherited name own ∨
      ∃ cause other, (walk depth index parent inherited name (own.marked frozen)).failure =
        some cause ∧
        (walk depth index parent inherited name own).failure = some other ∧
          cause.told = other.told := by
  cases depth with
  | zero => exact Or.inl rfl
  | succ depth =>
      have alike := resolve_marked inherited own frozen
      rw [walk, walk]
      generalize resolve inherited (own.marked frozen) = marked at alike ⊢
      generalize resolve inherited own = plain at alike ⊢
      cases alike with
      | error same => exact Or.inr ⟨_, _, rfl, rfl, same⟩
      | ok resolved =>
          dsimp only
          by_cases isTask : resolved.options.isTask = true
          · rw [if_pos isTask, if_pos isTask]
            by_cases alone : resolved.subtasks.isEmpty = true
            · rw [if_pos alone, if_pos alone]
              exact Or.inl rfl
            · rw [if_neg alone, if_neg alone]
              exact Or.inr ⟨_, _, rfl, rfl, told_raised_marked own frozen⟩
          · rw [if_neg isTask, if_neg isTask]
            exact Or.inl rfl

theorem depthBound_marked (root : Config) (frozen : Bool) :
    depthBound (root.marked frozen) = depthBound root := by
  have depth : (root.marked frozen).toValue.depth = root.toValue.depth := by
    rw [Config.toValue, Config.toValue, Value.depth, Value.depth]
    rfl
  rw [depthBound, depth, depthBound]

theorem compileTasks_marked (name : String) (root : Config) (frozen : Bool) :
    Alike Error.told (compileTasks name (root.marked frozen)).result
      (compileTasks name root).result := by
  have walked : walkRoot name (root.marked frozen) =
      walk (depthBound root) 0 none Config.empty name (root.marked frozen) := by
    rw [walkRoot, depthBound_marked]
  rcases walk_marked (depthBound root) 0 none Config.empty root name frozen
    with same | ⟨cause, other, failed, failedPlain, told⟩
  · have roots : walkRoot name (root.marked frozen) = walkRoot name root := walked.trans same
    unfold compileTasks compileTasksAs
    rw [roots]
    exact Alike.refl _
  · rw [← walked] at failed
    rw [compileTasks_of_failure failed, compileTasks_of_failure failedPlain]
    exact .error told

theorem compile_marked (name : String) (root : Config) (frozen : Bool) :
    Alike Error.told (compile name (root.marked frozen)).result (compile name root).result := by
  have tasks := compileTasks_marked name root frozen
  have metadata := nested_marked root frozen "meta"
  rw [compile_result_eq, compile_result_eq]
  generalize (compileTasks name (root.marked frozen)).result = marked at tasks ⊢
  generalize (compileTasks name root).result = plain at tasks ⊢
  generalize (root.marked frozen).nested "meta" = markedMeta at metadata ⊢
  generalize root.nested "meta" = plainMeta at metadata ⊢
  cases tasks with
  | error same => exact .error same
  | ok list =>
      cases metadata with
      | error same => exact .error same
      | ok found => exact .ok _

end Compiler

/-! ### Files -/

namespace Path

theorem stemOf_ne_nil {name : List Char} (named : name ≠ []) : stemOf name ≠ [] := by
  have long : 0 < name.length := List.length_pos_iff.mpr named
  rw [stemOf, ← List.length_pos_iff]
  split
  · rename_i cut
    simp only [Bool.and_eq_true, decide_eq_true_iff] at cut
    rw [List.length_take]
    omega
  · exact long

theorem ne_of_mem_parts_ofString {text part : String} (member : part ∈ (ofString text).parts) :
    part ≠ "" := by
  have kept := (List.mem_filter.mp member).2
  rw [Bool.and_eq_true, decide_eq_true_iff] at kept
  exact kept.1

theorem stem_ofString_ne {text : String} (parts : (ofString text).parts ≠ []) :
    (ofString text).stem ≠ "" := by
  have last := List.getLast?_eq_some_getLast parts
  have named := ne_of_mem_parts_ofString (List.getLast_mem parts)
  rw [stem, name, last, Option.getD_some]
  intro empty
  have nameless : ((ofString text).parts.getLast parts).toList ≠ [] :=
    mt String.toList_eq_nil_iff.mp named
  exact stemOf_ne_nil nameless (String.ofList_eq_empty_iff.mp empty)

end Path

/-- A path without components leads to a directory. -/
theorem FileTree.parts_ne_nil_of_content? {tree : FileTree} {path : Path} {content : List UInt8}
    (found : tree.content? path = .ok (some content)) : path.parts ≠ [] := by
  intro none
  unfold content? locate at found
  rw [none] at found
  split at found
  · cases found
  · cases found
  · rename_i place located
    split at located
    · cases located
    · split at located
      · cases located
      · cases located
        cases found

namespace Definition

theorem stored_of_parse {text : List Char} {source : String} {root : Config}
    (read : parse text source = .ok root) : root.Stored := by
  unfold parse at read
  split at read
  · cases read
  · cases read
  · cases read
  · cases read
    exact Config.stored_empty
  · rename_i entries _
    cases built : Config.ofValue (.mapping entries) with
    | error cause =>
        rw [built] at read
        cases read
    | ok config =>
        rw [built] at read
        cases read
        cases (Config.checked_eq_ok_iff.mp built).1
        exact Config.stored_ofWrites (Value.normalise_of_mem_entries entries)
  · cases read

theorem stored_of_load {tree : FileTree} {path : Path} {root : Config}
    (read : load tree path = .ok root) :
    root.Stored ∧ path.parts ≠ [] := by
  unfold load at read
  split at read
  · cases read
  · cases read
  · rename_i content found
    refine ⟨?_, FileTree.parts_ne_nil_of_content? found⟩
    split at read
    · cases read
    · exact stored_of_parse read

theorem workflowName_ne {path : Path} (stem : path.stem ≠ "") (name : Option String) :
    workflowName path name ≠ "" := by
  cases name with
  | none => exact stem
  | some given =>
      rw [workflowName]
      split
      · exact stem
      · rename_i full
        intro empty
        rw [empty] at full
        exact full rfl

/-- The workflow of a file always has a name, so no file is refused for want of one. -/
theorem not_isInternal_of_compileFile {tree : FileTree} {text : String} {name : Option String}
    {cause : Compiler.Error}
    (refused : compileFile tree (Path.ofString text) name = .error (.compile cause)) :
    ¬cause.IsInternal := by
  unfold compileFile compileFileRecorded at refused
  cases read : load tree (Path.ofString text) with
  | error found =>
      simp only [read] at refused
      cases refused
  | ok root =>
      obtain ⟨stored, parts⟩ := stored_of_load read
      have named := workflowName_ne (Path.stem_ofString_ne parts) name
      simp only [read] at refused
      cases built : (Compiler.compile (workflowName (Path.ofString text) name) root).result with
      | error found =>
          simp only [built] at refused
          cases refused
          exact Compiler.not_isInternal_of_compile named stored built
      | ok workflow =>
          simp only [built] at refused
          cases refused

end Definition

/-! ### All definitions -/

namespace Compiler

/-- No definition and no file is refused with an internal error, and a read-only definition compiles
into what a definition that can be changed does. -/
theorem never_internal :
    (∀ (name : String) (definition : Value) (cause : Error), name ≠ "" →
      ((compileValue (.text name) definition).result = .error cause ∨
        (compileTasksValue (.text name) definition).result = .error cause) → ¬cause.IsInternal) ∧
    (∀ (name : String) (definition : Value) (root : Config),
      Config.ofDefinition definition = .ok root →
      Alike Error.told (compileValue (.text name) root.freeze.toValue).result
          (compileValue (.text name) definition).result ∧
        Alike Error.told (compileTasksValue (.text name) root.freeze.toValue).result
          (compileTasksValue (.text name) definition).result) ∧
    ∀ (tree : FileTree) (text : String) (name : Option String) (cause : Error),
      Definition.compileFile tree (Path.ofString text) name = .error (.compile cause) →
        ¬cause.IsInternal := by
  refine ⟨fun name definition cause named refused => ?_, fun name definition root isRoot => ?_,
    fun tree text name cause refused => Definition.not_isInternal_of_compileFile refused⟩
  · cases isRoot : Config.ofDefinition definition with
    | error found =>
        -- What is no mapping has no configuration that could be read-only.
        unfold compileValue compileTasksValue at refused
        simp only [isRoot, Except.error.injEq, or_self] at refused
        rw [← refused]
        refine Error.not_isInternal_of_option fun config isReadOnly => ?_
        rw [isReadOnly] at isRoot
        rcases Config.of_checked_eq_error isRoot with same | same <;> cases same
    | ok root =>
        have stored := Config.stored_ofDefinition isRoot
        rw [compileValue_of_root isRoot, compileTasksValue_of_root isRoot] at refused
        rcases refused with refused | refused
        · exact not_isInternal_of_compile named stored refused
        · exact not_isInternal_of_compileTasks named stored refused
  · have stored := Config.stored_ofDefinition isRoot
    have frozen : Config.ofDefinition root.freeze.toValue = .ok (root.marked true) := by
      rw [Config.freeze_eq_marked stored]
      exact Config.ofDefinition_toValue stored
    rw [compileValue_of_root frozen, compileValue_of_root isRoot, compileTasksValue_of_root frozen,
      compileTasksValue_of_root isRoot]
    exact ⟨compile_marked name root true, compileTasks_marked name root true⟩

/-- A tree with one file, a definition in which a group waits although nothing runs in parallel. -/
def draftTree : FileTree :=
  ⟨[(⟨.above 0, ["draft.yaml"]⟩, .file [97, 102, 116, 101, 114, 58, 32, 120])]⟩

def isRefusedForAfter : Except Definition.Failure Workflow → Bool
  | .error (.compile (.afterWithoutParallel _)) => true
  | _ => false

theorem never_internal_draft :
    (∃ cause, (compileValue (.text "draft") draft).result = .error cause ∧ ¬cause.IsInternal) ∧
      (∃ root, Config.ofDefinition draft = .ok root ∧
        Alike Error.told (compileValue (.text "draft") root.freeze.toValue).result
          (compileValue (.text "draft") draft).result) ∧
      ∃ cause, Definition.compileFile draftTree (Path.ofString "draft.yaml") (some "") = .error
        (.compile cause) ∧
        ¬cause.IsInternal := by
  obtain ⟨mapping, freeze, file⟩ := never_internal
  obtain ⟨root, isRoot, _⟩ := plainDefaults_draft
  obtain ⟨cause, refused⟩ : ∃ cause, (compileValue (.text "draft") draft).result = .error cause :=
    ⟨_, rfl⟩
  have read : isRefusedForAfter
      (Definition.compileFile draftTree (Path.ofString "draft.yaml") (some "")) = true := by
    decide +kernel
  refine ⟨⟨cause, refused, mapping "draft" draft cause (by decide) (Or.inl refused)⟩,
    ⟨root, isRoot, (freeze "draft" draft root isRoot).1⟩, ?_⟩
  unfold isRefusedForAfter at read
  split at read
  · rename_i config refusedFile
    exact ⟨_, refusedFile, file draftTree "draft.yaml" (some "") _ refusedFile⟩
  · cases read

end Compiler
end TaskGraph
