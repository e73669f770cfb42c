import TaskGraph.Proofs.InternalErrors
set_option autoImplicit false

/-! What holds of a definition and passes to the parts of a value holds of all options of the tasks
that the definition is compiled into, and of everything that the error names when it is refused. -/

namespace TaskGraph

namespace Fields

variable {α : Type}

theorem mem_of_mem_overlay {field : String × α} {fields other : Fields α}
    (distinct : fields.Distinct) (member : field ∈ fields.overlay other) :
    field ∈ fields ∨ field ∈ other := by
  have found := get?_of_mem (distinct_overlay other distinct) member
  rw [get?_overlay, Option.or_eq_some_iff] at found
  rcases found with written | ⟨_, kept⟩
  · exact Or.inr (List.mem_reverse.mp (mem_of_get?_eq_some written))
  · exact Or.inl (mem_of_get?_eq_some kept)

theorem mem_of_mem_fill {field : String × α} {fields other : Fields α} (distinct : fields.Distinct)
    (member : field ∈ fields.fill other) : field ∈ fields ∨ field ∈ other := by
  have found := get?_of_mem (distinct_fill other distinct) member
  rw [get?_fill, Option.or_eq_some_iff] at found
  rcases found with kept | ⟨_, added⟩
  · exact Or.inl (mem_of_get?_eq_some kept)
  · exact Or.inr (mem_of_get?_eq_some added)

end Fields

/-- A property of values that passes to the stored form of a value, and to what a mapping, a
configuration or a list holds. -/
structure Hereditary (holds : Value → Prop) : Prop where
  normalise : ∀ value, holds value → holds value.normalise
  entries : ∀ entries, holds (.mapping entries) → ∀ entry ∈ entries, holds entry.2
  fields : ∀ fields frozen, holds (.config fields frozen) → ∀ field ∈ fields, holds field.2
  items : ∀ items, holds (.list items) → ∀ item ∈ items, holds item

variable {holds : Value → Prop}

namespace Config

def Holds (holds : Value → Prop) (config : Config) : Prop := ∀ field ∈ config.fields, holds field.2

theorem holds_of_get? {config : Config} (each : config.Holds holds) {key : String} {value : Value}
    (found : config.get? key = some value) : holds value :=
  each _ (Fields.mem_of_get?_eq_some found)

theorem holds_empty : Holds holds empty := fun _ member => by cases member

theorem holds_ofWrites {writes : List (String × Value)} (each : ∀ field ∈ writes, holds field.2) :
    Holds holds (ofWrites writes) := fun field member =>
      each field (Fields.mem_of_mem_ofWrites member)

theorem holds_ofEntries (hereditary : Hereditary holds) {entries : List (Value × Value)}
    (each : ∀ entry ∈ entries, holds entry.2) :
    Holds holds (ofWrites (Value.normaliseEntries entries)) := by
  apply holds_ofWrites
  rw [Value.normaliseEntries_eq_map, List.forall_mem_map]
  exact fun entry member => hereditary.normalise entry.2 (each entry member)

theorem holds_ofFields (hereditary : Hereditary holds) {fields : List (String × Value)}
    (each : ∀ field ∈ fields, holds field.2) : Holds holds (ofFields fields) := by
  apply holds_ofWrites
  rw [Value.normaliseFields_eq_map, List.forall_mem_map]
  exact fun field member => hereditary.normalise field.2 (each field member)

theorem holds_deepCopy (hereditary : Hereditary holds) {config : Config}
    (each : config.Holds holds) :
    config.deepCopy.Holds holds := holds_ofFields hereditary each

theorem holds_below (hereditary : Hereditary holds) {config : Config} (each : config.Holds holds)
    (key : String) :
    (config.below key).Holds holds := by
  unfold below
  split
  · rename_i entries found
    exact holds_ofEntries hereditary (hereditary.entries entries (holds_of_get? each found))
  · exact holds_empty

theorem holds_of_root? (hereditary : Hereditary holds) {definition : Value} {root : Config}
    (isRoot : root? definition = some root) (whole : holds definition) : root.Holds holds := by
  cases definition with
  | config fields frozen =>
      cases isRoot
      exact holds_ofFields hereditary (hereditary.fields fields frozen whole)
  | mapping entries =>
      cases isRoot
      exact holds_ofEntries hereditary (hereditary.entries entries whole)
  | null =>
      cases isRoot
      exact holds_empty
  | _ => cases isRoot

theorem holds_ofDefinition (hereditary : Hereditary holds) {definition : Value} {root : Config}
    (read : ofDefinition definition = .ok root) (whole : holds definition) : root.Holds holds :=
  holds_of_root? hereditary (checked_eq_ok_iff.mp read).1 whole

/-- Whether a property holds of the value that an error is about: the one that its message shows, or
one that it could not show. -/
def Error.Holds (holds : Value → Prop) : Error → Prop
  | .notBoolean _ found _ => holds found
  | .notNames _ item _ => holds item
  | .tooLong => ∃ value, holds value ∧ value.isWritable = false
  | _ => True

theorem Error.holds_raised {cause : Error} (each : cause.Holds holds) :
    cause.raised.Holds holds := by
  unfold raised
  split
  · exact each
  · rename_i unwritable
    rw [Bool.not_eq_true] at unwritable
    cases cause with
    | notBoolean key found config => exact ⟨found, each, unwritable⟩
    | notNames key item config => exact ⟨item, each, unwritable⟩
    | _ => cases unwritable

theorem holds_of_bool_error {config : Config} (each : config.Holds holds) {key : String}
    {cause : Error} (refused : config.bool key false = .error cause) : cause.Holds holds := by
  unfold bool at refused
  split at refused
  · cases refused
  · cases refused
  · cases refused
  · rename_i content found
    split at refused
    · cases refused
    · cases refused
      exact holds_of_get? each found
  · rename_i found
    cases refused
    exact Error.holds_raised (holds_of_get? each found)

theorem mem_of_namesOf {items : List Value} {item : Value} (refused : namesOf items = .error item) :
    item ∈ items := by
  induction items with
  | nil => cases refused
  | cons first rest ih =>
      rw [namesOf, List.mapM_cons] at refused
      cases name : nameOf? first with
      | none =>
          rw [name] at refused
          cases refused
          exact List.mem_cons_self
      | some text =>
          rw [name] at refused
          cases others : namesOf rest with
          | error later =>
              rw [namesOf] at others
              simp only [others] at refused
              cases refused
              exact List.mem_cons_of_mem _ (ih others)
          | ok names =>
              rw [namesOf] at others
              simp only [others] at refused
              cases refused

theorem holds_of_names_error (hereditary : Hereditary holds) {config : Config}
    (each : config.Holds holds) {key : String} {cause : Error}
    (refused : config.names key = .error cause) : cause.Holds holds := by
  unfold names at refused
  split at refused
  · cases refused
  · cases refused
  · rename_i items found
    split at refused
    · cases refused
    · rename_i item unnamed
      cases refused
      exact Error.holds_raised
        (hereditary.items items (holds_of_get? each found) item (mem_of_namesOf unnamed))
  · cases refused
    trivial

theorem holds_of_nested_error {config : Config} {key : String} {cause : Error}
    (refused : config.nested key = .error cause) : cause.Holds holds := by
  rcases config.nested_cases key with ⟨_, read⟩ | ⟨_, read⟩
  · rw [read] at refused
    cases refused
  · rw [read] at refused
    cases refused
    trivial

end Config

namespace Compiler

def Error.Holds (holds : Value → Prop) : Error → Prop
  | .option cause => cause.Holds holds
  | .taskWithSubtasks config => config.Holds holds
  | _ => True

theorem Error.holds_raised_taskWithSubtasks {config : Config} (each : config.Holds holds) :
    (taskWithSubtasks config).raised.Holds holds := by
  unfold raised
  split
  · exact each
  · rename_i unwritable
    change ¬config.toMapping.isWritable = true at unwritable
    rw [Config.toMapping, Value.isWritable_ofFields] at unwritable
    push Not at unwritable
    obtain ⟨field, inside, broken⟩ := unwritable
    exact ⟨field.2, each field inside, Bool.eq_false_iff.mpr broken⟩

/-! ### One node -/

section
variable {inherited own : Config}

theorem holds_handDown (hereditary : Hereditary holds) (above : inherited.Holds holds)
    (here : own.Holds holds) :
    (handDown inherited own).Holds holds := by
  intro field member
  rcases Fields.mem_of_mem_overlay inherited.deepCopy.distinct member with handed | declared
  · exact Config.holds_deepCopy hereditary above field handed
  · exact Config.holds_below hereditary here "default" field declared

theorem holds_filledWith (hereditary : Hereditary holds) (above : inherited.Holds holds)
    (here : own.Holds holds) :
    (filledWith inherited own).Holds holds := by
  intro field member
  rcases Fields.mem_of_mem_fill own.deepCopy.distinct member with declared | added
  · exact Config.holds_deepCopy hereditary here field declared
  · exact holds_handDown hereditary above here field added

theorem holds_optionsOf (hereditary : Hereditary holds) (above : inherited.Holds holds)
    (here : own.Holds holds) :
    (optionsOf inherited own).Holds holds :=
  fun field member => holds_filledWith hereditary above here field (List.mem_of_mem_filter member)

/-- Everything that a node resolves to is made of values of its own and of inherited ones. -/
theorem holds_resolve (hereditary : Hereditary holds) (above : inherited.Holds holds)
    (here : own.Holds holds) {resolved : Resolved} (read : resolve inherited own = .ok resolved) :
    resolved.defaults.Holds holds ∧ resolved.options.Holds holds ∧
      ∀ subtask ∈ resolved.subtasks, subtask.2.Holds holds := by
  obtain ⟨_, _, same⟩ := (resolve_eq_ok_iff inherited own resolved).mp read
  rw [same]
  refine ⟨holds_handDown hereditary above here, holds_optionsOf hereditary above here, ?_⟩
  rw [List.forall_mem_map]
  exact fun key _ => Config.holds_below hereditary (holds_filledWith hereditary above here) key

theorem holds_of_nestedAll_error {config : Config} {keys : List String} {cause : Config.Error}
    (refused : nestedAll config keys = .error cause) : cause.Holds holds := by
  induction keys with
  | nil => cases refused
  | cons key rest ih =>
      rw [nestedAll] at refused
      split at refused
      · rename_i found read
        cases refused
        exact Config.holds_of_nested_error read
      · exact ih (eq_error_of_map refused)

theorem holds_of_resolve_error {cause : Config.Error}
    (refused : resolve inherited own = .error cause) :
    cause.Holds holds := by
  rw [resolve_eq] at refused
  split at refused
  · rename_i found read
    cases refused
    exact Config.holds_of_nested_error read
  · exact holds_of_nestedAll_error (eq_error_of_map refused)

end

/-! ### A walk -/

/-- Whether a property holds of the options of all nodes that a
walk added, and of what its failure shows. -/
structure Walk.Holds (holds : Value → Prop) (walk : Walk) : Prop where
  nodes : ∀ node ∈ walk.nodes, node.config.Holds holds
  failure : ∀ cause, walk.failure = some cause → cause.Holds holds

structure Below.Holds (holds : Value → Prop) (below : Below) : Prop where
  nodes : ∀ block ∈ below.blocks, ∀ node ∈ block, node.config.Holds holds
  failure : ∀ cause, below.failure = some cause → cause.Holds holds

theorem holds_of_siblingIndexes {earlier : Fields Nat} {config : Config} {names : List String}
    {cause : Error} (refused : siblingIndexes earlier config names = .error cause) :
    cause.Holds holds := by
  induction names with
  | nil => cases refused
  | cons name rest ih =>
      rw [siblingIndexes] at refused
      split at refused
      · cases refused
        trivial
      · exact ih (eq_error_of_map refused)

theorem holds_of_namedUpstreams (hereditary : Hereditary holds) {earlier : Fields Nat}
    {children : List Node} (each : ∀ child ∈ children, child.config.Holds holds) {cause : Error}
    (refused : namedUpstreams earlier children = .error cause) : cause.Holds holds := by
  induction children generalizing earlier with
  | nil => cases refused
  | cons child rest ih =>
      obtain ⟨first, others⟩ := List.forall_mem_cons.mp each
      rw [namedUpstreams] at refused
      split at refused
      · rename_i found read
        cases refused
        exact Config.holds_of_names_error hereditary first read
      · split at refused
        · rename_i found unknown
          cases refused
          exact holds_of_siblingIndexes unknown
        · exact ih others (eq_error_of_map refused)

theorem holds_of_upstreamsOf (hereditary : Hereditary holds) {group : Config}
    (here : group.Holds holds) {children : List Node}
    (each : ∀ child ∈ children, child.config.Holds holds) {cause : Error}
    (refused : upstreamsOf group children = .error cause) : cause.Holds holds := by
  unfold upstreamsOf at refused
  split at refused
  · rename_i found read
    cases refused
    exact Config.holds_of_bool_error here read
  · exact holds_of_namedUpstreams hereditary each refused
  · split at refused
    · cases refused
      trivial
    · cases refused

theorem holds_linkBlocks {links : List (List Nat)} {blocks : List (List Node)}
    (each : ∀ block ∈ blocks, ∀ node ∈ block, node.config.Holds holds) :
    ∀ block ∈ linkBlocks links blocks, ∀ node ∈ block, node.config.Holds holds := by
  induction blocks generalizing links with
  | nil =>
      intro block member
      cases links <;> cases member
  | cons first rest ih =>
      obtain ⟨here, others⟩ := List.forall_mem_cons.mp each
      cases links with
      | nil =>
          intro block member
          cases member
      | cons upstreams more =>
          rw [linkBlocks, List.forall_mem_cons]
          refine ⟨?_, ih others⟩
          cases first with
          | nil => exact here
          | cons head tail =>
              -- Only the upstreams of the first node change.
              obtain ⟨headHolds, tailHold⟩ := List.forall_mem_cons.mp here
              exact List.forall_mem_cons.mpr ⟨headHolds, tailHold⟩

theorem holds_closeGroup (hereditary : Hereditary holds) {group : Node}
    (here : group.config.Holds holds) {below : Below} (held : below.Holds holds) :
    (closeGroup group below).Holds holds := by
  have flat {blocks : List (List Node)} (each : ∀ block ∈ blocks, ∀ node ∈ block,
      node.config.Holds holds) :
      ∀ node ∈ group :: blocks.flatten, node.config.Holds holds := by
    refine List.forall_mem_cons.mpr ⟨here, fun node member => ?_⟩
    obtain ⟨block, inside, among⟩ := List.mem_flatten.mp member
    exact each block inside node among
  unfold closeGroup
  split
  · rename_i cause failed
    refine ⟨flat held.nodes, ?_⟩
    rintro found ⟨⟩
    exact held.failure cause failed
  · split
    · rename_i cause refused
      refine ⟨flat held.nodes, ?_⟩
      rintro found ⟨⟩
      refine holds_of_upstreamsOf hereditary here (fun child member => ?_) refused
      obtain ⟨block, inside, isHead⟩ := List.mem_filterMap.mp member
      exact held.nodes block inside child (List.mem_of_mem_head? isHead)
    · exact ⟨flat (holds_linkBlocks held.nodes), nofun⟩

theorem holds_walkBelow {visit : Nat → String → Config → Walk} {subtasks : List (String × Config)}
    (each : ∀ subtask ∈ subtasks, ∀ index, (visit index subtask.1 subtask.2).Holds holds)
    (index : Nat) :
    (walkBelow visit index subtasks).Holds holds := by
  induction subtasks generalizing index with
  | nil => exact ⟨List.forall_mem_nil _, nofun⟩
  | cons subtask rest ih =>
      obtain ⟨here, others⟩ := List.forall_mem_cons.mp each
      obtain ⟨name, config⟩ := subtask
      have first := here index
      rw [walkBelow]
      cases failure : (visit index name config).failure with
      | some cause =>
          refine ⟨List.forall_mem_cons.mpr ⟨first.nodes, List.forall_mem_nil _⟩, ?_⟩
          rintro found ⟨⟩
          exact first.failure cause failure
      | none =>
          have later := ih others (index + (visit index name config).nodes.length)
          exact ⟨List.forall_mem_cons.mpr ⟨first.nodes, later.nodes⟩, later.failure⟩

theorem holds_walk (hereditary : Hereditary holds) (depth index : Nat) (parent : Option Holder)
    {inherited own : Config} (above : inherited.Holds holds) (name : String)
    (here : own.Holds holds) :
    (walk depth index parent inherited name own).Holds holds := by
  induction depth generalizing index parent inherited name own with
  | zero =>
      refine ⟨List.forall_mem_nil _, ?_⟩
      rintro cause ⟨⟩
      trivial
  | succ depth ih =>
      rw [walk]
      split
      · rename_i cause refused
        refine ⟨List.forall_mem_nil _, ?_⟩
        rintro found ⟨⟩
        exact holds_of_resolve_error refused
      · rename_i resolved read
        obtain ⟨defaults, options, subtasks⟩ := holds_resolve hereditary above here read
        split
        · split
          · exact ⟨List.forall_mem_singleton.mpr options, fun _ failed => by cases failed⟩
          · refine ⟨List.forall_mem_nil _, ?_⟩
            rintro cause ⟨⟩
            exact Error.holds_raised_taskWithSubtasks here
        · exact holds_closeGroup hereditary options
            (holds_walkBelow (fun subtask member place => ih place _ defaults _
              (subtasks subtask member)) _)

/-! ### Compilation -/

variable {label : String} {title : Except Problem String} {root : Config}

theorem holds_walkRoot (hereditary : Hereditary holds) (whole : root.Holds holds) :
    (walkRoot label root).Holds holds := holds_walk hereditary _ _ _ Config.holds_empty label whole

end Compiler
end TaskGraph
