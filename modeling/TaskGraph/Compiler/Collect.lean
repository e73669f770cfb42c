import TaskGraph.Compiler.Walk
set_option autoImplicit false

/-! The walk over a definition as it is made in place. Builders lie in a store and refer to each
other; a context lists the builders that were added to it. Collecting a definition adds a builder
for every node, and a builder is changed again later: it gets its children when they are added and
its upstreams when its group links them. -/

namespace TaskGraph.Compiler

/-- A reference to a builder. -/
@[ext]
structure Ref where
  address : Nat
deriving DecidableEq

structure Builder where
  index : Nat
  parent : Option Ref
  name : String
  kind : Kind
  config : Config
  children : List Ref
  upstreams : List Ref

namespace Builder

instance : Inhabited Builder := ⟨⟨0, none, "", .group, Config.empty, [], []⟩⟩

def adopt (children : List Ref) (builder : Builder) : Builder :=
  { builder with children := builder.children ++ children }

def await (upstream : Ref) (builder : Builder) : Builder :=
  if upstream ∈ builder.upstreams then builder
  else { builder with upstreams := builder.upstreams ++ [upstream] }

end Builder

/-- The builders that there are, and those that were added in one compilation, in order. -/
@[ext]
structure Context where
  store : List Builder
  tasks : List Ref
  allocated : ∀ ref ∈ tasks, ref.address < store.length

namespace Context

def empty : Context := ⟨[], [], nofun⟩

def Has (context : Context) (ref : Ref) : Prop := ref.address < context.store.length

instance (context : Context) (ref : Ref) : Decidable (context.Has ref) :=
  inferInstanceAs (Decidable (ref.address < context.store.length))

def builder (context : Context) (ref : Ref) : Builder := context.store[ref.address]?.getD default

def update (context : Context) (ref : Ref) (change : Builder → Builder) : Context where
  store := context.store.modify ref.address change
  tasks := context.tasks
  allocated := by simpa using context.allocated

@[simp] theorem store_update (context : Context) (ref : Ref) (change : Builder → Builder) :
    (context.update ref change).store = context.store.modify ref.address change := rfl

@[simp] theorem tasks_update (context : Context) (ref : Ref) (change : Builder → Builder) :
    (context.update ref change).tasks = context.tasks := rfl

theorem has_update (context : Context) (ref other : Ref) (change : Builder → Builder) :
    (context.update ref change).Has other ↔ context.Has other := by
  rw [Has, Has, store_update, List.length_modify]

theorem builder_update {context : Context} {other : Ref} (has : context.Has other) (ref : Ref)
    (change : Builder → Builder) :
    (context.update ref change).builder other =
      if ref = other then change (context.builder other) else context.builder other := by
  have same : ref.address = other.address ↔ ref = other := Ref.ext_iff.symm
  obtain ⟨found, there⟩ : ∃ found, context.store[other.address]? = some found :=
    ⟨_, List.getElem?_eq_getElem has⟩
  by_cases here : ref = other
  · simp only [builder, store_update, List.getElem?_modify, there, if_pos here,
      if_pos (same.mpr here)]
    rfl
  · simp only [builder, store_update, List.getElem?_modify, there, if_neg here,
      if_neg (mt same.mp here)]
    rfl

def adopt (context : Context) (parent : Option Ref) (children : List Ref) : Context :=
  match parent with
  | none => context
  | some group => context.update group (·.adopt children)

@[simp] theorem length_store_adopt (context : Context) (parent : Option Ref) (children : List Ref) :
    (context.adopt parent children).store.length = context.store.length := by
  cases parent with
  | none => rfl
  | some group => exact List.length_modify ..

@[simp] theorem tasks_adopt (context : Context) (parent : Option Ref) (children : List Ref) :
    (context.adopt parent children).tasks = context.tasks := by
  cases parent <;> rfl

theorem has_adopt (context : Context) (parent : Option Ref) (children : List Ref) (ref : Ref) :
    (context.adopt parent children).Has ref ↔ context.Has ref := by
  rw [Has, Has, length_store_adopt]

theorem builder_adopt {context : Context} {ref : Ref} (has : context.Has ref) (parent : Option Ref)
    (children : List Ref) :
    (context.adopt parent children).builder ref =
      if parent = some ref then (context.builder ref).adopt children else context.builder ref := by
  cases parent with
  | none => rw [if_neg nofun, adopt]
  | some group =>
      rw [adopt, builder_update has]
      simp only [Option.some.injEq]

def next (context : Context) : Ref := ⟨context.store.length⟩

def push (context : Context) (builder : Builder) : Context where
  store := context.store ++ [builder]
  tasks := context.tasks ++ [context.next]
  allocated := by
    intro ref member
    rw [List.length_append, List.length_singleton]
    rcases List.mem_append.mp member with here | last
    · exact Nat.lt_succ_of_lt (context.allocated ref here)
    · rw [List.mem_singleton.mp last]
      exact Nat.lt_succ_self _

@[simp] theorem store_push (context : Context) (builder : Builder) :
    (context.push builder).store = context.store ++ [builder] := rfl

@[simp] theorem tasks_push (context : Context) (builder : Builder) :
    (context.push builder).tasks = context.tasks ++ [context.next] := rfl

theorem has_push (context : Context) (builder : Builder) (ref : Ref) :
    (context.push builder).Has ref ↔ context.Has ref ∨ ref = context.next := by
  have last : ref.address = context.store.length ↔ ref = context.next := Ref.ext_iff.symm
  rw [Has, Has, store_push, List.length_append, List.length_singleton,
    Nat.lt_succ_iff_lt_or_eq, last]

theorem builder_push_of_has {context : Context} {ref : Ref} (has : context.Has ref)
    (added : Builder) :
    (context.push added).builder ref = context.builder ref := by
  rw [builder, builder, store_push, List.getElem?_append_left has]

theorem builder_push_next (context : Context) (added : Builder) :
    (context.push added).builder context.next = added := by
  rw [builder, store_push, next, List.getElem?_append_right (Nat.le_refl _), Nat.sub_self]
  rfl

/-- Adds a builder for a node, also to the children of its parent. Its
index is the number of builders added before. -/
def register (context : Context) (parent : Option Ref) (name : String) (kind : Kind)
    (config : Config) : Context :=
  (context.adopt parent [context.next]).push ⟨context.tasks.length, parent, name,
    kind, config, [], []⟩

theorem next_adopt (context : Context) (parent : Option Ref) (children : List Ref) :
    (context.adopt parent children).next = context.next := by
  rw [next, length_store_adopt, next]

@[simp] theorem tasks_register (context : Context) (parent : Option Ref) (name : String)
    (kind : Kind) (config : Config) :
    (context.register parent name kind config).tasks = context.tasks ++ [context.next] := by
  rw [register, tasks_push, tasks_adopt, next_adopt]

theorem has_register (context : Context) (parent : Option Ref) (name : String) (kind : Kind)
    (config : Config) (ref : Ref) :
    (context.register parent name kind config).Has ref ↔ context.Has ref ∨ ref = context.next := by
  rw [register, has_push, has_adopt, next_adopt]

theorem builder_register_next (context : Context) (parent : Option Ref) (name : String)
    (kind : Kind) (config : Config) :
    (context.register parent name kind config).builder context.next =
      ⟨context.tasks.length, parent, name, kind, config, [], []⟩ := by
  have added := builder_push_next (context.adopt parent [context.next])
    ⟨context.tasks.length, parent, name, kind, config, [], []⟩
  rw [next_adopt] at added
  exact added

theorem builder_register_of_has {context : Context} {ref : Ref} (has : context.Has ref)
    (parent : Option Ref) (name : String) (kind : Kind) (config : Config) :
    (context.register parent name kind config).builder ref =
      if parent = some ref then (context.builder ref).adopt [context.next]
        else context.builder ref := by
  rw [register, builder_push_of_has ((has_adopt context parent [context.next] ref).mpr has),
    builder_adopt has]

end Context

abbrev Build := EStateM Error Context

def readOption {α : Type} : Except Config.Error α → Build α
  | .ok value => pure value
  | .error cause => throw (.option cause)

def addTask (parent : Option Ref) (name : String) (kind : Kind) (config : Config) : Build Ref :=
  modifyGet fun context => (context.next, context.register parent name kind config)

def configOf (ref : Ref) : Build Config := do return ((← get).builder ref).config

def nameOf (ref : Ref) : Build String := do return ((← get).builder ref).name

def addUpstream (ref upstream : Ref) : Build Unit := modify (·.update ref (·.await upstream))

def awaitNames (seen : Fields Ref) (subtask : Ref) (config : Config) : List String → Build Unit
  | [] => pure ()
  | name :: rest =>
      match seen.get? name with
      | none => throw (.unknownDependency name config)
      | some upstream => do
          addUpstream subtask upstream
          awaitNames seen subtask config rest

def linkNamed : Fields Ref → List Ref → Build Unit
  | _, [] => pure ()
  | seen, subtask :: rest => do
      let config ← configOf subtask
      let names ← readOption (config.names "after")
      awaitNames seen subtask config names
      let name ← nameOf subtask
      linkNamed (seen.put name subtask) rest

def linkChain : List Ref → Build Unit
  | before :: subtask :: rest => do
      addUpstream subtask before
      linkChain (subtask :: rest)
  | _ => pure ()

def link (group : Config) (subtasks : List Ref) : Build Unit := do
  let parallel ← readOption (group.bool "parallel" false)
  if parallel then linkNamed [] subtasks
  else if group.has "after" then throw (.afterWithoutParallel group)
  else linkChain subtasks

/-- Adds builders for a node and for all below it, and gives the one of
the node. The number bounds how deep the calls go. -/
def collect : Nat → Option Ref → Config → String → Config → Build Ref
  | 0, _, _, _, _ => throw .endless
  | depth + 1, parent, inherited, name, own => do
      let resolved ← readOption (resolve inherited own)
      if resolved.options.isTask then
        if resolved.subtasks.isEmpty then addTask parent name .task resolved.options
        else throw (Error.taskWithSubtasks own).raised
      else
        let group ← addTask parent name .group resolved.options
        let subtasks ← resolved.subtasks.mapM fun subtask =>
          collect depth (some group) resolved.defaults subtask.1 subtask.2
        link resolved.options subtasks
        return group

end TaskGraph.Compiler
