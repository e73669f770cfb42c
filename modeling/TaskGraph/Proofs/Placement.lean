import TaskGraph.Compiler.Collect
import TaskGraph.Proofs.Counterparts
import Mathlib.Data.List.Basic
set_option autoImplicit false

/-! Collecting behind other builders. What is collected in the empty context can be placed behind
the builders of any other one: references and indexes move up by the number of builders that are
there, and the given parent gets those that have no parent. Every step of a collection commutes with
this, so collecting does not depend on what is there already. -/

namespace TaskGraph

theorem modify_append_right {α : Type} (left right : List α) (i : Nat) (f : α → α) :
    (left ++ right).modify (left.length + i) f = left ++ right.modify i f := by
  induction left with
  | nil => rw [List.nil_append, List.nil_append, List.length_nil, Nat.zero_add]
  | cons first rest ih =>
      rw [List.cons_append, List.length_cons, Nat.succ_add, List.modify_succ_cons,
        ih, List.cons_append]

theorem modify_append_left {α : Type} {left : List α} {i : Nat} (inside : i < left.length)
    (right : List α) (f : α → α) :
    (left ++ right).modify i f = left.modify i f ++ right := by
  induction left generalizing i with
  | nil => cases inside
  | cons first rest ih =>
      cases i with
      | zero => rfl
      | succ i => rw [List.cons_append, List.modify_succ_cons, List.modify_succ_cons,
          ih (Nat.lt_of_succ_lt_succ inside), List.cons_append]

theorem modify_append_cons {α : Type} (before rest : List α) (item : α) (f : α → α) :
    (before ++ item :: rest).modify before.length f = before ++ f item :: rest :=
  modify_append_right before (item :: rest) 0 f

theorem modify_map {α β : Type} {move : α → β} {f : α → α} {g : β → β}
    (same : ∀ a, g (move a) = move (f a)) (items : List α) (i : Nat) :
    (items.map move).modify i g = (items.modify i f).map move := by
  induction items generalizing i with
  | nil => rw [List.map_nil, List.modify_nil, List.modify_nil, List.map_nil]
  | cons first rest ih =>
      cases i with
      | zero =>
          rw [List.map_cons, List.modify_zero_cons, List.modify_zero_cons, same, List.map_cons]
      | succ i =>
          rw [List.map_cons, List.modify_succ_cons, List.modify_succ_cons, ih, List.map_cons]

theorem Fields.put_map {α β : Type} (f : α → β) (key : String) (value : α) (fields : Fields α) :
    put key (f value) (fields.map fun field => (field.1, f field.2)) =
      (put key value fields).map fun field => (field.1, f field.2) := by
  induction fields with
  | nil => rfl
  | cons field rest ih =>
      rw [List.map_cons, put, put]
      by_cases same : field.1 = key
      · rw [if_pos same, if_pos same, List.map_cons]
      · rw [if_neg same, if_neg same, List.map_cons, ih]

namespace Compiler

/-! ### Steps that correspond -/

def carryResult {α β : Type} (move : Context → Context) (carry : α → β) :
    EStateM.Result Error Context α → EStateM.Result Error Context β
  | .ok value after => .ok (carry value) (move after)
  | .error cause left => .error cause (move left)

/-- Whether a step in a moved context does what another one does
in the context itself, up to the move. -/
def Carries {α β : Type} (move : Context → Context) (carry : α → β) (step : Build α)
    (moved : Build β) : Prop :=
  ∀ context, moved.run (move context) = carryResult move carry (step.run context)

namespace Carries

variable {α β γ δ : Type} {move : Context → Context} {carry : α → β} {onward : γ → δ}

theorem pure (value : α) : Carries move carry (Pure.pure value) (Pure.pure (carry value)) :=
  fun _ => rfl

theorem throw (cause : Error) :
    Carries move carry (MonadExcept.throw cause) (MonadExcept.throw cause) := fun _ => rfl

theorem bind {step : Build α} {moved : Build β} {next : α → Build γ} {nextMoved : β → Build δ}
    (first : Carries move carry step moved)
    (later : ∀ value, Carries move onward (next value) (nextMoved (carry value))) :
    Carries move onward (step >>= next) (moved >>= nextMoved) := by
  intro context
  rw [EStateM.run_bind, EStateM.run_bind, first context]
  cases step.run context with
  | ok value after => exact later value after
  | error cause left => rfl

theorem mapM {ι : Type} {items : List ι} {step : ι → Build α} {moved : ι → Build β}
    (each : ∀ item ∈ items, Carries move carry (step item) (moved item)) :
    Carries move (List.map carry) (items.mapM step) (items.mapM moved) := by
  induction items with
  | nil => exact fun _ => rfl
  | cons item rest ih =>
      obtain ⟨here, later⟩ := List.forall_mem_cons.mp each
      rw [List.mapM_cons, List.mapM_cons]
      exact here.bind fun value => (ih later).bind fun values => fun _ => rfl

theorem readOption (result : Except Config.Error α) :
    Carries move id (Compiler.readOption result) (Compiler.readOption result) := by
  cases result with
  | ok value => exact pure value
  | error cause => exact throw _

end Carries

/-! ### Contexts -/

namespace Context

variable {context : Context}

theorem adopt_nil (context : Context) (parent : Option Ref) :
    context.adopt parent [] = context := by
  cases parent with
  | none => rfl
  | some group =>
      have same : Builder.adopt [] = id := funext fun builder => by
        rw [Builder.adopt, List.append_nil]
        rfl
      refine Context.ext ?_ rfl
      simp only [adopt, same, store_update, List.modify_id]

theorem adopt_append (context : Context) (parent : Option Ref) (children others : List Ref) :
    context.adopt parent (children ++ others) =
      (context.adopt parent children).adopt parent others := by
  cases parent with
  | none => rfl
  | some group =>
      have same : Builder.adopt (children ++ others) = Builder.adopt others ∘
          Builder.adopt children :=
        funext fun builder => by simp only [Builder.adopt, Function.comp_apply, List.append_assoc]
      refine Context.ext ?_ rfl
      simp only [adopt, same, store_update, List.modify_modify_eq]

def orphans (context : Context) : List Ref :=
  ((List.range context.store.length).map Ref.mk).filter fun ref =>
    (context.builder ref).parent.isNone

theorem orphans_update {change : Builder → Builder}
    (keeps : ∀ builder, (change builder).parent = builder.parent) (ref : Ref) :
    (context.update ref change).orphans = context.orphans := by
  rw [orphans, orphans, store_update, List.length_modify]
  refine List.filter_congr fun other member => ?_
  obtain ⟨address, inside, rfl⟩ := List.mem_map.mp member
  have has : context.Has ⟨address⟩ := List.mem_range.mp inside
  rw [builder_update has]
  split
  · rw [keeps]
  · rfl

theorem orphans_push (builder : Builder) :
    (context.push builder).orphans =
      context.orphans ++ if builder.parent.isNone then [context.next] else [] := by
  have old : ∀ ref ∈ (List.range context.store.length).map Ref.mk,
      ((context.push builder).builder ref).parent.isNone = (context.builder ref).parent.isNone := by
    intro ref member
    obtain ⟨address, inside, rfl⟩ := List.mem_map.mp member
    rw [builder_push_of_has (List.mem_range.mp inside)]
  rw [orphans, store_push, List.length_append, List.length_singleton, List.range_succ,
    List.map_append, List.filter_append, List.filter_congr old, List.map_singleton, ← next]
  simp only [List.filter_cons, List.filter_nil, builder_push_next, orphans]

end Context

/-! ### Placing a context behind another one -/

def Ref.after (count : Nat) (ref : Ref) : Ref := ⟨count + ref.address⟩

theorem Ref.after_injective (count : Nat) : Function.Injective (Ref.after count) := by
  intro first second same
  exact Ref.ext (Nat.add_left_cancel (congrArg Ref.address same))

def raised (count : Nat) (parent start : Option Ref) : Option Ref :=
  (start.map (Ref.after count)).or parent

def Builder.moved (count distance : Nat) (parent : Option Ref) (builder : Builder) : Builder where
  index := distance + builder.index
  parent := raised count parent builder.parent
  name := builder.name
  kind := builder.kind
  config := builder.config
  children := builder.children.map (Ref.after count)
  upstreams := builder.upstreams.map (Ref.after count)

section

variable {count distance : Nat} {parent : Option Ref}

theorem Builder.adopt_moved (children : List Ref) (builder : Builder) :
    (builder.moved count distance parent).adopt (children.map (Ref.after count)) =
      (builder.adopt children).moved count distance parent := by
  simp only [adopt, moved, List.map_append]

theorem Builder.await_moved (upstream : Ref) (builder : Builder) :
    (builder.moved count distance parent).await (upstream.after count) =
      (builder.await upstream).moved count distance parent := by
  have known : upstream.after count ∈ (builder.moved count distance parent).upstreams ↔
      upstream ∈ builder.upstreams :=
    List.mem_map_of_injective (Ref.after_injective count)
  unfold await
  by_cases present : upstream ∈ builder.upstreams
  · rw [if_pos present, if_pos (known.mpr present)]
  · rw [if_neg present, if_neg (mt known.mp present)]
    simp only [moved, List.map_append, List.map_cons, List.map_nil]

theorem Builder.parent_await (upstream : Ref) (builder : Builder) :
    (builder.await upstream).parent = builder.parent := by
  unfold await
  split <;> rfl

end

namespace Context

variable {context alone : Context} {parent : Option Ref}

def placed (context : Context) (parent : Option Ref) (alone : Context) : Context where
  store := (context.adopt parent (alone.orphans.map (Ref.after context.store.length))).store ++
    alone.store.map (Builder.moved context.store.length context.tasks.length parent)
  tasks := context.tasks ++ alone.tasks.map (Ref.after context.store.length)
  allocated := by
    intro ref member
    rw [List.length_append, length_store_adopt, List.length_map]
    rcases List.mem_append.mp member with here | behind
    · exact Nat.lt_add_right _ (context.allocated ref here)
    · obtain ⟨other, inside, rfl⟩ := List.mem_map.mp behind
      exact Nat.add_lt_add_left (alone.allocated other inside) _

theorem store_placed (context : Context) (parent : Option Ref) (alone : Context) :
    (context.placed parent alone).store =
      (context.adopt parent (alone.orphans.map (Ref.after context.store.length))).store ++
        alone.store.map (Builder.moved context.store.length context.tasks.length parent) := rfl

theorem tasks_placed (context : Context) (parent : Option Ref) (alone : Context) :
    (context.placed parent alone).tasks = context.tasks ++ alone.tasks.map
      (Ref.after context.store.length) := rfl

theorem length_store_placed (context : Context) (parent : Option Ref) (alone : Context) :
    (context.placed parent alone).store.length = context.store.length + alone.store.length := by
  rw [store_placed, List.length_append, length_store_adopt, List.length_map]

theorem getElem?_placed (context : Context) (parent : Option Ref) (alone : Context) (i : Nat) :
    (context.placed parent alone).store[context.store.length + i]? =
      alone.store[i]?.map (Builder.moved context.store.length context.tasks.length parent) := by
  have ahead := length_store_adopt context parent
    (alone.orphans.map (Ref.after context.store.length))
  have behind : (context.adopt parent
      (alone.orphans.map (Ref.after context.store.length))).store.length ≤
      context.store.length + i := Nat.le_trans (Nat.le_of_eq ahead) (Nat.le_add_right _ _)
  rw [store_placed, List.getElem?_append_right behind, ahead, Nat.add_sub_cancel_left,
    List.getElem?_map]

/-- What placing leaves of a builder can be read of it, even where there is none. -/
theorem field_placed {α : Type} (field : Builder → α) (kept : ∀ builder : Builder,
      field (builder.moved context.store.length context.tasks.length parent) = field builder)
        (ref : Ref) :
    field ((context.placed parent alone).builder (ref.after context.store.length)) = field
      (alone.builder ref) := by
  rw [Context.builder, Context.builder, Ref.after, getElem?_placed]
  cases alone.store[ref.address]? with
  | none => rfl
  | some builder => exact kept builder

theorem placed_empty (context : Context) (parent : Option Ref) :
    context.placed parent empty = context := by
  have orphans : empty.orphans = [] := rfl
  refine Context.ext ?_ (List.append_nil _)
  simp only [store_placed, orphans, List.map_nil, adopt_nil]
  exact List.append_nil _

theorem next_placed (context : Context) (parent : Option Ref) (alone : Context) :
    (context.placed parent alone).next = alone.next.after context.store.length := by
  rw [next, length_store_placed]
  rfl

theorem update_placed (context : Context) (parent : Option Ref) (alone : Context) (ref : Ref)
    {change changeMoved : Builder → Builder}
    (keeps : ∀ builder, (change builder).parent = builder.parent)
    (same : ∀ builder : Builder,
      changeMoved (builder.moved context.store.length context.tasks.length parent) =
        (change builder).moved context.store.length context.tasks.length parent) :
    (context.placed parent alone).update (ref.after context.store.length) changeMoved =
      context.placed parent (alone.update ref change) := by
  refine Context.ext ?_ rfl
  have ahead := length_store_adopt context parent
    (alone.orphans.map (Ref.after context.store.length))
  simp only [store_update, store_placed, orphans_update keeps]
  rw [← modify_map same, ← modify_append_right, ahead]
  rfl

theorem push_placed (context : Context) (parent : Option Ref) (alone : Context) (builder : Builder)
    (held : builder.parent.isSome) :
    (context.placed parent alone).push
      (builder.moved context.store.length context.tasks.length parent) =
      context.placed parent (alone.push builder) := by
  have orphans : (alone.push builder).orphans = alone.orphans := by
    rw [orphans_push, Option.isNone_eq_false_iff.mpr held]
    exact List.append_nil _
  refine Context.ext ?_ ?_
  · simp only [store_push, store_placed, orphans, List.map_append, List.append_assoc,
      List.map_cons, List.map_nil]
  · simp only [tasks_push, tasks_placed, next_placed, List.map_append, List.append_assoc,
      List.map_cons, List.map_nil]

theorem store_adopt_placed (known : ∀ group ∈ parent, context.Has group) (children : List Ref) :
    ((context.placed parent alone).adopt parent children).store =
      (context.adopt parent
          (alone.orphans.map (Ref.after context.store.length) ++ children)).store ++
        alone.store.map (Builder.moved context.store.length context.tasks.length parent) := by
  rw [adopt_append]
  cases parent with
  | none => rfl
  | some group =>
      have inside : group.address <
          (context.adopt (some group)
            (alone.orphans.map (Ref.after context.store.length))).store.length := by
        rw [length_store_adopt]
        exact known group rfl
      exact modify_append_left inside _ _

/-- A builder without a parent becomes a child of the given one. -/
theorem push_placed_of_orphan (alone : Context) (known : ∀ group ∈ parent, context.Has group)
    (builder : Builder) (orphan : builder.parent = none) :
    ((context.placed parent alone).adopt parent [(context.placed parent alone).next]).push
        (builder.moved context.store.length context.tasks.length parent) =
      context.placed parent (alone.push builder) := by
  have orphans : (alone.push builder).orphans = alone.orphans ++ [alone.next] := by
    rw [orphans_push, orphan]
    rfl
  have next :
      ((context.placed parent alone).adopt parent [(context.placed parent alone).next]).next =
      alone.next.after context.store.length := by
    rw [← next_placed context parent alone, Context.next, length_store_adopt]
    rfl
  refine Context.ext ?_ ?_
  · rw [store_push, store_adopt_placed known, store_placed, orphans, next_placed]
    simp only [store_push, List.map_append, List.append_assoc, List.map_cons, List.map_nil]
  · rw [tasks_push, tasks_adopt, next]
    simp only [tasks_push, tasks_placed, List.map_append, List.append_assoc, List.map_cons,
      List.map_nil]

/-- A node is added behind others as it is added alone. -/
theorem register_placed (alone : Context) (known : ∀ group ∈ parent, context.Has group)
    (start : Option Ref) (name : String) (kind : Kind) (config : Config) :
    (context.placed parent alone).register (raised context.store.length parent start)
      name kind config =
      context.placed parent (alone.register start name kind config) := by
  have index : (context.placed parent alone).tasks.length = context.tasks.length +
      alone.tasks.length := by
    rw [tasks_placed, List.length_append, List.length_map]
  rw [register, register, index]
  cases start with
  | none =>
      exact push_placed_of_orphan alone known ⟨alone.tasks.length, none, name, kind,
        config, [], []⟩ rfl
  | some group =>
      have adopted : (context.placed parent alone).adopt (some (group.after context.store.length))
            [(context.placed parent alone).next] =
          context.placed parent (alone.adopt (some group) [alone.next]) := by
        rw [next_placed]
        exact update_placed context parent alone group (fun _ => rfl)
          (Builder.adopt_moved [alone.next])
      have held : raised context.store.length parent (some group) = some
          (group.after context.store.length) := rfl
      rw [held, adopted]
      exact push_placed context parent (alone.adopt (some group) [alone.next])
        ⟨alone.tasks.length, some group, name, kind, config, [], []⟩ rfl

end Context

/-! ### Collecting behind others -/

section

variable {context : Context} {parent : Option Ref}

def seenAfter (count : Nat) (seen : Fields Ref) : Fields Ref := seen.map fun entry =>
  (entry.1, entry.2.after count)

theorem carries_addTask (known : ∀ group ∈ parent, context.Has group) (start : Option Ref)
    (name : String) (kind : Kind) (config : Config) :
    Carries (context.placed parent) (Ref.after context.store.length)
      (addTask start name kind config)
      (addTask (raised context.store.length parent start) name kind config) := by
  intro alone
  have added := Context.register_placed alone known start name kind config
  change EStateM.Result.ok _ _ = EStateM.Result.ok _ _
  rw [added, Context.next_placed]

theorem carries_addUpstream (ref upstream : Ref) :
    Carries (context.placed parent) id (addUpstream ref upstream)
      (addUpstream (ref.after context.store.length) (upstream.after context.store.length)) := by
  intro alone
  have updated := Context.update_placed context parent alone ref
    (Builder.parent_await upstream) (Builder.await_moved upstream)
  exact congrArg (EStateM.Result.ok ()) updated

theorem carries_configOf (ref : Ref) :
    Carries (context.placed parent) id (configOf ref) (configOf (ref.after context.store.length)) :=
  fun alone =>
  congrArg (EStateM.Result.ok · (context.placed parent alone))
    (Context.field_placed Builder.config (fun _ => rfl) ref)

theorem carries_nameOf (ref : Ref) :
    Carries (context.placed parent) id (nameOf ref) (nameOf (ref.after context.store.length)) :=
  fun alone =>
  congrArg (EStateM.Result.ok · (context.placed parent alone))
    (Context.field_placed Builder.name (fun _ => rfl) ref)

theorem carries_awaitNames (seen : Fields Ref) (subtask : Ref) (config : Config)
    (names : List String) :
    Carries (context.placed parent) id (awaitNames seen subtask config names)
      (awaitNames (seenAfter context.store.length seen)
        (subtask.after context.store.length) config names) := by
  induction names with
  | nil => exact .pure ()
  | cons name rest ih =>
      rw [awaitNames, awaitNames, seenAfter, Fields.get?_map]
      cases seen.get? name with
      | none => exact .throw _
      | some upstream => exact (carries_addUpstream subtask upstream).bind fun _ => ih

theorem carries_linkNamed (seen : Fields Ref) (subtasks : List Ref) :
    Carries (context.placed parent) id (linkNamed seen subtasks)
      (linkNamed (seenAfter context.store.length seen)
        (subtasks.map (Ref.after context.store.length))) := by
  induction subtasks generalizing seen with
  | nil => exact .pure ()
  | cons subtask rest ih =>
      rw [List.map_cons, linkNamed, linkNamed]
      refine (carries_configOf subtask).bind fun config =>
        (Carries.readOption _).bind fun names => ?_
      refine (carries_awaitNames seen subtask config names).bind fun _ =>
        (carries_nameOf subtask).bind fun name => ?_
      have later := ih (seen.put name subtask)
      rw [seenAfter, ← Fields.put_map] at later
      exact later

theorem carries_linkChain (subtasks : List Ref) :
    Carries (context.placed parent) id (linkChain subtasks)
      (linkChain (subtasks.map (Ref.after context.store.length))) := by
  induction subtasks with
  | nil => exact .pure ()
  | cons before rest ih =>
      cases rest with
      | nil => exact .pure ()
      | cons subtask later => exact (carries_addUpstream subtask before).bind fun _ => ih

theorem carries_link (group : Config) (subtasks : List Ref) :
    Carries (context.placed parent) id (link group subtasks)
      (link group (subtasks.map (Ref.after context.store.length))) := by
  refine (Carries.readOption _).bind fun parallel => ?_
  cases parallel with
  | true => exact carries_linkNamed [] subtasks
  | false =>
      by_cases waits : group.has "after" = true
      · simp only [waits, if_true]
        exact .throw _
      · simp only [waits]
        exact carries_linkChain subtasks

/-- Every step of a collection does behind others what it does alone. -/
theorem carries_collect (known : ∀ group ∈ parent, context.Has group) (depth : Nat)
    (start : Option Ref) (inherited : Config) (name : String) (own : Config) :
    Carries (context.placed parent) (Ref.after context.store.length)
      (collect depth start inherited name own)
      (collect depth (raised context.store.length parent start) inherited name own) := by
  induction depth generalizing start inherited name own with
  | zero => exact .throw _
  | succ depth ih =>
      rw [collect, collect]
      refine (Carries.readOption _).bind fun resolved => ?_
      by_cases isTask : resolved.options.isTask = true
      · simp only [id, if_pos isTask]
        by_cases alone : resolved.subtasks.isEmpty = true
        · simp only [if_pos alone]
          exact carries_addTask known start name .task resolved.options
        · simp only [if_neg alone]
          exact .throw _
      · simp only [id, if_neg isTask]
        refine (carries_addTask known start name .group resolved.options).bind fun group => ?_
        refine (Carries.mapM fun subtask _ => ih (some group) resolved.defaults subtask.1
          subtask.2).bind fun subtasks => ?_
        exact (carries_link resolved.options subtasks).bind fun _ => .pure group

/-- Collecting in a context is collecting in the empty one and
placing what comes of it behind what is there. -/
theorem collect_eq_placed (known : ∀ group ∈ parent, context.Has group) (depth : Nat)
    (inherited : Config) (name : String) (own : Config) :
    (collect depth parent inherited name own).run context =
      carryResult (context.placed parent) (Ref.after context.store.length)
        ((collect depth none inherited name own).run .empty) := by
  have carried := carries_collect known depth none inherited name own .empty
  rw [Context.placed_empty] at carried
  exact carried

end

end Compiler
end TaskGraph
