import TaskGraph.Compiler.Collect
set_option autoImplicit false

/-! Contexts that stand on their own: they list every builder at the place that its index tells, and
no builder refers to one that is not there. Such a context reads as a list of nodes, and each step
of a collection changes that list in one place. -/

namespace TaskGraph.Compiler

def Node.await (index : Nat) (node : Node) : Node :=
  if index ∈ node.upstreams then node else { node with upstreams := node.upstreams ++ [index] }

namespace Context

variable {context : Context}

/-- Whether all builders are listed, each at its index, and refer to listed ones, a child to its
group behind it; only the first one can be without a parent. -/
structure Closed (context : Context) : Prop where
  tasks : context.tasks = (List.range context.store.length).map Ref.mk
  index : ∀ ref, context.Has ref → (context.builder ref).index = ref.address
  parent : ∀ ref, context.Has ref → ∀ group, (context.builder ref).parent = some group →
    group.address < ref.address
  orphan : ∀ ref, context.Has ref → (context.builder ref).parent = none → ref.address = 0
  upstreams : ∀ ref, context.Has ref → ∀ upstream ∈ (context.builder ref).upstreams,
    context.Has upstream

theorem closed_empty : empty.Closed where
  tasks := rfl
  index := nofun
  parent := nofun
  orphan := nofun
  upstreams := nofun

namespace Closed

theorem mem_tasks_iff (closed : context.Closed) (ref : Ref) :
    ref ∈ context.tasks ↔ context.Has ref := by
  rw [closed.tasks, List.mem_map]
  constructor
  · rintro ⟨address, inside, rfl⟩
    exact List.mem_range.mp inside
  · intro has
    exact ⟨ref.address, List.mem_range.mpr has, rfl⟩

theorem address_of_getElem? (closed : context.Closed) {place : Nat} {ref : Ref}
    (found : context.tasks[place]? = some ref) : ref.address = place := by
  rw [closed.tasks, List.getElem?_map, Option.map_eq_some_iff] at found
  obtain ⟨address, isAddress, rfl⟩ := found
  obtain ⟨_, rfl⟩ := List.getElem?_eq_some_iff.mp isAddress
  exact List.getElem_range _

theorem length_tasks (closed : context.Closed) : context.tasks.length = context.store.length := by
  rw [closed.tasks, List.length_map, List.length_range]

theorem has_parent (closed : context.Closed) {ref group : Ref} (has : context.Has ref)
    (held : (context.builder ref).parent = some group) : context.Has group :=
  Nat.lt_trans (closed.parent ref has group held) has

theorem parent_eq_none_iff (closed : context.Closed) {ref : Ref} (has : context.Has ref) :
    (context.builder ref).parent = none ↔ ref.address = 0 := by
  refine ⟨closed.orphan ref has, fun first => ?_⟩
  cases held : (context.builder ref).parent with
  | none => rfl
  | some group =>
      have earlier := closed.parent ref has group held
      rw [first] at earlier
      cases earlier

/-- A change that leaves a builder in its place and adds no upstream from elsewhere. -/
protected theorem update (closed : context.Closed) (change : Builder → Builder)
    (index : ∀ builder, (change builder).index = builder.index)
    (parent : ∀ builder, (change builder).parent = builder.parent)
    (upstreams : ∀ builder, ∀ upstream ∈ (change builder).upstreams,
      upstream ∈ builder.upstreams ∨ context.Has upstream)
    (ref : Ref) : (context.update ref change).Closed where
  tasks := by
    rw [tasks_update, store_update, List.length_modify]
    exact closed.tasks
  index other has := by
    have there := (has_update context ref other change).mp has
    rw [builder_update there]
    split
    · rw [index, closed.index other there]
    · exact closed.index other there
  parent other has group held := by
    have there := (has_update context ref other change).mp has
    rw [builder_update there] at held
    split at held
    · rw [parent] at held
      exact closed.parent other there group held
    · exact closed.parent other there group held
  orphan other has alone := by
    have there := (has_update context ref other change).mp has
    rw [builder_update there] at alone
    split at alone
    · rw [parent] at alone
      exact closed.orphan other there alone
    · exact closed.orphan other there alone
  upstreams other has upstream member := by
    have there := (has_update context ref other change).mp has
    rw [has_update]
    rw [builder_update there] at member
    split at member
    · exact (upstreams _ upstream member).elim (closed.upstreams other there upstream) id
    · exact closed.upstreams other there upstream member

protected theorem adopt (closed : context.Closed) (parent : Option Ref) (children : List Ref) :
    (context.adopt parent children).Closed := by
  cases parent with
  | none => exact closed
  | some group =>
      exact closed.update (Builder.adopt children) (fun _ => rfl) (fun _ => rfl)
        (fun _ _ member => Or.inl member) group

protected theorem await (closed : context.Closed) {upstream : Ref} (known : context.Has upstream)
    (ref : Ref) :
    (context.update ref (·.await upstream)).Closed := by
  refine closed.update _ (fun builder => ?_) (fun builder => ?_)
    (fun builder other member => ?_) ref
  · unfold Builder.await
    split <;> rfl
  · unfold Builder.await
    split <;> rfl
  · unfold Builder.await at member
    split at member
    · exact Or.inl member
    · rcases List.mem_append.mp member with here | last
      · exact Or.inl here
      · rw [List.mem_singleton.mp last]
        exact Or.inr known

protected theorem push (closed : context.Closed) {added : Builder}
    (index : added.index = context.store.length)
    (parent : ∀ group, added.parent = some group → context.Has group)
    (orphan : added.parent = none → context.store = []) (upstreams : added.upstreams = []) :
    (context.push added).Closed where
  tasks := by
    rw [tasks_push, store_push, closed.tasks, List.length_append, List.length_singleton,
      List.range_succ, List.map_append]
    rfl
  index ref has := by
    rcases (has_push context added ref).mp has with there | rfl
    · rw [builder_push_of_has there, closed.index ref there]
    · rw [builder_push_next, index, next]
  parent ref has group held := by
    rcases (has_push context added ref).mp has with there | rfl
    · rw [builder_push_of_has there] at held
      exact closed.parent ref there group held
    · rw [builder_push_next] at held
      exact parent group held
  orphan ref has alone := by
    rcases (has_push context added ref).mp has with there | rfl
    · rw [builder_push_of_has there] at alone
      exact closed.orphan ref there alone
    · rw [builder_push_next] at alone
      rw [next, orphan alone, List.length_nil]
  upstreams ref has upstream member := by
    rw [has_push]
    rcases (has_push context added ref).mp has with there | rfl
    · rw [builder_push_of_has there] at member
      exact Or.inl (closed.upstreams ref there upstream member)
    · rw [builder_push_next, upstreams] at member
      cases member

/-- A node can be added under a builder that is there, or as the first one. -/
protected theorem register (closed : context.Closed) {start : Option Ref}
    (known : ∀ group, start = some group → context.Has group)
    (first : start = none → context.store = []) (name : String) (kind : Kind) (config : Config) :
    (context.register start name kind config).Closed := by
  refine (closed.adopt start [context.next]).push ?_ ?_ ?_ rfl
  · rw [length_store_adopt]
    exact closed.length_tasks
  · intro group held
    rw [has_adopt]
    exact known group held
  · intro alone
    rw [show start = none from alone]
    exact first alone

end Closed

/-! ### Contexts as lists of nodes -/

def holder (context : Context) (ref : Ref) : Holder :=
  ⟨(context.builder ref).index, (context.builder ref).name⟩

/-- A builder as a node, with those it refers to by their indexes. -/
def node (context : Context) (ref : Ref) : Node where
  name := (context.builder ref).name
  index := (context.builder ref).index
  parent := (context.builder ref).parent.map context.holder
  upstreams := (context.builder ref).upstreams.map fun upstream => (context.builder upstream).index
  kind := (context.builder ref).kind
  config := (context.builder ref).config

def outline (context : Context) : List Node := context.tasks.map context.node

theorem Closed.upstreams_node (closed : context.Closed) {ref : Ref} (has : context.Has ref) :
    (context.node ref).upstreams = (context.builder ref).upstreams.map Ref.address :=
  List.map_congr_left fun upstream member =>
    closed.index upstream (closed.upstreams ref has upstream member)

/-- Where groups stay what they are, a builder with other children and
upstreams reads as a node with these upstreams. -/
theorem Closed.node_congr (closed : context.Closed) {after : Context} {ref : Ref}
    (has : context.Has ref) (holders : ∀ other, context.Has other →
      after.holder other = context.holder other) {children upstreams : List Ref}
    (known : ∀ upstream ∈ upstreams, context.Has upstream)
    (same : after.builder ref = { context.builder ref with children, upstreams }) :
    after.node ref = { context.node ref with upstreams := upstreams.map Ref.address } := by
  have parent : (context.builder ref).parent.map after.holder =
      (context.builder ref).parent.map context.holder := by
    cases held : (context.builder ref).parent with
    | none => rfl
    | some group => exact congrArg some (holders group (closed.has_parent has held))
  have indexes : upstreams.map (fun upstream => (after.builder upstream).index) =
      upstreams.map Ref.address := by
    refine List.map_congr_left fun upstream member => ?_
    rw [← closed.index upstream (known upstream member)]
    exact congrArg Holder.index (holders upstream (known upstream member))
  rw [node, same]
  dsimp only
  rw [parent, indexes]
  rfl

theorem Closed.node_eq (closed : context.Closed) {after : Context} {ref : Ref}
    (has : context.Has ref) (holders : ∀ other, context.Has other →
      after.holder other = context.holder other) {children : List Ref}
    (same : after.builder ref = { context.builder ref with children }) :
    after.node ref = context.node ref := by
  rw [closed.node_congr has holders (closed.upstreams ref has) same, ← closed.upstreams_node has]

theorem holder_register_of_has {ref : Ref} (has : context.Has ref) (start : Option Ref)
    (name : String) (kind : Kind) (config : Config) :
    (context.register start name kind config).holder ref = context.holder ref := by
  rw [holder, builder_register_of_has has]
  split <;> rfl

/-- A node that is added stands at the end of the outline, and nothing else changes. -/
theorem Closed.outline_register (closed : context.Closed) {start : Option Ref}
    (known : ∀ group, start = some group → context.Has group) (name : String) (kind : Kind)
    (config : Config) :
    (context.register start name kind config).outline =
      context.outline ++ [⟨name, context.tasks.length, start.map context.holder,
        [], kind, config⟩] := by
  have holders (other : Ref) (has : context.Has other) :=
    holder_register_of_has has start name kind config
  have old : context.tasks.map (context.register start name kind config).node =
      context.outline := by
    refine List.map_congr_left fun ref member => ?_
    have has := context.allocated ref member
    obtain ⟨children, same⟩ : ∃ children, (context.register start name kind config).builder ref =
        { context.builder ref with children } := by
      rw [builder_register_of_has has]
      split <;> exact ⟨_, rfl⟩
    exact closed.node_eq has holders same
  have held : start.map (context.register start name kind config).holder =
      start.map context.holder := by
    cases start with
    | none => rfl
    | some group => exact congrArg some (holders group (known group rfl))
  have last : (context.register start name kind config).node context.next =
      ⟨name, context.tasks.length, start.map context.holder, [], kind, config⟩ := by
    rw [node, builder_register_next, held]
    rfl
  rw [outline, tasks_register, List.map_append, old, List.map_singleton, last]

namespace Closed

theorem getElem?_outline (closed : context.Closed) {ref : Ref} (has : context.Has ref) :
    context.outline[ref.address]? = some (context.node ref) := by
  rw [outline, closed.tasks, List.getElem?_map, List.getElem?_map, List.getElem?_range has]
  rfl

theorem length_outline (closed : context.Closed) :
    context.outline.length = context.store.length := by
  rw [outline, List.length_map, closed.length_tasks]

theorem node_await (closed : context.Closed) {upstream : Ref} (known : context.Has upstream)
    {ref other : Ref} (has : context.Has other) :
    (context.update ref (·.await upstream)).node other =
      if ref = other then (context.node other).await upstream.address else context.node other := by
  have changed := builder_update has ref (·.await upstream)
  have holders (group : Ref) (there : context.Has group) :
      (context.update ref (·.await upstream)).holder group = context.holder group := by
    rw [holder, builder_update there]
    unfold Builder.await
    split
    · split <;> rfl
    · rfl
  have listed : upstream.address ∈ (context.node other).upstreams ↔
      upstream ∈ (context.builder other).upstreams := by
    rw [closed.upstreams_node has, List.mem_map]
    exact ⟨fun ⟨_, member, same⟩ => Ref.ext same ▸ member, fun member => ⟨upstream, member, rfl⟩⟩
  unfold Node.await
  unfold Builder.await at changed
  by_cases here : ref = other
  · rw [if_pos here] at changed ⊢
    by_cases present : upstream ∈ (context.builder other).upstreams
    · rw [if_pos present] at changed
      rw [if_pos (listed.mpr present)]
      exact closed.node_eq has holders changed
    · rw [if_neg present] at changed
      rw [if_neg (mt listed.mp present), closed.upstreams_node has]
      have all : ∀ each ∈ (context.builder other).upstreams ++ [upstream], context.Has each :=
        List.forall_mem_append.mpr ⟨closed.upstreams other has, List.forall_mem_singleton.mpr known⟩
      rw [closed.node_congr has holders all changed, List.map_append]
      rfl
  · rw [if_neg here] at changed ⊢
    exact closed.node_eq has holders changed

/-- A builder whose upstreams grow is one node that changes. -/
theorem outline_await (closed : context.Closed) {upstream : Ref} (known : context.Has upstream)
    (ref : Ref) :
    (context.update ref (·.await upstream)).outline = context.outline.modify ref.address
      (Node.await upstream.address) := by
  have after := closed.await known ref
  refine List.ext_getElem? fun address => ?_
  by_cases inside : address < context.store.length
  · have has : context.Has ⟨address⟩ := inside
    have found := closed.getElem?_outline has
    have foundAfter := after.getElem?_outline ((has_update context ref ⟨address⟩ _).mpr has)
    rw [closed.node_await known has] at foundAfter
    have same : ref.address = address ↔ ref = ⟨address⟩ := Ref.ext_iff.symm
    rw [foundAfter, List.getElem?_modify, found]
    simp only [same]
    split <;> rfl
  · have outside := Nat.le_of_not_lt inside
    rw [List.getElem?_eq_none, List.getElem?_eq_none]
    · rw [List.length_modify, closed.length_outline]
      exact outside
    · rw [after.length_outline, store_update, List.length_modify]
      exact outside

end Closed
end Context
end TaskGraph.Compiler
