import TaskGraph.Proofs.MovedWalks
set_option autoImplicit false

/-! Collecting appends. Whatever a context holds, collecting a definition adds a block of new
builders at its end and changes nothing else but the children of the given parent; the block is the
one that the empty context gets, moved up. -/

namespace TaskGraph.Compiler

/-! ### Builders of a placed context -/

namespace Context

variable {context alone : Context} {parent : Option Ref}

theorem builder_placed_of_has {ref : Ref} (has : context.Has ref) :
    (context.placed parent alone).builder ref =
      if parent = some ref then
        (context.builder ref).adopt (alone.orphans.map (Ref.after context.store.length))
      else context.builder ref := by
  have inside := (has_adopt context parent (alone.orphans.map (Ref.after context.store.length))
    ref).mpr has
  rw [← builder_adopt has, builder, builder, store_placed, List.getElem?_append_left inside]

theorem builder_placed_after {ref : Ref} (has : alone.Has ref) :
    (context.placed parent alone).builder (ref.after context.store.length) =
      (alone.builder ref).moved context.store.length context.tasks.length parent := by
  obtain ⟨found, there⟩ : ∃ found, alone.store[ref.address]? = some found :=
    ⟨_, List.getElem?_eq_getElem has⟩
  rw [builder, builder, Ref.after, getElem?_placed, there]
  rfl

theorem parent_placed_after {ref : Ref} (has : alone.Has ref) :
    ((context.placed parent alone).builder (ref.after context.store.length)).parent =
      raised context.store.length parent (alone.builder ref).parent :=
  congrArg Builder.parent (builder_placed_after has)

theorem has_placed_after {ref : Ref} (has : alone.Has ref) :
    (context.placed parent alone).Has (ref.after context.store.length) := by
  rw [Has, length_store_placed]
  exact Nat.add_lt_add_left has _

theorem not_has_after (context : Context) (ref : Ref) :
    ¬context.Has (ref.after context.store.length) :=
  Nat.not_lt_of_le (Nat.le_add_right _ _)

theorem holder_placed_of_has {ref : Ref} (has : context.Has ref) :
    (context.placed parent alone).holder ref = context.holder ref := by
  rw [holder, builder_placed_of_has has]
  split <;> rfl

theorem holder_placed_after {ref : Ref} (has : alone.Has ref) :
    (context.placed parent alone).holder (ref.after context.store.length) =
      (alone.holder ref).after context.tasks.length := by
  rw [holder, builder_placed_after has]
  rfl

namespace Closed

theorem nodup_tasks (closed : alone.Closed) : alone.tasks.Nodup := by
  rw [closed.tasks]
  exact List.nodup_range.map fun _ _ same => congrArg Ref.address same

theorem orphans (closed : alone.Closed) (filled : alone.store ≠ []) : alone.orphans = [⟨0⟩] := by
  obtain ⟨count, length⟩ := Nat.exists_eq_succ_of_ne_zero (mt List.length_eq_zero_iff.mp filled)
  have isOrphan (ref : Ref) (has : alone.Has ref) : (alone.builder ref).parent.isNone = true ↔
      ref.address = 0 := by
    rw [Option.isNone_iff_eq_none, closed.parent_eq_none_iff has]
  have first : alone.Has ⟨0⟩ := by
    rw [Has, length]
    exact Nat.succ_pos count
  rw [Context.orphans, length, List.range_succ_eq_map, List.map_cons, List.filter_cons,
    if_pos ((isOrphan ⟨0⟩ first).mpr rfl), List.cons_inj_right, List.filter_eq_nil_iff]
  intro ref member orphan
  obtain ⟨address, below, rfl⟩ := List.mem_map.mp member
  obtain ⟨before, inside, rfl⟩ := List.mem_map.mp below
  have has : alone.Has ⟨before.succ⟩ := by
    rw [Has, length]
    exact Nat.succ_lt_succ (List.mem_range.mp inside)
  cases (isOrphan _ has).mp orphan

theorem node_placed_after (closed : alone.Closed)
    (known : ∀ group, parent = some group → context.Has group) {ref : Ref} (has : alone.Has ref) :
    (context.placed parent alone).node (ref.after context.store.length) =
      (alone.node ref).moved context.tasks.length (parent.map context.holder) := by
  have held : (raised context.store.length parent (alone.builder ref).parent).map
      (context.placed parent alone).holder =
      (((alone.builder ref).parent.map alone.holder).map (Holder.after context.tasks.length)).or
        (parent.map context.holder) := by
    cases isHeld : (alone.builder ref).parent with
    | none =>
        cases parent with
        | none => rfl
        | some group => exact congrArg some (holder_placed_of_has (known group rfl))
    | some group => exact congrArg some (holder_placed_after (closed.has_parent has isHeld))
  have upstreams : ((alone.builder ref).upstreams.map (Ref.after context.store.length)).map
        (fun upstream => ((context.placed parent alone).builder upstream).index) =
      ((alone.builder ref).upstreams.map fun upstream => (alone.builder upstream).index).map
        (context.tasks.length + ·) := by
    rw [List.map_map, List.map_map]
    refine List.map_congr_left fun upstream member => ?_
    rw [Function.comp_apply, builder_placed_after (closed.upstreams ref has upstream member)]
    rfl
  rw [node, builder_placed_after has, Builder.moved]
  dsimp only
  rw [held, upstreams]
  rfl

end Closed
end Context

/-! ### What collecting leaves -/

/-- What collecting leaves: the builders that were there, with one more child of the given parent,
and behind them a block of new ones. It begins with the one that is given back, has indexes that go
on, and refers to no builder outside but that parent. -/
structure Appends (context : Context) (parent : Option Ref) (root : Ref) (after : Context)
    (block : List Ref) : Prop where
  tasks : after.tasks = context.tasks ++ block
  first : block.head? = some root
  new : ∀ ref ∈ block, after.Has ref ∧ ¬context.Has ref
  distinct : block.Nodup
  index : ∀ place ref, block[place]? = some ref →
    (after.builder ref).index = context.tasks.length + place
  held : (after.builder root).parent = parent
  within : ∀ ref ∈ block, ref ≠ root → ∃ group ∈ block, (after.builder ref).parent = some group
  upstreams : ∀ ref ∈ block, ∀ upstream ∈ (after.builder ref).upstreams, upstream ∈ block
  others : ∀ ref, context.Has ref → after.builder ref =
    { context.builder ref with
      children := (context.builder ref).children ++ if parent = some ref then [root] else [] }

/-- Whether a block and its first builder are those of another context, moved behind those of a
context and under a parent. -/
structure Repeats (context : Context) (parent : Option Ref) (root : Ref) (after : Context)
    (block : List Ref) (first : Ref) (alone : Context) : Prop where
  root : root = first.after context.store.length
  refs : block = alone.tasks.map (Ref.after context.store.length)
  builders : ∀ ref ∈ alone.tasks, after.builder (ref.after context.store.length) =
    (alone.builder ref).moved context.store.length context.tasks.length parent

theorem appends_placed {context alone : Context} {parent : Option Ref} (closed : alone.Closed)
    (filled : alone.store ≠ []) :
    Appends context parent ((⟨0⟩ : Ref).after context.store.length) (context.placed parent alone)
      (alone.tasks.map (Ref.after context.store.length)) := by
  have orphans := closed.orphans filled
  have first : alone.Has ⟨0⟩ := List.length_pos_of_ne_nil filled
  have toBlock {ref : Ref} (has : alone.Has ref) :
      ref.after context.store.length ∈ alone.tasks.map (Ref.after context.store.length) :=
    List.mem_map_of_mem ((closed.mem_tasks_iff ref).mpr has)
  exact
    { tasks := rfl
      first := by
        obtain ⟨count, length⟩ := Nat.exists_eq_succ_of_ne_zero (Nat.ne_of_gt first)
        rw [closed.tasks, length, List.range_succ_eq_map]
        rfl
      new := List.forall_mem_map.mpr fun ref member =>
        ⟨Context.has_placed_after ((closed.mem_tasks_iff ref).mp member),
          Context.not_has_after context ref⟩
      distinct := closed.nodup_tasks.map (Ref.after_injective _)
      index := by
        intro place ref found
        rw [List.getElem?_map, Option.map_eq_some_iff] at found
        obtain ⟨other, isOther, rfl⟩ := found
        have has := (closed.mem_tasks_iff other).mp (List.mem_of_getElem? isOther)
        rw [Context.builder_placed_after has, Builder.moved, closed.index other has,
          closed.address_of_getElem? isOther]
      held := by
        rw [Context.parent_placed_after first, (closed.parent_eq_none_iff first).mpr rfl]
        rfl
      within := List.forall_mem_map.mpr fun ref member inner => by
        have has := (closed.mem_tasks_iff ref).mp member
        cases isHeld : (alone.builder ref).parent with
        | none =>
            have same : ref = ⟨0⟩ := Ref.ext ((closed.parent_eq_none_iff has).mp isHeld)
            exact absurd (congrArg (Ref.after context.store.length) same) inner
        | some group =>
            refine ⟨group.after context.store.length, toBlock (closed.has_parent has isHeld), ?_⟩
            rw [Context.parent_placed_after has, isHeld]
            rfl
      upstreams := List.forall_mem_map.mpr fun ref member upstream awaited => by
        have has := (closed.mem_tasks_iff ref).mp member
        rw [Context.builder_placed_after has] at awaited
        obtain ⟨other, isUpstream, rfl⟩ := List.mem_map.mp awaited
        exact toBlock (closed.upstreams ref has other isUpstream)
      others := fun ref has => by
        rw [Context.builder_placed_of_has has, orphans]
        split
        · rfl
        · rw [List.append_nil] }

theorem Walk.eq_of_outcome {walk : Walk} {nodes : List Node} (outcome : walk.outcome = .ok nodes) :
    walk = ⟨nodes, none⟩ := by
  obtain ⟨found, failure⟩ := walk
  cases failure with
  | some cause => cases outcome
  | none =>
      cases outcome
      rfl

theorem Walk.failure_of_outcome {walk : Walk} {cause : Error}
    (outcome : walk.outcome = .error cause) :
    walk.failure = some cause := by
  obtain ⟨found, failure⟩ := walk
  cases failure with
  | some other =>
      cases outcome
      rfl
  | none => cases outcome

/-- A walk further on gives the nodes that the builders of a block are. -/
theorem map_node_placed {context alone : Context} {parent : Option Ref} (closed : alone.Closed)
    (known : ∀ group, parent = some group → context.Has group) :
    (alone.tasks.map (Ref.after context.store.length)).map (context.placed parent alone).node =
      alone.outline.map (Node.moved context.tasks.length (parent.map context.holder)) := by
  rw [Context.outline, List.map_map, List.map_map]
  exact List.map_congr_left fun ref member =>
    closed.node_placed_after known ((closed.mem_tasks_iff ref).mp member)

/-- Collecting is a pure append that does not depend on what is there: it ends as it does in
the empty context and as the walk does, and the block it adds is the one of the empty context
moved up. -/
theorem collect_appends {context : Context} {parent : Option Ref}
    (known : ∀ group, parent = some group → group ∈ context.tasks) (depth : Nat)
    (inherited : Config) (name : String) (own : Config) :
    (∀ root after, (collect depth parent inherited name own).run context = .ok root after →
      ∃ block, Appends context parent root after block ∧
        walk depth context.tasks.length (parent.map context.holder) inherited name own =
          ⟨block.map after.node, none⟩ ∧
        ∃ first alone, (collect depth none inherited name own).run .empty = .ok first alone ∧
          Repeats context parent root after block first alone) ∧
    ∀ cause left, (collect depth parent inherited name own).run context = .error cause left →
      (walk depth context.tasks.length (parent.map context.holder) inherited name own).failure =
        some cause ∧
        ∃ left, (collect depth none inherited name own).run .empty = .error cause left := by
  have there (group : Ref) (isParent : parent = some group) :=
    context.allocated group (known group isParent)
  have ends := ends_collect Context.closed_empty none nofun (fun _ => rfl) depth inherited name own
  have moved := outcome_walk_moved context.tasks.length
    (parent.map context.holder) depth 0 none inherited name own
  rw [collect_eq_placed there]
  constructor
  · intro root after isOk
    cases ran : (collect depth none inherited name own).run .empty with
    | error cause left =>
        rw [ran] at isOk
        cases isOk
    | ok first alone =>
        rw [ran] at isOk ends
        cases isOk
        obtain ⟨nodes, outcome, isFirst, closed, outline⟩ := ends.exists_ok
        obtain ⟨_, _, begins, _⟩ := headed_of_walk outcome
        have filled : alone.store ≠ [] := by
          rw [← List.length_pos_iff, ← closed.length_outline, outline, begins]
          exact Nat.succ_pos _
        have walked : (walk depth context.tasks.length (parent.map context.holder)
            inherited name own).outcome =
            .ok (nodes.map (Node.moved context.tasks.length (parent.map context.holder))) :=
          moved.trans (congrArg (Except.map _) outcome)
        refine ⟨_, isFirst ▸ appends_placed closed filled, ?_, first, alone, rfl,
          rfl, rfl, fun ref member => ?_⟩
        · rw [map_node_placed closed there, outline]
          exact Walk.eq_of_outcome walked
        · exact Context.builder_placed_after ((closed.mem_tasks_iff ref).mp member)
  · intro cause left isError
    cases ran : (collect depth none inherited name own).run .empty with
    | ok first alone =>
        rw [ran] at isError
        cases isError
    | error found aloneLeft =>
        rw [ran] at isError ends
        cases isError
        exact ⟨Walk.failure_of_outcome (moved.trans (congrArg (Except.map _) ends.eq_error)),
          aloneLeft, rfl⟩

/-- A context of two builders, the first of which has an index from
elsewhere; between them lies a builder of others. -/
def crowded : Context where
  store :=
    [⟨7, none, "nightly", .group, .empty, [⟨2⟩], []⟩, ⟨0, none, "other", .task, .empty, [], []⟩,
      ⟨1, some ⟨0⟩, "+early", .task, .empty, [], [⟨1⟩]⟩]
  tasks := [⟨0⟩, ⟨2⟩]
  allocated := by decide

def pair : Config := .ofFields
  [("parallel", .bool true), ("+fetch", .mapping [(.text "sh>", .text "fetch")]),
    ("+pack", .mapping [(.text "sh>", .text "pack"), (.text "after", .list [.text "+fetch"])])]

def torn : Config := .ofFields [("sh>", .text "sweep"), ("+dust", .null)]

theorem collect_appends_crowded :
    (∀ group, some (⟨0⟩ : Ref) = some group → group ∈ crowded.tasks) ∧
    (∃ root after block, (collect 2 (some ⟨0⟩) .empty "+late" pair).run crowded = .ok root after ∧
      Appends crowded (some ⟨0⟩) root after block ∧
      (block.map after.node).map (fun node => (node.name, node.index, node.upstreams)) =
        [("+late", 2, []), ("+fetch", 3, []), ("+pack", 4, [3])]) ∧
    ∃ left, (collect 2 none .empty "+late" torn).run .empty =
      .error (.taskWithSubtasks torn) left := by
  have known : ∀ group, some (⟨0⟩ : Ref) = some group → group ∈ crowded.tasks := by
    rintro group ⟨⟩
    decide
  obtain ⟨block, appends, walked, _⟩ := (collect_appends known 2 .empty "+late" pair).1 _ _ rfl
  obtain ⟨_, fails⟩ := (collect_appends known 2 .empty "+late" torn).2 _ _ rfl
  have nodes := congrArg (fun walk => walk.nodes.map fun node =>
    (node.name, node.index, node.upstreams)) walked
  exact ⟨known, ⟨_, _, block, rfl, appends, nodes.symm.trans rfl⟩, fails⟩

end TaskGraph.Compiler
