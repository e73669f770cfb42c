import Mathlib.Data.List.Forall2
import TaskGraph.Proofs.LayoutOrder
set_option autoImplicit false

/-! From nodes to tasks. A task that was built from a node says what the node says, and a row of
nodes can be turned into tasks if each has a name, counts after its group and its upstreams, and
stands at the place that its index names. -/

namespace TaskGraph

/-! ### Rows side by side -/

section

variable {α β γ : Type} {related : α → β → Prop}

theorem map_eq_map_of_forall₂ {left : List α} {right : List β} {f : α → γ} {g : β → γ}
    (rows : List.Forall₂ related left right) (same : ∀ a b, related a b → f a = g b) :
    left.map f = right.map g := by
  induction rows with
  | nil => rfl
  | cons head _ ih => rw [List.map_cons, List.map_cons, same _ _ head, ih]

theorem exists_split_of_forall₂ {left : List α} {before later : List β} {item : β}
    (rows : List.Forall₂ related left (before ++ item :: later)) :
    ∃ beforeLeft itemLeft laterLeft, left = beforeLeft ++ itemLeft :: laterLeft ∧
      List.Forall₂ related beforeLeft before ∧ related itemLeft item ∧
        List.Forall₂ related laterLeft later := by
  induction before generalizing left with
  | nil =>
      rw [List.nil_append] at rows
      cases rows with
      | cons head rest => exact ⟨[], _, _, rfl, .nil, head, rest⟩
  | cons first others ih =>
      rw [List.cons_append] at rows
      cases rows with
      | cons head rest =>
          obtain ⟨beforeLeft, itemLeft, laterLeft, shape, earlier, here, after⟩ := ih rest
          exact ⟨_ :: beforeLeft, itemLeft, laterLeft, by rw [shape, List.cons_append],
            .cons head earlier, here, after⟩

theorem exists_right_of_forall₂ {left : List α} {right : List β}
    (rows : List.Forall₂ related left right) {a : α} (member : a ∈ left) :
    ∃ b ∈ right, related a b := by
  induction rows with
  | nil => cases member
  | cons head _ ih =>
      rcases List.mem_cons.mp member with here | later
      · exact ⟨_, List.mem_cons_self, here ▸ head⟩
      · obtain ⟨b, among, both⟩ := ih later
        exact ⟨b, List.mem_cons_of_mem _ among, both⟩

theorem exists_left_of_forall₂ {left : List α} {right : List β}
    (rows : List.Forall₂ related left right) {b : β} (member : b ∈ right) :
    ∃ a ∈ left, related a b :=
  exists_right_of_forall₂ rows.flip member

end

/-! ### One task -/

structure Lowers (node : Compiler.Node) (task : Task) : Prop where
  name : task.name = node.name
  index : task.index = node.index
  parent : task.parent = node.parent.map fun group => Int.ofNat group.index
  upstreams : task.upstreams = node.upstreams
  kind : task.kind = node.kind
  config : task.config = node.config.freeze

namespace Task

theorem toNat_ofNat (indexes : List Nat) : (indexes.map Int.ofNat).map Int.toNat = indexes := by
  rw [List.map_map]
  exact List.map_id' indexes

theorem parts_of_make {name : String} {index : Int} {parent : Option Int} {upstreams : List Int}
    {kind : Kind} {config : Config} {task : Task}
    (built : make name index parent upstreams kind config = .ok task) :
    task.name = name ∧ task.index = index.toNat ∧ task.parent = parent ∧
      task.upstreams = upstreams.map Int.toNat ∧ task.kind = kind ∧ task.config = config := by
  unfold make at built
  split at built
  · cases built
  · split at built
    · cases built
    · split at built
      · cases built
      · split at built
        · cases built
        · split at built
          · cases built
            exact ⟨rfl, rfl, rfl, rfl, rfl, rfl⟩
          · cases built

theorem exists_make {name : String} {index : Int} {parent : Option Int} {upstreams : List Int}
    (kind : Kind) (config : Config) (named : name ≠ "") (counted : 0 ≤ index)
    (group : ∀ p, parent = some p → p < index)
    (early : ∀ upstream ∈ upstreams, isLate index upstream = false)
    (distinct : (upstreams.map Int.toNat).Nodup) :
    ∃ task, make name index parent upstreams kind config = .ok task := by
  have noLateGroup : parent.filter (fun p => index ≤ p) = none := by
    cases parent with
    | none => rfl
    | some p =>
        have before := group p rfl
        simp only [Option.filter, decide_eq_true_iff, if_neg (Int.not_le.mpr before)]
  have noLateUpstream : upstreams.find? (isLate index) = none := by
    refine List.find?_eq_none.mpr fun upstream member => ?_
    rw [early upstream member]
    exact Bool.false_ne_true
  unfold make
  rw [dif_neg named, dif_neg (Int.not_lt.mpr counted)]
  split
  · rename_i p found
    rw [noLateGroup] at found
    cases found
  · split
    · rename_i upstream found
      rw [noLateUpstream] at found
      cases found
    · rw [dif_pos distinct]
      exact ⟨_, rfl⟩

end Task

namespace Compiler

theorem lowers_of_lower {node : Node} {task : Task} (built : node.lower = .ok task) :
    Lowers node task := by
  unfold Node.lower at built
  split at built
  · rename_i made found
    cases built
    obtain ⟨name, index, parent, upstreams, kind, config⟩ := Task.parts_of_make found
    rw [Task.toNat_ofNat] at upstreams
    exact ⟨name, index, parent, upstreams, kind, config⟩
  · cases built

/-- A node with a name that counts after its group and after its upstreams gives a task. -/
theorem exists_lower_of_node {node : Node} (named : node.name ≠ "")
    (group : ∀ holder, node.parent = some holder → holder.index < node.index)
    (early : ∀ upstream ∈ node.upstreams, upstream < node.index) (distinct : node.upstreams.Nodup) :
    ∃ task, node.lower = .ok task := by
  have made : ∃ task, Task.make node.name node.index
      (node.parent.map fun group => Int.ofNat group.index)
      (node.upstreams.map Int.ofNat) node.kind node.config.freeze = .ok task := by
    refine Task.exists_make _ _ named (Int.natCast_nonneg _) ?_ ?_ ?_
    · intro p isParent
      obtain ⟨holder, isHolder, same⟩ := Option.map_eq_some_iff.mp isParent
      rw [← same]
      exact Int.ofNat_lt.mpr (group holder isHolder)
    · intro upstream member
      obtain ⟨other, inside, same⟩ := List.mem_map.mp member
      have before := early other inside
      simp only [← same, Task.isLate, Int.ofNat_eq_natCast, Bool.or_eq_false_iff,
        decide_eq_false_iff_not]
      omega
    · rw [Task.toNat_ofNat]
      exact distinct
  obtain ⟨task, found⟩ := made
  refine ⟨task, ?_⟩
  unfold Node.lower
  rw [found]

/-! ### A row of tasks -/

theorem lowers_of_mapM {nodes : List Node} {tasks : List Task}
    (built : nodes.mapM Node.lower = .ok tasks) :
    List.Forall₂ Lowers nodes tasks := by
  induction nodes generalizing tasks with
  | nil =>
      cases built
      exact .nil
  | cons node rest ih =>
      rw [List.mapM_cons] at built
      cases first : node.lower with
      | error cause =>
          rw [first] at built
          cases built
      | ok task =>
          cases others : rest.mapM Node.lower with
          | error cause =>
              rw [first, others] at built
              cases built
          | ok found =>
              rw [first, others] at built
              cases built
              exact .cons (lowers_of_lower first) (ih others)

theorem exists_mapM {nodes : List Node} (each : ∀ node ∈ nodes, ∃ task, node.lower = .ok task) :
    ∃ tasks, nodes.mapM Node.lower = .ok tasks := by
  induction nodes with
  | nil => exact ⟨[], rfl⟩
  | cons node rest ih =>
      obtain ⟨⟨task, first⟩, laterEach⟩ := List.forall_mem_cons.mp each
      obtain ⟨tasks, others⟩ := ih laterEach
      refine ⟨task :: tasks, ?_⟩
      rw [List.mapM_cons, first, others]
      rfl

theorem misplaced?_eq_none {start : Nat} {tasks : List Task}
    (placed : tasks.map (·.index) = List.range' start tasks.length) :
    TaskList.misplaced? start tasks = none := by
  induction tasks generalizing start with
  | nil => rfl
  | cons task rest ih =>
      rw [List.map_cons, List.length_cons, List.range'_succ, List.cons.injEq] at placed
      rw [TaskList.misplaced?, if_pos placed.1]
      exact ih placed.2

theorem tasks_of_ofTasks {tasks : List Task} {list : TaskList}
    (built : TaskList.ofTasks tasks = .ok list) :
    list.tasks = tasks := by
  unfold TaskList.ofTasks TaskList.make at built
  split at built
  · cases built
  · cases built
    rfl

theorem exists_ofTasks {tasks : List Task}
    (placed : tasks.map (·.index) = List.range' 0 tasks.length) :
    ∃ list, TaskList.ofTasks tasks = .ok list := by
  have none_found := misplaced?_eq_none placed
  unfold TaskList.ofTasks TaskList.make
  split
  · rename_i position task found
    rw [none_found] at found
    cases found
  · exact ⟨_, rfl⟩

theorem lowers_of_eq_ok {nodes : List Node} {list : TaskList} (built : lower nodes = .ok list) :
    List.Forall₂ Lowers nodes list.tasks := by
  unfold lower at built
  split at built
  · cases built
  · rename_i tasks found
    rw [tasks_of_ofTasks built]
    exact lowers_of_mapM found

theorem exists_lower {nodes : List Node} (each : ∀ node ∈ nodes, ∃ task, node.lower = .ok task)
    (placed : nodes.map (·.index) = List.range' 0 nodes.length) :
    ∃ list, lower nodes = .ok list := by
  obtain ⟨tasks, found⟩ := exists_mapM each
  have lowers := lowers_of_mapM found
  have indexes : nodes.map (·.index) = tasks.map (·.index) :=
    map_eq_map_of_forall₂ lowers fun _ _ both => both.index.symm
  have placedTasks : tasks.map (·.index) = List.range' 0 tasks.length := by
    rw [← indexes, placed, lowers.length_eq]
  obtain ⟨list, made⟩ := exists_ofTasks placedTasks
  refine ⟨list, ?_⟩
  unfold lower
  rw [found]
  exact made

end Compiler
end TaskGraph
