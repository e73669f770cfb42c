import TaskGraph.Proofs.ArtifactSchema
set_option autoImplicit false

/-! Which workflows meet the schema of compiled workflows. A task is built with any parent before
its own index, a negative one too, and that is all that the schema refuses: a workflow meets it
exactly if every parent is the index of an earlier task. -/

namespace TaskGraph

namespace Schema

open Value

/-! ### Parents -/

theorem counted_of_isTask {task : Task} {data : Value} (dict : task.toDict = .ok data)
    (isTask : IsTask data) :
    ∀ p, task.parent = some p → 0 ≤ p := by
  intro p isParent
  unfold Task.toDict at dict
  cases plain : task.config.plain with
  | error cause =>
      rw [plain] at dict
      cases dict
  | ok config =>
      rw [plain] at dict
      cases dict
      obtain ⟨entries, isMapping, shape⟩ := isTask
      cases mapping.inj isMapping
      obtain ⟨parent, found, counts⟩ := shape.parent
      rw [Task.fieldsWith, isParent] at found
      have isNumber : Value.int p = parent := Option.some.inj found
      rcases counts with isNull | ⟨number, whole⟩
      · cases isNumber.trans isNull
      · rcases whole with isInt | ⟨x, isFloat, _⟩
        · rw [int.inj (isNumber.trans isInt)]
          exact Int.natCast_nonneg number
        · cases isNumber.trans isFloat

theorem counted_of_isArtifact {workflow : Workflow} {data : Value}
    (dict : workflow.toDict = .ok data) (isArtifact : IsArtifact data) :
    ∀ task ∈ workflow.tasks.tasks, ∀ p, task.parent = some p → 0 ≤ p := by
  intro task member
  unfold Workflow.toDict at dict
  cases built : serialAll Task.toDict workflow.tasks.tasks with
  | error cause =>
      rw [built] at dict
      cases dict
  | ok values =>
      rw [built] at dict
      cases dict
      obtain ⟨entries, isMapping, shape⟩ := isArtifact
      cases mapping.inj isMapping
      obtain ⟨part, found, tasks, isList, each⟩ := shape.tasks
      have same : Value.list values = list tasks := (Option.some.inj found).trans isList
      obtain ⟨value, inside, single⟩ :=
        exists_right_of_forall₂ (serialAll_eq_ok_iff.mp built) member
      exact counted_of_isTask single (each value (list.inj same ▸ inside))

end Schema

namespace Workflow

/-- Whether every task is a root or refers to an earlier task of the list as its group. -/
def RefersBack (workflow : Workflow) : Prop :=
  ∀ task ∈ workflow.tasks.tasks, task.parent = none ∨
    ∃ group ∈ workflow.tasks.tasks, task.parent = some (group.index : Int) ∧
      group.index < task.index

theorem refersBack_iff (workflow : Workflow) :
    workflow.RefersBack ↔ ∀ task ∈ workflow.tasks.tasks, ∀ p, task.parent = some p → 0 ≤ p := by
  constructor
  · intro refersBack task member p isParent
    rcases refersBack task member with isRoot | ⟨group, _, isGroup, _⟩
    · rw [isRoot] at isParent
      cases isParent
    · rw [isGroup] at isParent
      cases isParent
      exact Int.natCast_nonneg group.index
  · intro counted task member
    cases isParent : task.parent with
    | none => exact Or.inl rfl
    | some p =>
        have notNegative := counted task member p isParent
        have before := task.parent_lt p isParent
        obtain ⟨position, found⟩ := List.mem_iff_getElem?.mp member
        have place := workflow.tasks.placed position task found
        obtain ⟨within, _⟩ := List.getElem?_eq_some_iff.mp found
        have inside : p.toNat < workflow.tasks.tasks.length := by omega
        have group := workflow.tasks.placed p.toNat _ (List.getElem?_eq_getElem inside)
        refine Or.inr ⟨workflow.tasks.tasks[p.toNat], List.getElem_mem inside, ?_, by omega⟩
        rw [group, Int.toNat_of_nonneg notNegative]

theorem refersBack_of_validateCompiled {workflow : Workflow} {data : Value}
    (dict : workflow.toDict = .ok data) (passed : Schema.validateCompiled data none = .ok ()) :
    workflow.RefersBack :=
  (refersBack_iff workflow).mpr
    (Schema.counted_of_isArtifact dict ((Schema.validateCompiled_eq_ok_iff data).mp passed))

/-- A workflow that can be given as a mapping meets the schema of compiled workflows exactly if
every parent in it is the index of an earlier task; nothing else that a record can hold is
refused. -/
theorem validateCompiled_iff_refersBack {workflow : Workflow} {data : Value}
    (dict : workflow.toDict = .ok data) :
    Schema.validateCompiled data none = .ok () ↔ workflow.RefersBack :=
  ⟨refersBack_of_validateCompiled dict, fun refersBack =>
    Schema.validateCompiled_toDict ((refersBack_iff workflow).mp refersBack) dict⟩

def pair (parent : Int) : TaskSource :=
  .given (Value.ofFields [("tasks", .list
    [Value.ofFields [("name", .text "pair"), ("index", .int 0), ("kind", .text "group")],
      Value.ofFields [("name", .text "+a"), ("index", .int 1), ("parent_index", .int parent)]])])

theorem validateCompiled_iff_refersBack_pair :
    ∃ workflow data, ofFields [("name", .text "pair")] (some (pair 0)) = .ok workflow ∧
      workflow.toDict = .ok data ∧
      (Schema.validateCompiled data none = .ok () ↔ workflow.RefersBack) := by
  obtain ⟨workflow, data, built, dict⟩ : ∃ workflow data,
      ofFields [("name", .text "pair")] (some (pair 0)) = .ok workflow ∧
        workflow.toDict = .ok data := ⟨_, _, rfl, rfl⟩
  exact ⟨workflow, data, built, dict, validateCompiled_iff_refersBack dict⟩

/-- A task with a negative parent can be built and given as a
mapping, and the mapping is refused. -/
theorem negative_parent_violates :
    ∃ workflow data, ofFields [("name", .text "pair")] (some (pair (-1))) = .ok workflow ∧
      workflow.toDict = .ok data ∧
      Schema.validateCompiled data none ≠ .ok () := by
  obtain ⟨workflow, data, built, dict, task, member, isParent⟩ : ∃ workflow data,
      ofFields [("name", .text "pair")] (some (pair (-1))) = .ok workflow ∧
        workflow.toDict = .ok data ∧
        ∃ task ∈ workflow.tasks.tasks, task.parent = some (-1) :=
    ⟨_, _, rfl, rfl, _, List.mem_cons_of_mem _ List.mem_cons_self, rfl⟩
  refine ⟨workflow, data, built, dict, fun passed => ?_⟩
  have counted := (refersBack_iff workflow).mp (refersBack_of_validateCompiled dict passed)
    task member (-1) isParent
  exact absurd counted (by decide)

end Workflow
end TaskGraph
