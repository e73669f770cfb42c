import TaskGraph.Proofs.Announcements
import TaskGraph.Proofs.FileWrites
import TaskGraph.Proofs.Invocations
set_option autoImplicit false

/-! What the exit code of a run says. A run that cannot do its work fails and leaves the files
alone. One that has done it still has to report it, in a line or a table with names and paths in it
as they are given, and fails if the console does not show these. So no code but zero tells that the
work was not done. -/

namespace TaskGraph.CommandLine

open Console

variable {printer : Printer}

/-! ### Ends of runs -/

section Finishing

variable (files : FileTree) (events : List Compiler.Event)

end Finishing

/-! ### What a run needs -/

structure Invocation.Provides (invocation : Invocation) (files : FileTree)
    (contract : Artifact.Contract) (workflow : Workflow) : Prop where
  contract : contractOf files invocation.schema = .ok contract
  workflow : Definition.compileFile files (Path.ofString invocation.file) invocation.name =
    .ok workflow

theorem Invocation.Provides.unique {invocation : Invocation} {files : FileTree}
    {contract contract' : Artifact.Contract} {workflow workflow' : Workflow}
    (provides : invocation.Provides files contract workflow)
    (provides' : invocation.Provides files contract' workflow') :
    contract' = contract ∧ workflow' = workflow :=
  ⟨Except.ok.inj (provides'.contract.symm.trans provides.contract),
    Except.ok.inj (provides'.workflow.symm.trans provides.workflow)⟩

/-- Whether a console shows what a command that makes no artifact has to say of a workflow: the line
that calls it valid, or its table. -/
def Command.IsShown (command : Command) (printer : Printer) (workflow : Workflow) : Prop :=
  (command = .validate → ∃ output, printer.line (validLine workflow) = .ok output) ∧
    (command = .present → ∃ output, printer.table (workflowTable workflow) = .ok output)

/-- Whether the names settle that a command shows: that of the workflow within the green line that
calls it valid, or all names in the title and the cells of its table. -/
def Command.NamesSettle (command : Command) (fine : Tag → Prop) (workflow : Workflow) : Prop :=
  (command = .validate → Settles fine [green] (tagsOf workflow.name.toList ++ [greenEnd])) ∧
    (command = .present → IsSettled fine workflow.name.toList ∧
      ∀ task ∈ workflow.tasks.tasks, IsSettled fine task.name.toList)

/-- Bare names settle, whatever is shown. -/
theorem Command.namesSettle_of_isBare {fine : Tag → Prop} (isFine : fine green) (command : Command)
    {workflow : Workflow} (name : IsBare workflow.name.toList)
    (tasks : ∀ task ∈ workflow.tasks.tasks, IsBare task.name.toList) :
    command.NamesSettle fine workflow := by
  constructor
  · intro _
    rw [tagsOf_of_bare name]
    exact settles_greenEnd isFine
  · intro _
    exact ⟨isSettled_of_isBare name, fun task member => isSettled_of_isBare (tasks task member)⟩

theorem Command.isShown_of_namesSettle (lawful : printer.IsLawful) {command : Command}
    {workflow : Workflow} (settle : command.NamesSettle Tag.IsFine workflow) :
    command.IsShown printer workflow where
  left := fun validates => lawful.shows _
    ((isSettled_validLine_iff workflow).mpr (settle.1 validates))
  right := fun presents =>
    lawful.showsTable _ ((isSettled_workflowTable_iff workflow).mpr (settle.2 presents))

/-- What is to be said of bare names is shown. -/
theorem Command.isShown_of_isBare (lawful : printer.IsLawful) (command : Command)
    {workflow : Workflow} (name : IsBare workflow.name.toList)
    (tasks : ∀ task ∈ workflow.tasks.tasks, IsBare task.name.toList) :
    command.IsShown printer workflow :=
  isShown_of_namesSettle lawful (command.namesSettle_of_isBare isFine_green name tasks)

/-- Whether a path settles within the green line that says where an artifact was written. -/
def PathSettles (fine : Tag → Prop) (path : Path) : Prop :=
  Settles fine [green] (tagsOf (path.text.toList ++ greenMark))

/-- A bare path settles. -/
theorem pathSettles_of_isBare {fine : Tag → Prop} (isFine : fine green) {path : Path}
    (bare : IsBare path.text.toList) : PathSettles fine path := by
  have last : tagsOf greenMark = [greenEnd] := rfl
  rw [PathSettles, tagsOf_bare_append bare, last]
  exact settles_greenEnd isFine

/-- That an artifact was written to a bare path is shown. -/
theorem exists_writtenLine_of_isBare (lawful : printer.IsLawful) (workflow : Workflow) {path : Path}
    (bare : IsBare path.text.toList) :
    ∃ line, printer.line (writtenLine workflow path.text) = .ok line := by
  refine lawful.shows _ ((isSettled_writtenLine_iff workflow path.text).mpr ?_)
  exact pathSettles_of_isBare isFine_green bare

end TaskGraph.CommandLine
