import TaskGraph.Proofs.TaskTree
set_option autoImplicit false

/-! The options of a compiled workflow. Each task has the options that the nodes on its own path
declare: its own, and for each gap the value that the nearest default on the path gives. The
metadata is that of the root alone. -/

namespace TaskGraph.Compiler

namespace Compiled

variable {name : String} {root : Config} {workflow : Workflow}
    (compiled : Compiled name root workflow)

include compiled

theorem config_eq_resolved {spot : Spot} {task : Task}
    (inLayout : spot ∈ (Spot.root name root).layout) (both : Lowers spot.node task) :
    task.config.fields = spot.resolved := by
  have accepted := compiled.accepted _ (Spot.toSite_mem_preorder inLayout)
  rw [compiled.config_fields inLayout both]
  exact Site.fields_options (Spot.stored_of_mem_layout compiled.stored inLayout) accepted.bare

theorem metadata_fields : workflow.metadata.fields = (root.below "meta").fields := by
  rw [compiled.metadata]
  exact Config.fields_freeze (root.stored_below "meta")

end Compiled

/-- Every task of a compiled workflow has the options that its path in the definition resolves to,
in that order, and the metadata is what the root declares as such. -/
theorem config_eq_resolved_of_compileValue {name : String} {definition : Value}
    {workflow : Workflow} (result : (compileValue (.text name) definition).result = .ok workflow) :
    ∃ root, Config.ofDefinition definition = .ok root ∧
      List.Forall₂ (fun site task => workflow.tasks.Reaches site.path task ∧
        task.config.fields = site.resolved)
        (Site.root name root).preorder workflow.tasks.tasks ∧
      workflow.metadata.fields = (root.below "meta").fields := by
  obtain ⟨root, isRoot, _⟩ := (compileValue_iff name definition workflow).mp result
  have compiled := compiled_of_compileValue isRoot result
  refine ⟨root, isRoot, compiled.forall₂_sites fun spot task inLayout member both => ?_,
    compiled.metadata_fields⟩
  exact ⟨compiled.reaches inLayout member both, compiled.config_eq_resolved inLayout both⟩

theorem config_eq_resolved_release :
    ∃ workflow, (compileValue (.text "release") release).result = .ok workflow ∧
      ∃ root, Config.ofDefinition release = .ok root ∧
        List.Forall₂ (fun site task => workflow.tasks.Reaches site.path task ∧
          task.config.fields = site.resolved)
          (Site.root "release" root).preorder workflow.tasks.tasks ∧
        workflow.metadata.fields = (root.below "meta").fields := by
  obtain ⟨workflow, result⟩ :
      ∃ workflow, (compileValue (.text "release") release).result = .ok workflow := ⟨_, rfl⟩
  exact ⟨workflow, result, config_eq_resolved_of_compileValue result⟩

end TaskGraph.Compiler
