import TaskGraph.Proofs.Site
set_option autoImplicit false

/-! Definitions without defaults. Where no node from the root to a site has a `default`, the options
of the site are its own. A task then needs nothing but something to run, and a group nothing but
subtasks that are mappings. -/

namespace TaskGraph.Compiler

namespace Site

def Undefaulted (site : Site) : Prop := ∀ own ∈ site.lineage, own.get? "default" = none

theorem undefaulted_root {name : String} {own : Config} (absent : own.get? "default" = none) :
    (root name own).Undefaulted := List.forall_mem_singleton.mpr absent

theorem undefaulted_child {site : Site} {key : String} (undefaulted : site.Undefaulted)
    (absent : (site.own.below key).get? "default" = none) : (site.child key).Undefaulted := by
  have line : (site.child key).lineage = site.lineage ++ [site.own.below key] := by
    rw [lineage, lineage, child, List.map_append]
    rfl
  rw [Undefaulted, line, List.forall_mem_append]
  exact ⟨undefaulted, List.forall_mem_singleton.mpr absent⟩

variable {site : Site}

theorem default?_of_undefaulted (undefaulted : site.Undefaulted) (key : String) :
    site.default? key = none := by
  rw [default?, List.findSome?_eq_none_iff]
  intro own member
  have absent := undefaulted own (List.mem_reverse.mp member)
  rw [Config.below, absent]
  rfl

theorem option?_of_undefaulted (undefaulted : site.Undefaulted) (key : String) :
    site.option? key = site.own.get? key := by
  rw [option?, default?_of_undefaulted undefaulted, Option.or_none]

theorem readsAsMapping_default (undefaulted : site.Undefaulted) :
    ReadsAsMapping (site.own.get? "default") := by
  rw [undefaulted site.own (List.mem_append_right _ List.mem_cons_self)]
  trivial

theorem accepted_of_undefaulted_task (undefaulted : site.Undefaulted) {key : String}
    (present : site.own.get? key ≠ none) (isOption : isSubtaskKey key = false)
    (runs : MakesTask key) (alone : site.own.subtaskKeys = []) : site.Accepted := by
  refine accepted_of_task (readsAsMapping_default undefaulted)
    (fun key _ => default?_of_undefaulted undefaulted key) ?_ ⟨key, ?_, isOption, runs⟩ alone
  · rw [alone]
    exact List.forall_mem_nil _
  · rw [option?_of_undefaulted undefaulted]
    exact present

theorem accepted_of_undefaulted_group (undefaulted : site.Undefaulted)
    (subtasks : ∀ key ∈ site.own.subtaskKeys, ReadsAsMapping (site.own.get? key))
    (idle : ∀ key ∈ site.own.keys, isSubtaskKey key = false → ¬MakesTask key)
    (serial : site.own.get? "parallel" = none) (free : site.own.get? "after" = none) :
    site.Accepted := by
  have parallel : site.option? "parallel" = none := by
    rw [option?_of_undefaulted undefaulted, serial]
  refine accepted_of_group (readsAsMapping_default undefaulted)
    (fun key _ => default?_of_undefaulted undefaulted key)
    subtasks ?_ ?_ ?_ ?_
  · rintro ⟨key, present, isOption, runs⟩
    rw [option?_of_undefaulted undefaulted, Config.get?_ne_none_iff] at present
    exact idle key present isOption runs
  · exact ⟨false, parallel ▸ rfl⟩
  · intro reads
    rw [parallel] at reads
    cases reads
  · intro _
    rw [option?_of_undefaulted undefaulted, free]

theorem preorder_of_subtaskKeys_eq_nil (alone : site.own.subtaskKeys = []) :
    site.preorder = [site] := by
  rw [preorder_eq, children, alone]
  rfl

/-- Options that declare no subtasks and no task are accepted, if they are not read on the way. -/
theorem accepted_of_idle {name : String} {own : Config}
    (idle : ∀ key ∈ own.keys, isSubtaskKey key = false ∧ isTaskKey key = false)
    (absent : ∀ key ∈ ["default", "parallel", "after"], own.get? key = none) :
    ∀ site ∈ (root name own).preorder, site.Accepted := by
  have alone : own.subtaskKeys = [] := List.filter_eq_nil_iff.mpr fun key member isSubtask => by
    rw [(idle key member).1] at isSubtask
    cases isSubtask
  rw [preorder_of_subtaskKeys_eq_nil alone, List.forall_mem_singleton]
  refine accepted_of_undefaulted_group (undefaulted_root (absent _ (by simp))) ?_ ?_
    (absent _ (by simp)) (absent _ (by simp))
  · change ∀ key ∈ own.subtaskKeys, _
    rw [alone]
    exact List.forall_mem_nil _
  · intro key member _ makes
    have inert := (idle key member).2
    rw [(isTaskKey_iff key).mpr makes] at inert
    cases inert

end Site

end TaskGraph.Compiler
