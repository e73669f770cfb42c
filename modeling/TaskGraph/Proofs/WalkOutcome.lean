import TaskGraph.Proofs.Layout
set_option autoImplicit false

/-! How a walk over a definition ends. A default that declares a subtask declares it again for that
subtask and for all below it, so no walk under it comes to its end. Otherwise the walk ends well
exactly if every site is accepted, and what it added are the nodes of the layout. -/

namespace TaskGraph.Compiler

/-! ### Subtasks that are handed down -/

theorem subtaskKeys_handDown_ne_nil {inherited : Config} (stored : inherited.Stored)
    (declared : inherited.subtaskKeys ≠ []) (own : Config) :
    (handDown inherited own).subtaskKeys ≠ [] := by
  intro bare
  refine declared ((Config.subtaskKeys_eq_nil_iff inherited).mpr fun key isSubtask => ?_)
  have missing := (Config.subtaskKeys_eq_nil_iff _).mp bare key isSubtask
  rw [get?_handDown stored, Option.or_eq_none_iff] at missing
  exact missing.2

theorem subtaskKeys_filledWith_ne_nil {inherited own : Config} (stored : own.Stored)
    (declared : (handDown inherited own).subtaskKeys ≠ []) :
    (filledWith inherited own).subtaskKeys ≠ [] := by
  intro bare
  refine declared ((Config.subtaskKeys_eq_nil_iff _).mpr fun key isSubtask => ?_)
  have missing := (Config.subtaskKeys_eq_nil_iff _).mp bare key isSubtask
  rw [get?_filledWith stored, Option.or_eq_none_iff] at missing
  exact missing.2

theorem closeGroup_failure {below : Below} (failed : below.failure ≠ none) (group : Node) :
    (closeGroup group below).failure ≠ none := by
  unfold closeGroup
  cases failure : below.failure with
  | none => exact absurd failure failed
  | some cause => exact Option.some_ne_none cause

theorem walkBelow_failure_of_first {visit : Nat → String → Config → Walk} {index : Nat}
    {name : String} {config : Config} (failed : (visit index name config).failure ≠ none)
    (rest : List (String × Config)) :
    (walkBelow visit index ((name, config) :: rest)).failure ≠ none := by
  rw [walkBelow]
  cases failure : (visit index name config).failure with
  | none => exact absurd failure failed
  | some cause => simp

/-- No walk ends well where a subtask is handed down. -/
theorem walk_failure_of_handDown (depth index : Nat) (parent : Option Holder)
    {inherited own : Config} (name : String) (storedInherited : inherited.Stored)
    (stored : own.Stored) (declared : (handDown inherited own).subtaskKeys ≠ []) :
    (walk depth index parent inherited name own).failure ≠ none := by
  induction depth generalizing index parent inherited name own with
  | zero => exact Option.some_ne_none _
  | succ depth ih =>
      rw [walk]
      cases found : resolve inherited own with
      | error cause => exact Option.some_ne_none _
      | ok resolved =>
          obtain ⟨_, _, same⟩ := (resolve_eq_ok_iff inherited own resolved).mp found
          obtain ⟨key, rest, keys⟩ := List.exists_cons_of_ne_nil
            (subtaskKeys_filledWith_ne_nil stored declared)
          rw [keys, List.map_cons] at same
          -- What is handed down comes to the first subtask as it is, so the walk fails there
          -- already.
          have storedDown : (handDown inherited own).Stored := stored_handDown storedInherited
          have first := ih (index + 1) (some ⟨index, name⟩) key storedDown
            ((filledWith inherited own).stored_below key)
            (subtaskKeys_handDown_ne_nil storedDown declared _)
          simp only [same]
          split
          · exact Option.some_ne_none _
          · exact closeGroup_failure (walkBelow_failure_of_first first _) _

namespace Spot

theorem bare_of_walkFrom {depth : Nat} {spot : Spot} (stored : spot.own.Stored)
    (ended : (walkFrom depth spot).failure = none) : spot.Bare := by
  rw [Site.bare_iff]
  by_contra declared
  exact walk_failure_of_handDown depth spot.index spot.group spot.name (stored_handedDown _) stored
    declared ended

/-! ### One step of the walk -/

theorem walkFrom_succ {depth : Nat} {spot : Spot} {resolved : Resolved} (stored : spot.own.Stored)
    (bare : spot.Bare) (fresh : spot.upstreams = [])
    (found : resolve spot.inherited spot.own = .ok resolved) :
    walkFrom (depth + 1) spot =
      if spot.options.isTask then
        if spot.own.subtaskKeys = [] then ⟨[spot.node], none⟩
          else ⟨[], some (Error.taskWithSubtasks spot.own).raised⟩
      else
        closeGroup spot.node (walkHeld depth spot.toSite spot.index
          (spot.index + 1) spot.own.subtaskKeys) := by
  obtain ⟨_, _, same⟩ := (resolve_eq_ok_iff_of_bare stored ((Site.bare_iff _).mp bare) resolved).mp
    found
  have task : ∀ kind, spot.node.kind = kind →
      spot.node = ⟨spot.name, spot.index, spot.group, [], kind, spot.options⟩ := by
    intro kind isKind
    rw [← isKind, ← fresh]
    rfl
  rw [walkFrom, walk]
  simp only [found, same, List.isEmpty_iff, List.map_eq_nil_iff]
  by_cases isTask : spot.options.isTask = true
  · rw [task .task (if_pos isTask), if_pos isTask]
    exact if_pos isTask
  · rw [task .group (if_neg isTask), if_neg isTask]
    exact if_neg isTask

theorem nodes_of_no_subtasks {spot : Spot} (alone : spot.own.subtaskKeys = []) :
    spot.nodes = [spot.node] := by
  rw [nodes_eq, held, alone]
  rfl

theorem mem_unlinked {spot other : Spot} (member : other ∈ spot.unlinked) :
    other.toSite ∈ spot.children ∧ other.own.Stored ∧ other.upstreams = [] := by
  have child : other.toSite ∈ spot.children := by
    have sites := toSite_place spot.toSite spot.index (spot.index + 1) [] spot.own.subtaskKeys
    rw [Site.children, ← sites]
    exact List.mem_map_of_mem member
  refine ⟨child, ?_, ?_⟩
  · obtain ⟨key, _, same⟩ := List.mem_map.mp child
    rw [← same]
    exact spot.own.stored_below key
  · have unset : ∀ keys index, ∀ other ∈ place spot.toSite spot.index index [] keys,
        other.upstreams = [] := by
      intro keys
      induction keys with
      | nil => intro index other member; cases member
      | cons key rest ih =>
          intro index other member
          rcases List.mem_cons.mp member with here | later
          · rw [here]
            rfl
          · exact ih _ other later
    exact unset _ _ other member

/-! ### The whole walk -/

/-- A walk deep enough over accepted sites adds the nodes of the layout. -/
theorem walkFrom_of_accepted {depth : Nat} (spot : Spot) (stored : spot.own.Stored)
    (fresh : spot.upstreams = []) (enough : spot.own.height < depth)
    (accepted : ∀ site ∈ spot.toSite.preorder, site.Accepted) :
    walkFrom depth spot = ⟨spot.nodes, none⟩ := by
  induction depth generalizing spot with
  | zero => cases enough
  | succ depth ih =>
      obtain ⟨here, below⟩ := (Site.forall_mem_preorder_iff spot.toSite _).mp accepted
      have found := (resolve_eq_ok_iff_of_bare stored ((Site.bare_iff _).mp here.bare) _).mpr
        ⟨here.default_mapping, here.subtask_mapping, rfl⟩
      rw [walkFrom_succ stored here.bare fresh found]
      by_cases isTask : spot.options.isTask = true
      · have alone := here.task_alone ((Site.isTask_options_iff stored).mp isTask)
        rw [if_pos isTask, if_pos alone, nodes_of_no_subtasks alone]
      · have isGroup : ¬spot.IsTask := fun task =>
          isTask ((Site.isTask_options_iff stored).mpr task)
        obtain ⟨links, given⟩ := (exists_upstreamsOf_iff stored).mpr
          ⟨here.parallel_truth isGroup, here.after_earlier isGroup, here.after_parallel isGroup⟩
        have each : ∀ other ∈ spot.unlinked, walkFrom depth other = ⟨other.nodes, none⟩ := by
          intro other member
          obtain ⟨child, storedChild, unset⟩ := mem_unlinked member
          have lower := Site.height_lt_of_mem_children child
          exact ih other storedChild unset (by omega) (below _ child)
        rw [if_neg isTask, walkHeld_eq each]
        exact closeGroup_eq given

/-- A group that could be closed has the links of the layout and is accepted. -/
theorem accepted_of_closeGroup {spot : Spot} (stored : spot.own.Stored)
    (readable : ReadsAsMapping (spot.own.get? "default")) (bare : spot.Bare)
    (subtasks : ∀ key ∈ spot.own.subtaskKeys, ReadsAsMapping (spot.own.get? key))
    (isGroup : ¬spot.IsTask)
    (ended : (closeGroup spot.node ⟨spot.unlinked.map nodes, none⟩).failure = none) :
    closeGroup spot.node ⟨spot.unlinked.map nodes, none⟩ = ⟨spot.nodes, none⟩ ∧ spot.Accepted := by
  obtain ⟨links, given⟩ := exists_of_closeGroup ended
  obtain ⟨truth, earlier, parallel⟩ := (exists_upstreamsOf_iff stored).mp ⟨links, given⟩
  exact ⟨closeGroup_eq given,
    Site.accepted_of_group readable bare subtasks isGroup truth earlier parallel⟩

/-- A walk that ended well found every site accepted and added the nodes of the layout. -/
theorem accepted_of_walkFrom {depth : Nat} (spot : Spot) (stored : spot.own.Stored)
    (fresh : spot.upstreams = []) (ended : (walkFrom depth spot).failure = none) :
    walkFrom depth spot = ⟨spot.nodes, none⟩ ∧ ∀ site ∈ spot.toSite.preorder, site.Accepted := by
  induction depth generalizing spot with
  | zero => cases ended
  | succ depth ih =>
      -- Without a subtask in the defaults every node has its own subtasks only, as the layout has.
      have bare := bare_of_walkFrom stored ended
      cases found : resolve spot.inherited spot.own with
      | error cause =>
          rw [walkFrom, walk] at ended
          simp only [found] at ended
          cases ended
      | ok resolved =>
          obtain ⟨readable, subtasks, _⟩ :=
            (resolve_eq_ok_iff_of_bare stored ((Site.bare_iff _).mp bare) resolved).mp found
          rw [walkFrom_succ stored bare fresh found] at ended ⊢
          rw [Site.forall_mem_preorder_iff]
          by_cases isTask : spot.options.isTask = true
          · have task := (Site.isTask_options_iff stored).mp isTask
            rw [if_pos isTask] at ended ⊢
            by_cases alone : spot.own.subtaskKeys = []
            · refine ⟨?_, ?_, ?_⟩
              · rw [if_pos alone, nodes_of_no_subtasks alone]
              · exact Site.accepted_of_task readable bare subtasks task alone
              · intro child member
                rw [Site.children, alone] at member
                cases member
            · rw [if_neg alone] at ended
              cases ended
          · have isGroup : ¬spot.IsTask := fun task =>
              isTask ((Site.isTask_options_iff stored).mpr task)
            rw [if_neg isTask] at ended ⊢
            have endedBelow :
                (walkHeld depth spot.toSite spot.index
                  (spot.index + 1) spot.own.subtaskKeys).failure = none := by
              by_contra failed
              exact closeGroup_failure failed _ ended
            have each : ∀ other ∈ spot.unlinked, walkFrom depth other = ⟨other.nodes, none⟩ ∧
                ∀ site ∈ other.toSite.preorder, site.Accepted := by
              refine walkHeld_ended (fun other member endedThere => ?_) endedBelow
              obtain ⟨_, storedChild, unset⟩ := mem_unlinked member
              exact ih other storedChild unset endedThere
            have walked := walkHeld_eq fun other member => (each other member).1
            rw [walked] at ended ⊢
            obtain ⟨closed, accepted⟩ :=
              accepted_of_closeGroup stored readable bare subtasks isGroup ended
            refine ⟨closed, accepted, ?_⟩
            intro child member
            rw [Site.children, ← toSite_place spot.toSite spot.index (spot.index + 1) []] at member
            obtain ⟨other, inside, same⟩ := List.mem_map.mp member
            rw [← same]
            exact (each other inside).2

end Spot
end TaskGraph.Compiler
