import TaskGraph.Proofs.CollectedNodes
set_option autoImplicit false

/-! Walks from another index. A walk that begins at a higher index and under another parent makes
the same checks; its nodes have higher indexes by the same distance, the upstreams among them too,
and only its own node has that parent. -/

namespace TaskGraph.Compiler

def Holder.after (distance : Nat) (holder : Holder) : Holder :=
  ⟨distance + holder.index, holder.name⟩

def Node.moved (distance : Nat) (parent : Option Holder) (node : Node) : Node where
  name := node.name
  index := distance + node.index
  parent := (node.parent.map (Holder.after distance)).or parent
  upstreams := node.upstreams.map (distance + ·)
  kind := node.kind
  config := node.config

section

variable {distance : Nat} {parent : Option Holder}

@[simp] theorem Node.name_moved (node : Node) : (node.moved distance parent).name = node.name := rfl

@[simp] theorem Node.index_moved (node : Node) :
    (node.moved distance parent).index = distance + node.index := rfl

@[simp] theorem Node.config_moved (node : Node) :
    (node.moved distance parent).config = node.config := rfl

theorem siblingIndexes_moved (earlier : Fields Nat) (config : Config) (names : List String) :
    siblingIndexes (earlier.map fun entry => (entry.1, distance + entry.2)) config names =
      (siblingIndexes earlier config names).map (List.map (distance + ·)) := by
  induction names with
  | nil => rfl
  | cons name rest ih =>
      rw [siblingIndexes, siblingIndexes, Fields.get?_map, ih]
      cases earlier.get? name with
      | none => rfl
      | some index =>
          cases siblingIndexes earlier config rest with
          | error cause => rfl
          | ok others =>
              have kept : (others.map (distance + ·)).filter (· ≠ distance + index) =
                  (others.filter (· ≠ index)).map (distance + ·) := by
                rw [List.filter_map]
                congr 1
                refine List.filter_congr fun other _ => ?_
                simp
              exact congrArg (fun rest => Except.ok ((distance + index) :: rest)) kept

theorem namedUpstreams_moved (earlier : Fields Nat) (children : List Node) :
    namedUpstreams (earlier.map fun entry => (entry.1, distance + entry.2))
      (children.map (Node.moved distance parent)) =
      (namedUpstreams earlier children).map (List.map (List.map (distance + ·))) := by
  induction children generalizing earlier with
  | nil => rfl
  | cons child rest ih =>
      have put := Fields.put_map (distance + ·) child.name child.index earlier
      have later := ih (earlier.put child.name child.index)
      rw [List.map_cons, namedUpstreams, namedUpstreams, Node.config_moved, Node.name_moved,
        Node.index_moved, put, later]
      cases child.config.names "after" with
      | error cause => rfl
      | ok names =>
          dsimp only
          rw [siblingIndexes_moved]
          cases siblingIndexes earlier child.config names with
          | error cause => rfl
          | ok upstreams => cases namedUpstreams (earlier.put child.name child.index) rest <;> rfl

theorem chainedUpstreams_moved (before : List Nat) (children : List Node) :
    chainedUpstreams (before.map (distance + ·)) (children.map (Node.moved distance parent)) =
      (chainedUpstreams before children).map (List.map (distance + ·)) := by
  induction children generalizing before with
  | nil => rfl
  | cons child rest ih =>
      rw [List.map_cons, chainedUpstreams, chainedUpstreams, List.map_cons, ← ih]
      rfl

theorem upstreamsOf_moved (group : Config) (children : List Node) :
    upstreamsOf group (children.map (Node.moved distance parent)) =
      (upstreamsOf group children).map (List.map (List.map (distance + ·))) := by
  unfold upstreamsOf
  cases group.bool "parallel" false with
  | error cause => rfl
  | ok parallel =>
      cases parallel with
      | true => exact namedUpstreams_moved [] children
      | false =>
          dsimp only
          split
          · rfl
          · exact congrArg Except.ok (chainedUpstreams_moved [] children)

theorem linkBlocks_moved (links : List (List Nat)) (blocks : List (List Node)) :
    linkBlocks (links.map (List.map (distance + ·)))
      (blocks.map (List.map (Node.moved distance parent))) =
      (linkBlocks links blocks).map (List.map (Node.moved distance parent)) := by
  induction blocks generalizing links with
  | nil => cases links <;> rfl
  | cons block blocks ih =>
      cases links with
      | nil => rfl
      | cons upstreams others =>
          rw [List.map_cons, List.map_cons, linkBlocks, linkBlocks, List.map_cons, ih]
          cases block <;> rfl

theorem heads_moved (blocks : List (List Node)) :
    heads (blocks.map (List.map (Node.moved distance parent))) = (heads blocks).map
      (Node.moved distance parent) := by
  rw [heads, List.filterMap_map, List.map_filterMap]
  refine List.filterMap_congr fun block _ => ?_
  exact List.head?_map

theorem outcome_walkBelow_moved (visit visitMoved : Nat → String → Config → Walk)
    (each : ∀ index name config, (visitMoved (distance + index) name config).outcome =
      (visit index name config).outcome.map (List.map (Node.moved distance parent)))
    (index : Nat) (subtasks : List (String × Config)) :
    (walkBelow visitMoved (distance + index) subtasks).outcome =
      (walkBelow visit index subtasks).outcome.map
        (List.map (List.map (Node.moved distance parent))) := by
  induction subtasks generalizing index with
  | nil => rfl
  | cons subtask rest ih =>
      rw [outcome_walkBelow_cons, outcome_walkBelow_cons, each]
      cases (visit index subtask.1 subtask.2).outcome with
      | error cause => rfl
      | ok nodes =>
          dsimp only [Except.map, Except.bind]
          rw [List.length_map, Nat.add_assoc, ih]
          cases (walkBelow visit (index + nodes.length) rest).outcome <;> rfl

/-- A walk further on ends as the one from the start does, with its nodes moved. -/
theorem outcome_walk_moved (distance : Nat) (parent : Option Holder) (depth index : Nat)
    (start : Option Holder) (inherited : Config) (name : String) (own : Config) :
    (walk depth (distance + index) ((start.map (Holder.after distance)).or parent)
      inherited name own).outcome =
      (walk depth index start inherited name own).outcome.map
        (List.map (Node.moved distance parent)) := by
  induction depth generalizing index start inherited name own with
  | zero => rfl
  | succ depth ih =>
      rw [outcome_walk_succ, outcome_walk_succ]
      cases resolve inherited own with
      | error cause => rfl
      | ok resolved =>
          dsimp only [Except.mapError, Except.bind]
          by_cases isTask : resolved.options.isTask = true
          · rw [if_pos isTask, if_pos isTask]
            split <;> rfl
          · have below := outcome_walkBelow_moved
              (fun place => walk depth place (some ⟨index, name⟩) resolved.defaults)
              (fun place => walk depth place (some ⟨distance + index, name⟩) resolved.defaults)
              (fun place key config => ih place (some ⟨index, name⟩) resolved.defaults key config)
              (index + 1) resolved.subtasks
            rw [if_neg isTask, if_neg isTask, Nat.add_assoc, below]
            cases (walkBelow _ (index + 1) resolved.subtasks).outcome with
            | error cause => rfl
            | ok blocks =>
                dsimp only [Except.map]
                rw [heads_moved, upstreamsOf_moved]
                cases upstreamsOf resolved.options (heads blocks) with
                | error cause => rfl
                | ok links =>
                    dsimp only [Except.map]
                    rw [linkBlocks_moved, ← List.map_flatten, List.map_cons]
                    rfl

end

end TaskGraph.Compiler
