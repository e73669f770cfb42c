import TaskGraph.Compiler.Node
set_option autoImplicit false

/-! The walk over a definition. Every node is added before its subtasks, and a node's index is the
number of nodes added before it; the walk ends at the first cause of failure and keeps the nodes
added so far. -/

namespace TaskGraph.Compiler

structure Walk where
  nodes : List Node
  failure : Option Error

/-- The nodes below a group, one block for each subtask reached,
and the cause that ended their walk early. -/
structure Below where
  blocks : List (List Node)
  failure : Option Error

def walkBelow (visit : Nat → String → Config → Walk) : Nat → List (String × Config) → Below
  | _, [] => ⟨[], none⟩
  | index, (name, config) :: rest =>
      let walk := visit index name config
      match walk.failure with
      | some cause => ⟨[walk.nodes], some cause⟩
      | none =>
          let below := walkBelow visit (index + walk.nodes.length) rest
          ⟨walk.nodes :: below.blocks, below.failure⟩

def closeGroup (group : Node) (below : Below) : Walk :=
  match below.failure with
  | some cause => ⟨group :: below.blocks.flatten, some cause⟩
  | none =>
      match upstreamsOf group.config (below.blocks.filterMap List.head?) with
      | .error cause => ⟨group :: below.blocks.flatten, some cause⟩
      | .ok upstreams => ⟨group :: (linkBlocks upstreams below.blocks).flatten, none⟩

/-- Walks a node and all below it. The first number bounds how deep the
walk goes, the second is the index of the node. -/
def walk : Nat → Nat → Option Holder → Config → String → Config → Walk
  | 0, _, _, _, _, _ => ⟨[], some .endless⟩
  | depth + 1, index, parent, inherited, name, own =>
      match resolve inherited own with
      | .error cause => ⟨[], some (.option cause)⟩
      | .ok resolved =>
          if resolved.options.isTask then
            if resolved.subtasks.isEmpty then
              ⟨[⟨name, index, parent, [], .task, resolved.options⟩], none⟩
            else ⟨[], some (Error.taskWithSubtasks own).raised⟩
          else
            closeGroup ⟨name, index, parent, [], .group, resolved.options⟩
              (walkBelow (fun place => walk depth place (some ⟨index, name⟩) resolved.defaults)
                (index + 1) resolved.subtasks)

end TaskGraph.Compiler
