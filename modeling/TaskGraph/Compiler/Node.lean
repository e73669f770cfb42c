import TaskGraph.Compiler.Resolved
import TaskGraph.Workflow.Basic
set_option autoImplicit false

/-! The nodes of a graph while its definition is walked, and the upstreams that a group gives to its
children: a chain if it runs them one by one, the siblings they name in `after` if it runs them in
parallel. -/

namespace TaskGraph.Compiler

structure Holder where
  index : Nat
  name : String
deriving DecidableEq

structure Node where
  name : String
  index : Nat
  parent : Option Holder
  upstreams : List Nat
  kind : Kind
  config : Config

def siblingIndexes (earlier : Fields Nat) (config : Config) : List String → Except Error (List Nat)
  | [] => .ok []
  | name :: rest =>
      match earlier.get? name with
      | none => .error (.unknownDependency name config)
      | some index => (siblingIndexes earlier config rest).map fun others =>
          index :: others.filter (· ≠ index)

/-- The upstreams of the children of a parallel group; only earlier siblings can be named. -/
def namedUpstreams : Fields Nat → List Node → Except Error (List (List Nat))
  | _, [] => .ok []
  | earlier, child :: rest =>
      match child.config.names "after" with
      | .error cause => .error (.option cause)
      | .ok names =>
          match siblingIndexes earlier child.config names with
          | .error cause => .error cause
          | .ok upstreams =>
              (namedUpstreams (earlier.put child.name child.index) rest).map (upstreams :: ·)

def chainedUpstreams : List Nat → List Node → List (List Nat)
  | _, [] => []
  | before, child :: rest => before :: chainedUpstreams [child.index] rest

def upstreamsOf (group : Config) (children : List Node) : Except Error (List (List Nat)) :=
  match group.bool "parallel" false with
  | .error cause => .error (.option cause)
  | .ok true => namedUpstreams [] children
  | .ok false =>
      if group.has "after" then .error (.afterWithoutParallel group)
      else .ok (chainedUpstreams [] children)

def linkBlock (upstreams : List Nat) : List Node → List Node
  | [] => []
  | first :: rest => { first with upstreams } :: rest

def linkBlocks : List (List Nat) → List (List Node) → List (List Node)
  | upstreams :: others, block :: rest => linkBlock upstreams block :: linkBlocks others rest
  | _, _ => []

end TaskGraph.Compiler
