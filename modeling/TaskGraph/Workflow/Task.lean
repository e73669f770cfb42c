import TaskGraph.Workflow.Coercion
set_option autoImplicit false

/-! The nodes of a task graph. A task refers to its group and to the tasks it waits for by their
indexes, all of them smaller than its own. -/

namespace TaskGraph

/-- One node of a task graph: its name and index, the index of the group that holds it, the indexes
of the nodes that must complete before it, whether it runs something, and its resolved options. -/
structure Task where
  name : String
  index : Nat
  parent : Option Int
  upstreams : List Nat
  kind : Kind
  config : Config
  name_ne : name ≠ ""
  parent_lt : ∀ p, parent = some p → p < index
  upstreams_lt : ∀ u ∈ upstreams, u < index
  upstreams_nodup : upstreams.Nodup

namespace Task

def model : String := "WorkflowTask"

inductive Fault where
  | emptyName
  | negativeIndex (index : Int)
  | lateParent (parent : Int) (name : String) (index : Int)
  | lateUpstream (upstream : Int) (name : String) (index : Int)
  | repeatedUpstream (name : String)
deriving DecidableEq

def Fault.message : Fault → String
  | emptyName => "Task name must not be empty"
  | negativeIndex index => "Task index must not be negative: " ++ toString index
  | lateParent parent name index =>
      "Parent index " ++ toString parent ++ " of task '" ++ name ++
        "' must be smaller than its index " ++
        toString index
  | lateUpstream upstream name index =>
      "Upstream index " ++ toString upstream ++ " of task '" ++ name ++ "' must be in range 0.." ++
        toString (index - 1)
  | repeatedUpstream name => "Duplicate upstream indexes on task '" ++ name ++ "'"

def isLate (index upstream : Int) : Bool := upstream < 0 || index ≤ upstream

theorem toNat_lt_of_not_late {index upstream : Int} (early : isLate index upstream = false) :
    upstream.toNat < index.toNat := by
  simp only [isLate, Bool.or_eq_false_iff, decide_eq_false_iff_not] at early
  omega

/-- Builds a task from its parts, if they keep the rules; the first broken one is reported. -/
def make (name : String) (index : Int) (parent : Option Int) (upstreams : List Int) (kind : Kind)
    (config : Config) : Except Fault Task :=
  if named : name = "" then .error .emptyName
  else if negative : index < 0 then .error (.negativeIndex index)
  else match group : parent.filter fun p => index ≤ p with
    | some p => .error (.lateParent p name index)
    | none =>
        match late : upstreams.find? (isLate index) with
        | some u => .error (.lateUpstream u name index)
        | none =>
            if distinct : (upstreams.map Int.toNat).Nodup then
              .ok
                { name, index := index.toNat, parent, upstreams :=
                  upstreams.map Int.toNat, kind, config
                  name_ne := named
                  parent_lt := by
                    intro p isParent
                    have early : ¬ index ≤ p := by simpa [isParent, Option.filter] using group
                    omega
                  upstreams_lt := by
                    intro u member
                    obtain ⟨upstream, given, same⟩ := List.mem_map.mp member
                    have early := List.find?_eq_none.mp late upstream given
                    rw [← same]
                    exact toNat_lt_of_not_late (by simpa using early)
                  upstreams_nodup := distinct }
            else .error (.repeatedUpstream name)

/-- Reads a task from its fields. Complaints about fields come in the order of the fields; the rules
are checked only if there are none. -/
def read (fields : Fields Value) : Reading Task :=
  let name := Coercion.required fields "name" Coercion.text
  let index := Coercion.required fields "index" Coercion.integer
  let parent := Coercion.optional fields "parent_index" none Coercion.optionalInteger
  let upstreams := Coercion.optional fields "upstream_indexes" [] (Coercion.tuple Coercion.integer)
  let kind := Coercion.optional fields "kind" .task Coercion.kind
  let config := Coercion.optional fields "config" Config.empty.freeze Coercion.config
  match name, index, parent, upstreams, kind, config with
  | .ok name, .ok index, .ok parent, .ok upstreams, .ok kind, .ok config =>
      match make name index parent upstreams kind config with
      | .ok task => .ok task
      | .error fault => Reading.refuse (.rule fault.message)
  | _, _, _, _, _, _ =>
      .error (name.complaints ++ index.complaints ++ parent.complaints ++ upstreams.complaints ++
        kind.complaints ++ config.complaints)

def ofFields (fields : Fields Value) : Except Rejection Task := (read fields).toRecord model

def isGroup (task : Task) : Bool := task.kind = .group

end Task
end TaskGraph
