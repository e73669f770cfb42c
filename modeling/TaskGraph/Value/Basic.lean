import TaskGraph.Calendar
set_option autoImplicit false

/-! The values that definitions, schemas and artifacts are made of. -/

namespace TaskGraph

/-- A value as a definition can hold it. A mapping lists its entries in order; `config` is a mapping
with text keys only, which may be read-only. -/
inductive Value where
  | null
  | bool (truth : Bool)
  | int (number : Int)
  | float (number : Binary64)
  | text (content : String)
  | bytes (content : List UInt8)
  | date (day : Date)
  | moment (time : DateTime)
  | list (items : List Value)
  | tuple (items : List Value)
  | set (members : List Value)
  | mapping (entries : List (Value × Value))
  | config (fields : List (String × Value)) (frozen : Bool)

namespace Value

instance : Inhabited Value := ⟨null⟩

def typeName : Value → String
  | null => "NoneType"
  | bool _ => "bool"
  | int _ => "int"
  | float _ => "float"
  | text _ => "str"
  | bytes _ => "bytes"
  | date _ => "date"
  | moment _ => "datetime"
  | list _ => "list"
  | tuple _ => "tuple"
  | set _ => "set"
  | mapping _ => "dict"
  | config _ _ => "Config"

def isNull : Value → Bool
  | null => true
  | _ => false

def entriesOf (fields : List (String × Value)) : List (Value × Value) :=
  fields.map fun field => (text field.1, field.2)

def ofFields (fields : List (String × Value)) : Value := mapping (entriesOf fields)

mutual

def depth : Value → Nat
  | list items => depthList items + 1
  | tuple items => depthList items + 1
  | set members => depthList members + 1
  | mapping entries => depthEntries entries + 1
  | config fields _ => depthFields fields + 1
  | _ => 0

def depthList : List Value → Nat
  | [] => 0
  | item :: rest => max item.depth (depthList rest)

def depthEntries : List (Value × Value) → Nat
  | [] => 0
  | (key, value) :: rest => max (max key.depth value.depth) (depthEntries rest)

def depthFields : List (String × Value) → Nat
  | [] => 0
  | (_, value) :: rest => max value.depth (depthFields rest)

end

mutual

def size : Value → Nat
  | list items => sizeList items + 1
  | tuple items => sizeList items + 1
  | set members => sizeList members + 1
  | mapping entries => sizeEntries entries + 1
  | config fields _ => sizeFields fields + 1
  | _ => 1

def sizeList : List Value → Nat
  | [] => 0
  | item :: rest => item.size + sizeList rest

def sizeEntries : List (Value × Value) → Nat
  | [] => 0
  | (key, value) :: rest => key.size + value.size + sizeEntries rest

def sizeFields : List (String × Value) → Nat
  | [] => 0
  | (_, value) :: rest => value.size + sizeFields rest

end

/-- Induction over a value and the values that it is made of, its keys among them. -/
@[induction_eliminator]
theorem induction {motive : Value → Prop} (null : motive .null)
    (bool : ∀ truth, motive (.bool truth)) (int : ∀ number, motive (.int number))
    (float : ∀ number, motive (.float number)) (text : ∀ content, motive (.text content))
    (bytes : ∀ content, motive (.bytes content)) (date : ∀ day, motive (.date day))
    (moment : ∀ time, motive (.moment time))
    (list : ∀ items, (∀ item ∈ items, motive item) → motive (.list items))
    (tuple : ∀ items, (∀ item ∈ items, motive item) → motive (.tuple items))
    (set : ∀ members, (∀ item ∈ members, motive item) → motive (.set members))
    (mapping : ∀ entries, (∀ entry ∈ entries, motive entry.1) →
      (∀ entry ∈ entries, motive entry.2) → motive (.mapping entries))
    (config : ∀ fields frozen, (∀ field ∈ fields, motive field.2) →
      motive (.config fields frozen)) (value : Value) : motive value := by
  refine @Value.rec motive (fun items => ∀ item ∈ items, motive item)
    (fun entries => (∀ entry ∈ entries, motive entry.1) ∧ ∀ entry ∈ entries, motive entry.2)
    (fun fields => ∀ field ∈ fields, motive field.2)
    (fun entry => motive entry.1 ∧ motive entry.2) (fun field => motive field.2)
    null bool int float text bytes date moment list tuple set
    (fun entries each => mapping entries each.1 each.2) config ?_ ?_ ?_ ?_ ?_ ?_ ?_ ?_ value
  case refine_1 | refine_5 => exact List.forall_mem_nil _
  case refine_3 => exact ⟨List.forall_mem_nil _, List.forall_mem_nil _⟩
  case refine_2 | refine_6 => exact fun _ _ here later => List.forall_mem_cons.mpr ⟨here, later⟩
  case refine_4 =>
    exact fun _ _ here later => ⟨List.forall_mem_cons.mpr ⟨here.1, later.1⟩,
      List.forall_mem_cons.mpr ⟨here.2, later.2⟩⟩
  case refine_7 => exact fun _ _ key value => ⟨key, value⟩
  case refine_8 => exact fun _ _ value => value

end Value
end TaskGraph
