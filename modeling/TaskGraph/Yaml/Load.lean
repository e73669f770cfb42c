import TaskGraph.Value.Members
import TaskGraph.Yaml.Node
import TaskGraph.Yaml.Scalar
set_option autoImplicit false

/-! The value of a YAML document. Values are made level by level: a collection is begun when its
turn comes and gets its contents when everything on its own level was begun. The first fault in this
order is the one that is reported. -/

namespace TaskGraph.Yaml

namespace Node

def asKey : Node → Node
  | scalar .default content => scalar .text content
  | sequence .default items => sequence .text items
  | mapping .default entries => mapping .text entries
  | node => node

mutual

/-- The entries of a mapping in which the mappings under merge
keys are written out before all others. -/
def mergedEntries : List (Node × Node) → Except Error (List (Node × Node) × List (Node × Node))
  | [] => .ok ([], [])
  | (key, value) :: rest =>
      if key.tag = .merge then
        match sources value, mergedEntries rest with
        | .error cause, _ => .error cause
        | _, .error cause => .error cause
        | .ok merged, .ok (others, own) => .ok (merged ++ others, own)
      else (mergedEntries rest).map fun (merged, own) => (merged, (key.asKey, value) :: own)

/-- The entries that a merge key adds: those of one mapping, or of several, the last one first. -/
def sources : Node → Except Error (List (Node × Node))
  | mapping _ entries => (mergedEntries entries).map fun (merged, own) => merged ++ own
  | sequence _ items => sourcesOf items
  | scalar _ _ => .error (.malformed "a merge needs a mapping")

def sourcesOf : List Node → Except Error (List (Node × Node))
  | [] => .ok []
  | mapping _ entries :: rest =>
      match mergedEntries entries, sourcesOf rest with
      | .error cause, _ => .error cause
      | _, .error cause => .error cause
      | .ok (merged, own), .ok others => .ok (others ++ (merged ++ own))
  | _ :: _ => .error (.malformed "a merge needs mappings")

end

def entriesOf : Node → Except Error (List (Node × Node))
  | mapping _ entries => (mergedEntries entries).map fun (merged, own) => merged ++ own
  | _ => .error (.malformed "a mapping is needed")

def text? : Node → Option (List Char)
  | scalar _ content => some content
  | sequence _ _ => none
  | mapping _ entries => textOf? entries
where
  /-- The text of the default entry. -/
  textOf? : List (Node × Node) → Option (List Char)
    | [] => none
    | (key, value) :: rest => if key.tag = .default then text? value else textOf? rest

def isCollectionTag : Tag → Bool
  | .sequence => true
  | .mapping => true
  | .set => true
  | .orderedMapping => true
  | .pairs => true
  | _ => false

/-- The value of a node whose type is that of a scalar. A mapping cannot stand for a moment. -/
def scalarOf (node : Node) : Except Error Value :=
  match node.text? with
  | some content => match node, node.tag with
      | mapping _ _, .timestamp => .error .noText
      | _, tag => scalarValue tag content
  | none => .error (.malformed "a scalar is needed")

def begin? (node : Node) : Except Error Unit :=
  if isCollectionTag node.tag then .ok () else node.scalarOf.map fun _ => ()

def beginAll : List Node → Except Error Unit
  | [] => .ok ()
  | node :: rest => match node.begin? with
      | .error cause => .error cause
      | .ok () => beginAll rest

def beginEntries : List (Node × Node) → Except Error Unit
  | [] => .ok ()
  | (key, value) :: rest =>
      match key.begin? with
      | .error cause => .error cause
      | .ok () =>
          if isCollectionTag key.tag then .error (.malformed "a collection is no key")
          else match value.begin? with
            | .error cause => .error cause
            | .ok () => beginEntries rest

def singleEntry : Node → Except Error (Node × Node)
  | mapping _ [entry] => .ok entry
  | _ => .error (.malformed "a mapping of one entry is needed")

def beginPairs : List Node → Except Error Unit
  | [] => .ok ()
  | item :: rest =>
      match singleEntry item with
      | .error cause => .error cause
      | .ok (key, value) => match beginAll [key, value] with
          | .error cause => .error cause
          | .ok () => beginPairs rest

def itemsOf : Node → Except Error (List Node)
  | sequence _ items => .ok items
  | _ => .error (.malformed "a sequence is needed")

def fill (node : Node) : Except Error (List Node) :=
  match node.tag with
  | .sequence => node.itemsOf.bind fun items => (beginAll items).map fun _ => items
  | .orderedMapping =>
      node.itemsOf.bind fun items => (beginPairs items).map fun _ => pairNodes items
  | .pairs => node.itemsOf.bind fun items => (beginPairs items).map fun _ => pairNodes items
  | .mapping =>
      node.entriesOf.bind fun entries => (beginEntries entries).map fun _ => entries.map (·.2)
  | .set => node.entriesOf.bind fun entries => (beginEntries entries).map fun _ => entries.map (·.2)
  | _ => .ok []
where
  /-- The keys and values of ordered entries. -/
  pairNodes (items : List Node) : List Node :=
    items.flatMap fun item => match item with
      | mapping _ [(key, value)] => [key, value]
      | _ => []

def fillAll : List Node → Except Error (List Node)
  | [] => .ok []
  | node :: rest => match node.fill with
      | .error cause => .error cause
      | .ok held => (fillAll rest).map (held ++ ·)

def fillLevels : Nat → List Node → Except Error Unit
  | 0, _ => .ok ()
  | levels + 1, nodes => match fillAll nodes with
      | .error cause => .error cause
      | .ok held => if held.isEmpty then .ok () else fillLevels levels held

def check (root : Node) : Except Error Unit :=
  match root.begin? with
  | .error cause => .error cause
  | .ok () => fillLevels (root.depth + 1) [root]

/-- The value of a node without faults. The number bounds the depth. -/
def valueAt : Nat → Node → Value
  | 0, node => (node.scalarOf.toOption).getD .null
  | levels + 1, node =>
      let items := (node.itemsOf.toOption).getD []
      let entries := ((node.entriesOf.toOption).getD []).map fun entry =>
        (valueAt levels entry.1, valueAt levels entry.2)
      let pair (item : Node) : Value := match item.singleEntry with
        | .ok (key, value) => .tuple [valueAt levels key, valueAt levels value]
        | .error _ => .null
      match node.tag with
      | .sequence => .list (items.map (valueAt levels))
      | .orderedMapping => .list (items.map pair)
      | .pairs => .list (items.map pair)
      | .mapping => .mapping (Value.collectEntries entries)
      | .set => Value.setOfKeys (entries.map (·.1))
      | _ => (node.scalarOf.toOption).getD .null

def value (node : Node) : Except Error Value := node.check.map fun _ =>
  valueAt (node.depth + 1) node

end Node

def load (text : List Char) : Except Error Value :=
  match nodeOf text with
  | .error cause => .error cause
  | .ok none => .ok .null
  | .ok (some root) => root.value

def Error.reason : Error → String
  | malformed reason => reason
  | beyond reason => reason
  | impossible content => "an impossible value: " ++ content
  | tooLarge content => "a character with too large a number: " ++ content
  | overflow content => "a number with too many parts: " ++ content
  | emptyNumber => "a number without digits"
  | noTruth word => "not a truth value: " ++ word
  | noTimestamp content => "not a moment: " ++ content
  | noText => "a moment needs a text"

end TaskGraph.Yaml
