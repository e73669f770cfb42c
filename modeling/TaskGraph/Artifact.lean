import TaskGraph.Json.Write
import TaskGraph.Schema.Compiled
import TaskGraph.Storage.Files
import TaskGraph.Workflow.Serial
set_option autoImplicit false

/-! Artifacts: compiled workflows as JSON documents. An artifact is
checked against a schema before anything is written. -/

namespace TaskGraph.Artifact

/-- Why there is no artifact. -/
inductive Error where
  | serial (cause : SerialError)
  | schema (cause : Schema.Failure)
  | storage (cause : StorageError)

/-- What an artifact is checked against. -/
inductive Contract where
  | unchecked
  | builtIn
  | custom (schema : Value)

def Contract.check (contract : Contract) (data : Value) : Except Schema.Failure Unit :=
  match contract with
  | .unchecked => .ok ()
  | .builtIn => Schema.validateCompiled data none
  | .custom schema => Schema.validateCompiled data (some schema)

def document (workflow : Workflow) (contract : Contract) : Except Error Json :=
  match workflow.toDict with
  | .error cause => .error (.serial cause)
  | .ok data => match contract.check data with
      | .error cause => .error (.schema cause)
      | .ok () => match Json.ofValue data with
          | .error cause => .error (.serial cause)
          | .ok document => .ok document

def render (workflow : Workflow) (contract : Contract) : Except Error (List Char) :=
  (document workflow contract).map (Json.write true)

/-- The text of an artifact for reading: every name once, and all characters as they are. -/
def renderPlainly (workflow : Workflow) (contract : Contract) : Except Error (List Char) :=
  (document workflow contract).map fun document => Json.write false document.merged

def content (text : List Char) : List UInt8 := Text.encodeUtf8 (text ++ ['\n'])

/-- Writes an artifact into a file and gives the path back. Nothing
is changed unless there is a text to write. -/
def write (tree : FileTree) (path : Path) (workflow : Workflow) (contract : Contract) :
    FileTree × Except Error String :=
  match render workflow contract with
  | .error cause => (tree, .error cause)
  | .ok text => match tree.write path (content text) with
      | (tree, .error cause) => (tree, .error (.storage cause))
      | (tree, .ok ()) => (tree, .ok path.text)

end TaskGraph.Artifact
