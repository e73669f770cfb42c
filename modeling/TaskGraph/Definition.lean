import TaskGraph.Compiler.Compile
import TaskGraph.Diagnostic
import TaskGraph.Storage.Files
import TaskGraph.Text.Lines
import TaskGraph.Yaml.Load
set_option autoImplicit false

/-! Definitions as texts and files: a YAML document that is a mapping, or nothing. -/

namespace TaskGraph.Definition

/-- Why a text or file gives no definition. `badScalar` is a scalar whose text does not fit its
type, `longKey` a key with a number that is too long to be written, and `beyond` a text whose value
no tree of texts holds. -/
inductive Error where
  | notFound (path : String)
  | storage (cause : StorageError) (path : String)
  | notUtf8 (source : String)
  | malformed (reason source : String)
  | beyond (reason : String)
  | badScalar (cause : Yaml.Error)
  | notObject (typeName source : String)
  | longKey (source : String)

def Error.diagnostic : Error → Diagnostic
  | .notFound path => ⟨"Workflow file not found: " ++ path, []⟩
  | .storage _ path => ⟨"Workflow file cannot be read: " ++ path, []⟩
  | .notUtf8 source =>
      .about "Definition is not valid UTF-8: an unexpected byte" "path" (.text source)
  | .malformed reason source => .about ("Invalid YAML: " ++ reason) "path" (.text source)
  | .beyond reason => ⟨reason, []⟩
  | .badScalar cause => ⟨cause.reason, []⟩
  | .notObject typeName source =>
      .about ("Workflow definition must be a YAML object, got " ++ typeName) "path" (.text source)
  | .longKey source => .about "A key is too long to be written" "path" (.text source)

/-- Reads a definition from a text; `source` names it in errors.
An empty document is an empty definition. -/
def parse (text : List Char) (source : String) : Except Error Config :=
  match Yaml.load text with
  | .error (.malformed reason) => .error (.malformed reason source)
  | .error (.beyond reason) => .error (.beyond reason)
  | .error cause => .error (.badScalar cause)
  | .ok .null => .ok Config.empty
  | .ok (.mapping entries) => (Config.ofValue (.mapping entries)).mapError fun _ => .longKey source
  | .ok other => .error (.notObject other.typeName source)

def anonymous : String := "<string>"

def load (tree : FileTree) (path : Path) : Except Error Config :=
  match tree.content? path with
  | .error cause => .error (.storage cause path.text)
  | .ok none => .error (.notFound path.text)
  | .ok (some content) => match FileTree.textOf content with
      | none => .error (.notUtf8 path.text)
      | some text => parse text path.text

inductive Failure where
  | definition (cause : Error)
  | compile (cause : Compiler.Error)

def compileText (text : List Char) (name : String) : Except Failure Workflow :=
  match parse (Text.dedent text) anonymous with
  | .error cause => .error (.definition cause)
  | .ok config => match (Compiler.compile name config).result with
      | .error cause => .error (.compile cause)
      | .ok workflow => .ok workflow

/-- The name of a workflow: the given one, or the stem of its
file if none or an empty one is given. -/
def workflowName (path : Path) : Option String → String
  | some name => if name.isEmpty then path.stem else name
  | none => path.stem

def compileFileRecorded (tree : FileTree) (path : Path) (name : Option String) :
    Except Failure Workflow × List Compiler.Event :=
  match load tree path with
  | .error cause => (.error (.definition cause), [])
  | .ok config =>
      let outcome := Compiler.compile (workflowName path name) config
      match outcome.result with
      | .error cause => (.error (.compile cause), outcome.events)
      | .ok workflow => (.ok workflow, outcome.events)

def compileFile (tree : FileTree) (path : Path) (name : Option String) : Except Failure Workflow :=
  (compileFileRecorded tree path name).1

end TaskGraph.Definition
