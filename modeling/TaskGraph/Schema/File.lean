import TaskGraph.Diagnostic
import TaskGraph.Json.Read
import TaskGraph.Schema.WellFormed
import TaskGraph.Storage.Files
set_option autoImplicit false

/-! Schemas in files: a file holds one JSON document, which must be an object and a schema. -/

namespace TaskGraph.Schema

inductive FileError where
  | notFound (path : String)
  | storage (cause : StorageError) (path : String)
  | notJson (path : String)
  | notObject (typeName path : String)
  | illFormed (path : String)
  | tooLong (path : String)
  | beyond (path : String)
  | unreadable (fault : Fault) (path : String)
deriving DecidableEq

def FileError.diagnostic : FileError → Diagnostic
  | .notFound path => ⟨"Schema file not found: " ++ path, []⟩
  | .storage _ path => ⟨"Schema file cannot be read: " ++ path, []⟩
  | .notJson path => .about "Schema is not valid JSON: unexpected text" "path" (.text path)
  | .notObject typeName path =>
      .about ("Schema must be a JSON object, got " ++ typeName) "path" (.text path)
  | .illFormed path =>
      .about "Invalid JSON schema: a keyword has the wrong form" "path" (.text path)
  | .tooLong path => .about "A number has too many digits" "path" (.text path)
  | .beyond path => .about "A text holds half a character" "path" (.text path)
  | .unreadable _ path => .about "A pattern cannot be read" "path" (.text path)

def ofDocument (path : String) (document : Json) : Except FileError Value :=
  match document.toValue with
  | .mapping entries => match schemaFlaw? (.mapping entries) with
      | none => .ok (.mapping entries)
      | some .illFormed => .error (.illFormed path)
      | some (.unreadable fault) => .error (.unreadable fault path)
  | other => .error (.notObject other.typeName path)

def ofContent (path : String) (content : List UInt8) : Except FileError Value :=
  match FileTree.textOf content with
  | none => .error (.notJson path)
  | some text => match Json.read text with
      | .error .malformed => .error (.notJson path)
      | .error .tooLong => .error (.tooLong path)
      | .error .halfCharacter => .error (.beyond path)
      | .ok document => ofDocument path document

def load (tree : FileTree) (path : Path) : Except FileError Value :=
  match tree.content? path with
  | .error cause => .error (.storage cause path.text)
  | .ok none => .error (.notFound path.text)
  | .ok (some content) => ofContent path.text content

end TaskGraph.Schema
