import TaskGraph.Artifact
import TaskGraph.CommandLine.Invocation
import TaskGraph.Console.Table
import TaskGraph.Definition
import TaskGraph.Schema.File
set_option autoImplicit false

/-! What a command line does: the files it leaves, what it prints, and how it ends. -/

namespace TaskGraph.CommandLine

/-- A failure that no message is made for. `beyond` stands for a
file whose value no tree of texts holds. -/
inductive Fault where
  | beyond
  | storage (cause : StorageError)
  | badScalar (cause : Yaml.Error)
  | serial (cause : SerialError)
  | markup (cause : Console.MarkupError)
  | check (cause : Schema.Fault)
  | longNumber

inductive Ending where
  | done
  | refused
  | failed (fault : Fault)
  | misused

/-- The exit code of an ending. None is told behind a file that is `beyond`. -/
def Ending.code? : Ending → Option Nat
  | .done => some 0
  | .refused => some 1
  | .failed .beyond => none
  | .failed _ => some 1
  | .misused => some 2

structure Result where
  files : FileTree
  output : List Char
  ending : Ending
  events : List Compiler.Event

section
variable (printer : Console.Printer)

/-- The output of printing lines of markup one after the other,
up to the first that cannot be shown. -/
def printAll : List (List Char) → List Char × Option Console.MarkupError
  | [] => ([], none)
  | markup :: rest => match printer.line markup with
      | .error cause => ([], some cause)
      | .ok text =>
          let others := printAll rest
          (text ++ others.1, others.2)

def finish (files : FileTree) (events : List Compiler.Event) (ending : Ending)
    (lines : List (List Char)) : Result :=
  match printAll printer lines with
  | (output, none) => ⟨files, output, ending, events⟩
  | (output, some cause) => ⟨files, output, .failed (.markup cause), events⟩

end

def finishWith (files : FileTree) (events : List Compiler.Event)
    (printed : Except Console.MarkupError (List Char)) :
    Result :=
  match printed with
  | .ok output => ⟨files, output, .done, events⟩
  | .error cause => ⟨files, [], .failed (.markup cause), events⟩

def colored (color : String) (text : List Char) : List Char :=
  ('[' :: color.toList ++ [']']) ++ text ++ ('[' :: '/' :: color.toList ++ [']'])

def errorLine (label message : String) : List Char :=
  colored "red" label.toList ++ ' ' :: Console.escapeMarkup message.toList

def reportFailure : Definition.Failure → Except Fault (List Char)
  | .definition (.storage cause _) => .error (.storage cause)
  | .definition (.badScalar cause) => .error (.badScalar cause)
  | .definition (.longKey _) => .error .longNumber
  | .definition (.beyond _) => .error .beyond
  | .definition (.notFound path) =>
      .ok (errorLine "Error:" (Definition.Error.notFound path).diagnostic.text)
  | .definition cause => .ok (errorLine "Definition Error:" cause.diagnostic.text)
  | .compile (.option .tooLong) => .error .longNumber
  | .compile cause => .ok (errorLine "Config Error:" cause.message)

def reportSchemaFile : Schema.FileError → Except Fault (List Char)
  | .storage cause _ => .error (.storage cause)
  | .tooLong _ => .error .longNumber
  | .beyond _ => .error .beyond
  | .unreadable cause _ => .error (.check cause)
  | .notFound path => .ok (errorLine "Error:" (Schema.FileError.notFound path).diagnostic.text)
  | cause => .ok (errorLine "Schema Error:" cause.diagnostic.text)

/-- The lines for an artifact that breaks its schema: a summary and a line for each violation. -/
def reportViolations (error : Schema.Error) : List (List Char) :=
  errorLine "Schema Error:" error.diagnostic.text ::
    error.lines.map fun line => [' ', ' ', '•', ' '] ++ Console.escapeMarkup line.toList

section
variable (printer : Console.Printer)

def refuse (files : FileTree) (events : List Compiler.Event)
    (report : Except Fault (List Char)) : Result :=
  match report with
  | .ok line => finish printer files events .refused [line]
  | .error fault => ⟨files, [], .failed fault, events⟩

def refuseArtifact (files : FileTree) (events : List Compiler.Event) : Artifact.Error → Result
  | .schema (.violated cause) => finish printer files events .refused (reportViolations cause)
  | .schema (.brokenOff cause) => ⟨files, [], .failed (.check cause), events⟩
  | .serial cause => ⟨files, [], .failed (.serial cause), events⟩
  | .storage cause => ⟨files, [], .failed (.storage cause), events⟩

end

def writtenLine (workflow : Workflow) (path : String) : List Char :=
  colored "green" ("✓ Wrote " ++ toString workflow.tasks.size ++ " tasks to " ++ path).toList

def validLine (workflow : Workflow) : List Char :=
  colored "green"
    ("✓ Workflow '" ++ workflow.name ++ "' is valid (" ++ toString workflow.tasks.size ++
      " tasks)").toList

def taskRow (task : Task) : List (List Char) :=
  [(toString task.index).toList, task.name.toList, task.kind.word.toList,
    match task.parent with
    | none => []
    | some parent => (toString parent).toList,
    (String.intercalate ", " (task.upstreams.map toString)).toList]

def workflowTable (workflow : Workflow) : Console.Table :=
  ⟨("Workflow " ++ workflow.name).toList,
    [⟨"Index", .right, true⟩, ⟨"Name", .left, false⟩, ⟨"Kind", .left, true⟩,
      ⟨"Parent", .right, true⟩, ⟨"Upstreams", .left, true⟩],
    workflow.tasks.tasks.map taskRow⟩

def given? (option : Option String) : Option String := option.filter fun value => !value.isEmpty

def contractOf (files : FileTree) (schema : Option String) :
    Except Schema.FileError Artifact.Contract :=
  match given? schema with
  | none => .ok .builtIn
  | some path => (Schema.load files (Path.ofString path)).map .custom

section
variable (printer : Console.Printer)

def emit (files : FileTree) (events : List Compiler.Event) (output : Option String)
    (workflow : Workflow) (contract : Artifact.Contract) : Result :=
  match given? output with
  | none => match Artifact.renderPlainly workflow contract with
      | .error cause => refuseArtifact printer files events cause
      | .ok text => ⟨files, text ++ ['\n'], .done, events⟩
  | some path => match Artifact.write files (Path.ofString path) workflow contract with
      | (files, .error cause) => refuseArtifact printer files events cause
      | (files, .ok written) => finish printer files events .done [writtenLine workflow written]

def perform (files : FileTree) (events : List Compiler.Event) (invocation : Invocation)
    (contract : Artifact.Contract) (workflow : Workflow) : Result :=
  match invocation.command with
  | .compile => emit printer files events invocation.output workflow contract
  | .validate => finish printer files events .done [validLine workflow]
  | .present => finishWith files events (printer.table (workflowTable workflow))

/-- Runs a command. A schema is read first, then the definition. -/
def Invocation.run (files : FileTree) (invocation : Invocation) : Result :=
  match contractOf files invocation.schema with
  | .error cause => refuse printer files [] (reportSchemaFile cause)
  | .ok contract =>
      match Definition.compileFileRecorded files (Path.ofString invocation.file)
        invocation.name with
      | (.error cause, events) => refuse printer files events (reportFailure cause)
      | (.ok workflow, events) => perform printer files events invocation contract workflow

def run (files : FileTree) (words : List String) : Result :=
  match Invocation.read? words with
  | none => ⟨files, [], .misused, []⟩
  | some invocation => invocation.run printer files

end

end TaskGraph.CommandLine
